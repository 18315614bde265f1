import Countersign.Json.Lexer

/-!
# Reading documents

A reading never fails: where the text stops being JSON the document holds the part that could not be
read, and nothing remains to be read after it.
-/

namespace Countersign
namespace Json

/-- A part of a document read from the front of a text. -/
structure Reading (α : Type) where
  /-- The part. -/
  part : α
  /-- What follows it; nothing once the text has stopped being JSON. -/
  rest : Option Source

namespace Reader

/-- The reading at a place where the text stops being JSON. -/
def stop : Reading Document :=
  ⟨.broken .notJson, none⟩

/-- Reads a fixed word and gives the document that it spells. -/
def word (document : Document) : List Char → Source → Reading Document
  | [], source => ⟨document, some source⟩
  | expected :: more, some character :: rest =>
    if character = expected then word document more rest else stop
  | _ :: _, _ => stop

/-- Reads a string after its opening quote. -/
def string (source : Source) : Reading Document :=
  match Lexer.readString source with
  | some (some text, rest) => ⟨.string text, some rest⟩
  | some (none, rest) => ⟨.broken .notText, some rest⟩
  | none => stop

/-- Reads a numeral. -/
def number (source : Source) : Reading Document :=
  match Lexer.readNumeral source with
  | some (numeral, rest) => ⟨.number numeral, some rest⟩
  | none => stop

/-- The member of a given name, if the name denotes a text. -/
def member (name : Option String) (value : Document) : String × Document :=
  match name with
  | some name => (name, value)
  | none => ("", if value.isJson then .broken .namelessMember else .broken .notJson)

mutual

/-- Reads a document at the front of a text; `fuel` bounds the number of parts. -/
def document : (fuel : Nat) → Source → Reading Document
  | 0, _ => stop
  | fuel + 1, source =>
    match Lexer.skipBlanks source with
    | some 'n' :: rest => word .null ['u', 'l', 'l'] rest
    | some 't' :: rest => word (.bool true) ['r', 'u', 'e'] rest
    | some 'f' :: rest => word (.bool false) ['a', 'l', 's', 'e'] rest
    | some '"' :: rest => string rest
    | some '[' :: rest =>
      match Lexer.skipBlanks rest with
      | some ']' :: after => ⟨.array [], some after⟩
      | inside =>
        let reading := elements fuel inside
        ⟨.array reading.part, reading.rest⟩
    | some '{' :: rest =>
      match Lexer.skipBlanks rest with
      | some '}' :: after => ⟨.object [], some after⟩
      | inside =>
        let reading := members fuel inside
        ⟨.object reading.part, reading.rest⟩
    | some character :: rest =>
      if character = '-' ∨ (Digit.ofChar? character).isSome then number (some character :: rest)
      else stop
    | _ => stop

/-- Reads the elements of an array up to its closing bracket. -/
def elements : (fuel : Nat) → Source → Reading (List Document)
  | 0, _ => ⟨[.broken .notJson], none⟩
  | fuel + 1, source =>
    let first := document fuel source
    match first.rest with
    | none => ⟨[first.part], none⟩
    | some rest =>
      match Lexer.skipBlanks rest with
      | some ']' :: after => ⟨[first.part], some after⟩
      | some ',' :: after =>
        let more := elements fuel after
        ⟨first.part :: more.part, more.rest⟩
      | _ => ⟨[first.part, .broken .notJson], none⟩

/-- Reads the members of an object up to its closing brace. -/
def members : (fuel : Nat) → Source → Reading Members
  | 0, _ => ⟨[("", .broken .notJson)], none⟩
  | fuel + 1, source =>
    match Lexer.skipBlanks source with
    | some '"' :: nameSource =>
      match Lexer.readString nameSource with
      | none => ⟨[("", .broken .notJson)], none⟩
      | some (name, afterName) =>
        match Lexer.skipBlanks afterName with
        | some ':' :: valueSource =>
          let value := document fuel valueSource
          let first := member name value.part
          match value.rest with
          | none => ⟨[first], none⟩
          | some rest =>
            match Lexer.skipBlanks rest with
            | some '}' :: after => ⟨[first], some after⟩
            | some ',' :: after =>
              let more := members fuel after
              ⟨first :: more.part, more.rest⟩
            | _ => ⟨[first, ("", .broken .notJson)], none⟩
        | _ => ⟨[("", .broken .notJson)], none⟩
    | _ => ⟨[("", .broken .notJson)], none⟩

end

end Reader

/-- A whole text read as one document. -/
structure Text where
  /-- The document at the front. -/
  document : Document
  /-- Whether only blanks follow it. -/
  complete : Bool

/-- Whether nothing but blanks is left. -/
def Source.isBlank (source : Source) : Bool :=
  (Lexer.skipBlanks source).isEmpty

/-- Reads a whole source.  A container and its first part share a character, so twice the length
bounds the number of parts. -/
def Text.ofSource (source : Source) : Text :=
  let reading := Reader.document (2 * source.length + 2) source
  ⟨reading.part, reading.rest.any Source.isBlank⟩

/-- Reads a whole text. -/
def Text.read (text : String) : Text :=
  Text.ofSource (Source.ofText text)

/-- Reads a whole byte string. -/
def Text.readBytes (bytes : Bytes) : Text :=
  Text.ofSource (Source.ofBytes bytes)

end Json
end Countersign
