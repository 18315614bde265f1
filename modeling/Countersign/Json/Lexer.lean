import Countersign.Json.Document
import Countersign.Text.Utf8

/-!
# Strings and numbers in a text

The smallest parts of JSON text.  A text is a list of characters in which stretches of bytes that
encode no character may stand; they are tolerated inside strings and nowhere else.
-/

namespace Countersign
namespace Json

/-- Text to be read: characters, and stretches of bytes that encode none. -/
abbrev Source := List (Option Char)

/-- A text as a source. -/
def Source.ofText (text : String) : Source :=
  text.toList.map some

/-- A byte string as a source. -/
def Source.ofBytes (bytes : Bytes) : Source :=
  Utf8.scan bytes

namespace Lexer

/-- One piece of a string: a character, a stretch of bytes that is none, or an escaped code unit. -/
inductive Piece where
  | character (value : Char)
  | noCharacter
  | unit (value : Nat)
  deriving DecidableEq, Repr

/-- Whether a character is blank between the parts of a document. -/
def isBlank (character : Char) : Bool :=
  character = ' ' || character = '\n' || character = '\r' || character = '\t'

/-- Drops the blanks at the front. -/
def skipBlanks : Source → Source
  | some character :: rest => if isBlank character then skipBlanks rest else some character :: rest
  | source => source

/-- The value of a hexadecimal digit of either case. -/
def hexValue? (character : Char) : Option Nat :=
  if '0' ≤ character ∧ character ≤ '9' then some (character.toNat - 48)
  else if 'a' ≤ character ∧ character ≤ 'f' then some (character.toNat - 87)
  else if 'A' ≤ character ∧ character ≤ 'F' then some (character.toNat - 55)
  else none

/-- The code unit that four hexadecimal digits denote. -/
def codeUnit? (first second third fourth : Char) : Option Nat := do
  let a ← hexValue? first
  let b ← hexValue? second
  let c ← hexValue? third
  let d ← hexValue? fourth
  return ((a * 16 + b) * 16 + c) * 16 + d

/-- The character that a letter after a backslash stands for. -/
def escaped? : Char → Option Char
  | '"' => some '"'
  | '\\' => some '\\'
  | '/' => some '/'
  | 'b' => some '\x08'
  | 'f' => some '\x0c'
  | 'n' => some '\n'
  | 'r' => some '\r'
  | 't' => some '\t'
  | _ => none

/-- Reads the pieces of a string up to its closing quote, and what follows the quote; nothing when
the string is not JSON.  Pieces are collected in reverse. -/
def readPieces (collected : List Piece) : Source → Option (List Piece × Source)
  | [] => none
  | none :: rest => readPieces (.noCharacter :: collected) rest
  | some '"' :: rest => some (collected.reverse, rest)
  | some '\\' :: some 'u' :: some a :: some b :: some c :: some d :: rest =>
    match codeUnit? a b c d with
    | some unit => readPieces (.unit unit :: collected) rest
    | none => none
  | some '\\' :: some letter :: rest =>
    match escaped? letter with
    | some character => readPieces (.character character :: collected) rest
    | none => none
  | some character :: rest =>
    if character = '\\' ∨ character.toNat < 0x20 then none
    else readPieces (.character character :: collected) rest

/-- The text that pieces denote: escaped surrogates must come in pairs. -/
def denote? : List Piece → Option (List Char)
  | [] => some []
  | .character character :: rest => (denote? rest).map (character :: ·)
  | .noCharacter :: _ => none
  | .unit high :: .unit low :: rest =>
    if 0xD800 ≤ high ∧ high ≤ 0xDBFF then
      if 0xDC00 ≤ low ∧ low ≤ 0xDFFF then
        (denote? rest).map (Char.ofNat (0x10000 + (high - 0xD800) * 0x400 + (low - 0xDC00)) :: ·)
      else none
    else if 0xDC00 ≤ high ∧ high ≤ 0xDFFF then none
    else (denote? (.unit low :: rest)).map (Char.ofNat high :: ·)
  | .unit high :: rest =>
    if 0xD800 ≤ high ∧ high ≤ 0xDFFF then none else (denote? rest).map (Char.ofNat high :: ·)

/-- Reads a string after its opening quote: its text if it denotes one, and what follows. -/
def readString (source : Source) : Option (Option String × Source) :=
  (readPieces [] source).map fun (pieces, rest) => ((denote? pieces).map String.ofList, rest)

/-- Reads digits as far as they go. -/
def readDigits : Source → List Digit × Source
  | some character :: rest =>
    match Digit.ofChar? character with
    | some digit =>
      let (digits, after) := readDigits rest
      (digit :: digits, after)
    | none => ([], some character :: rest)
  | source => ([], source)

/-- Reads the digits before the point: a single zero, or digits that do not begin with zero. -/
def readWhole (source : Source) : Option (List Digit × Source) :=
  match readDigits source with
  | ([], _) => none
  | (0 :: _ :: _, _) => none
  | (digits, rest) => some (digits, rest)

/-- Reads the point and the digits after it, where there is a point. -/
def readFraction : Source → Option (Option (List Digit) × Source)
  | some '.' :: rest =>
    match readDigits rest with
    | ([], _) => none
    | (digits, after) => some (some digits, after)
  | source => some (none, source)

/-- Reads the sign of an exponent. -/
def readSign : Source → Bool × Source
  | some '-' :: rest => (true, rest)
  | some '+' :: rest => (false, rest)
  | source => (false, source)

/-- Reads the exponent, where there is one. -/
def readExponent : Source → Option (Option Exponent × Source)
  | some character :: rest =>
    if character = 'e' ∨ character = 'E' then
      let (negative, digitsSource) := readSign rest
      match readDigits digitsSource with
      | ([], _) => none
      | (digits, after) => some (some ⟨negative, digits⟩, after)
    else some (none, some character :: rest)
  | source => some (none, source)

/-- Reads a numeral after its sign. -/
def readUnsigned (negative : Bool) (source : Source) : Option (Numeral × Source) := do
  let (whole, afterWhole) ← readWhole source
  let (fraction, afterFraction) ← readFraction afterWhole
  let (exponent, rest) ← readExponent afterFraction
  return (⟨negative, whole, fraction, exponent⟩, rest)

/-- Reads a numeral. -/
def readNumeral : Source → Option (Numeral × Source)
  | some '-' :: rest => readUnsigned true rest
  | source => readUnsigned false source

end Lexer
end Json
end Countersign
