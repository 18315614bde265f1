import Countersign.Json.Document

/-!
# Writing documents

The compact form has no blanks.  The indented form puts every element and member on a line of its
own, two blanks deeper than its container, and keeps empty containers on one line.
-/

namespace Countersign
namespace Json

namespace Writer

/-- One character inside a string: quotes, backslashes and controls are escaped. -/
def escape (character : Char) : List Char :=
  if character = '"' then ['\\', '"']
  else if character = '\\' then ['\\', '\\']
  else if character = '\x08' then ['\\', 'b']
  else if character = '\x0c' then ['\\', 'f']
  else if character = '\n' then ['\\', 'n']
  else if character = '\r' then ['\\', 'r']
  else if character = '\t' then ['\\', 't']
  else if character.toNat < 0x20 then
    ['\\', 'u', '0', '0', Nat.digitChar (character.toNat / 16),
      Nat.digitChar (character.toNat % 16)]
  else [character]

/-- A string with its quotes. -/
def quoted (text : String) : List Char :=
  '"' :: text.toList.flatMap escape ++ ['"']

/-- How containers are laid out. -/
structure Layout where
  /-- What stands before an element or a closing mark at a depth of nesting. -/
  lineBreak : Nat → List Char
  /-- What stands between a member's name and its value. -/
  colon : List Char

/-- No blanks at all. -/
def Layout.compact : Layout :=
  ⟨fun _ => [], [':']⟩

/-- One line for every element and member, indented by two blanks a level. -/
def Layout.indented : Layout :=
  ⟨fun depth => '\n' :: List.replicate (2 * depth) ' ', [':', ' ']⟩

mutual

/-- The characters of a document at a depth of nesting. -/
def chars (layout : Layout) (depth : Nat) : Document → List Char
  | .null => ['n', 'u', 'l', 'l']
  | .bool true => ['t', 'r', 'u', 'e']
  | .bool false => ['f', 'a', 'l', 's', 'e']
  | .number numeral => numeral.toChars
  | .string text => quoted text
  | .array [] => ['[', ']']
  | .array (first :: rest) =>
    '[' :: layout.lineBreak (depth + 1) ++ chars layout (depth + 1) first ++
      elementChars layout depth rest
  | .object [] => ['\x7b', '\x7d']
  | .object ((name, value) :: rest) =>
    '\x7b' :: layout.lineBreak (depth + 1) ++ quoted name ++ layout.colon ++
      chars layout (depth + 1) value ++ memberChars layout depth rest
  | .broken _ => []

/-- The further elements of an array and its closing bracket. -/
def elementChars (layout : Layout) (depth : Nat) : List Document → List Char
  | [] => layout.lineBreak depth ++ [']']
  | element :: rest =>
    ',' :: layout.lineBreak (depth + 1) ++ chars layout (depth + 1) element ++
      elementChars layout depth rest

/-- The further members of an object and its closing brace. -/
def memberChars (layout : Layout) (depth : Nat) : List (String × Document) → List Char
  | [] => layout.lineBreak depth ++ ['\x7d']
  | (name, value) :: rest =>
    ',' :: layout.lineBreak (depth + 1) ++ quoted name ++ layout.colon ++
      chars layout (depth + 1) value ++ memberChars layout depth rest

end

end Writer

/-- The text of a document without blanks. -/
def Document.compact (document : Document) : String :=
  String.ofList (Writer.chars .compact 0 document)

/-- The text of a document with one line for every element and member. -/
def Document.indented (document : Document) : String :=
  String.ofList (Writer.chars .indented 0 document)

end Json
end Countersign
