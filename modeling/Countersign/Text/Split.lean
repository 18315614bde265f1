/-!
# Dividing texts

Texts are divided at single characters.
-/

namespace Countersign
namespace Split

/-- The parts of a text between separators. -/
def parts (separator : Char → Bool) : List Char → List (List Char)
  | [] => [[]]
  | character :: rest =>
    if separator character then [] :: parts separator rest
    else
      match parts separator rest with
      | [] => [[character]]
      | first :: more => (character :: first) :: more

/-- Divides a text at the first occurrence of a character. -/
def atFirst (mark : Char) (text : List Char) : List Char × Option (List Char) :=
  match text.span (· != mark) with
  | (front, _ :: back) => (front, some back)
  | (front, []) => (front, none)

/-- Divides a text at the last occurrence of a character. -/
def atLast (mark : Char) (text : List Char) : Option (List Char × List Char) :=
  match text.reverse.span (· != mark) with
  | (back, _ :: front) => some (front.reverse, back.reverse)
  | (_, []) => none

end Split
end Countersign
