/-!
# Sets of code points

The properties of characters come as tables.  A table is written as lines of words, and a word
stands for a code point or a range of them in hexadecimal digits.
-/

namespace Countersign

/-- A range of code points, both ends included. -/
structure CodeRange where
  /-- The first one. -/
  first : Nat
  /-- The last one. -/
  last : Nat
  deriving DecidableEq, Repr

namespace CodeRange

/-- Whether a code point lies in a range. -/
def contains (range : CodeRange) (code : Nat) : Bool :=
  range.first ≤ code && code ≤ range.last

end CodeRange

namespace CodeTable

/-- The value of an uppercase hexadecimal digit. -/
def digit (character : Char) : Nat :=
  let code := character.toNat
  if code < 0x3A then code - 0x30 else code - 0x37

/-- The number that hexadecimal digits spell. -/
def number (digits : String) : Nat :=
  digits.toList.foldl (fun value character => value * 16 + digit character) 0

/-- The range that a word stands for: one number, or two with a hyphen between them. -/
def range (word : String) : CodeRange :=
  match word.splitOn "-" with
  | [first, last] => ⟨number first, number last⟩
  | _ => ⟨number word, number word⟩

/-- The words of lines. -/
def words (lines : List String) : List String :=
  lines.flatMap fun line => line.splitOn " "

end CodeTable

/-- A set of code points. -/
structure CodeSet where
  /-- The ranges that make up the set. -/
  ranges : List CodeRange
  deriving DecidableEq, Repr

namespace CodeSet

/-- The set that lines of words describe. -/
def ofLines (lines : List String) : CodeSet :=
  ⟨(CodeTable.words lines).map CodeTable.range⟩

/-- Whether a set holds a character. -/
def contains (set : CodeSet) (character : Char) : Bool :=
  set.ranges.any fun range => range.contains character.toNat

end CodeSet
end Countersign
