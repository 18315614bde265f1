import Countersign.Net.Punycode
import Countersign.Unicode.CombiningClass
import Countersign.Unicode.Direction
import Countersign.Unicode.Joining

/-!
# Labels

The parts of a domain name between the dots.  A label that runs beyond ASCII does not begin with a
mark, has the two invisible joiners only where they make a difference, and keeps to one direction
of writing.
-/

namespace Countersign
namespace Label

/-- Whether a label is in ASCII. -/
def isAscii (label : List Char) : Bool :=
  label.all fun character => character.toNat < 0x80

/-- Whether a label begins with a mark. -/
def beginsWithMark : List Char → Bool
  | [] => false
  | first :: _ => Mark.isMark first

/-- Whether the first character of a text that lets joining through does join. -/
def reaches (joins : Char → Bool) : List Char → Bool
  | [] => false
  | first :: rest => joins first || (Joining.isTransparent first && reaches joins rest)

/-- Whether a character may follow what is before it, given backwards, and precede what is after
it: both joiners may follow a sign that silences a vowel, and the one that keeps letters apart may
stand between two letters that would join. -/
def mayStand (before : List Char) (character : Char) (after : List Char) : Bool :=
  let followsVirama := match before with
    | last :: _ => CombiningClass.of last = CombiningClass.virama
    | [] => false
  if character = '\u200D' then followsVirama
  else if character = '\u200C' then
    followsVirama || (reaches Joining.joinsNext before && reaches Joining.joinsPrevious after)
  else true

/-- Whether all joiners of a label may stand where they do; `before` is given backwards. -/
def joinersFit (before : List Char) : List Char → Bool
  | [] => true
  | character :: after =>
    mayStand before character after && joinersFit (character :: before) after

/-- Whether a label is well formed, its direction aside. -/
def isWellFormed (label : List Char) : Bool :=
  !beginsWithMark label && joinersFit [] label

/-- Whether a label has characters that run from right to left, or numbers inside such. -/
def hasRightToLeft (label : List Char) : Bool :=
  label.any fun character =>
    Direction.of character = .right || Direction.of character = .arabicNumber

/-- The last direction that is not that of a mark. -/
def lastDirection? (directions : List Direction) : Option Direction :=
  (directions.reverse.dropWhile (· = .nonspacing)).head?

/-- Whether a label can stand beside labels that run from right to left: it runs in one direction,
ends in a letter or a digit, and does not mix the two kinds of digits. -/
def keepsDirection (label : List Char) : Bool :=
  let directions := label.map Direction.of
  match directions.head?, lastDirection? directions with
  | none, _ => true
  | some .left, some last =>
    directions.all (· ∉ [Direction.right, .arabicNumber]) && [Direction.left, .number].contains last
  | some .right, some last =>
    directions.all (· ≠ .left) && [Direction.right, .number, .arabicNumber].contains last &&
      !(directions.contains .number && directions.contains .arabicNumber)
  | _, _ => false

/-- The greatest number of digits in the ASCII form of a label that are read. -/
def maxDigits : Nat := 2000

/-- The greatest number of characters of a label that has to be written in ASCII. -/
def maxCharacters : Nat := 1000

/-- The label that digits behind `xn--` denote, which is not one in ASCII. -/
def ofDigits? (digits : List Char) : Option (List Char) :=
  if isAscii digits ∧ digits.length ≤ maxDigits then do
    let label ← Punycode.decode? digits
    if isAscii label then none else some label
  else none

/-- A label in ASCII. -/
def toAscii? (label : List Char) : Option (List Char) :=
  if isAscii label then some label
  else if label.length ≤ maxCharacters then
    some (['x', 'n', '-', '-'] ++ Punycode.encode label)
  else none

end Label
end Countersign
