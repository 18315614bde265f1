import Countersign.Net.Label
import Countersign.Net.NameTable
import Countersign.Unicode.Composition

/-!
# Domain names

A domain name has many spellings and one form in ASCII.  Characters are replaced by those that
mean the same, the text is composed, and labels in their ASCII form are read; what comes out is
checked and written in ASCII again.
-/

namespace Countersign
namespace DomainName

/-- What stands for a character in a name; nothing for one that may not be there. -/
def replace? (character : Char) : Option (List Char) :=
  if character.toNat < 0x80 then some [character.toLower]
  else
    match Replacement.all.findSome? (·.replacement? character.toNat) with
    | some codes => some (codes.map Char.ofNat)
    | none =>
      if NameTable.dropped.contains character then some []
      else if NameTable.refused.contains character then none
      else some [character]

/-- Whether a character stands for itself. -/
def isPlain (character : Char) : Bool :=
  replace? character = some [character]

/-- The common spelling of a name; ASCII is composed already. -/
def spell? (name : List Char) : Option (List Char) := do
  let replaced ← name.mapM replace?
  let text := replaced.flatten
  return if Label.isAscii text then text else Composition.compose text

/-- Reads a label; one in its ASCII form denotes a label in the common spelling. -/
def readLabel? : List Char → Option (List Char)
  | 'x' :: 'n' :: '-' :: '-' :: digits => do
    let label ← Label.ofDigits? digits
    if label.all isPlain ∧ Composition.compose label = label then some label else none
  | label => some label

/-- The labels of a name in the common spelling. -/
def readLabels? (text : List Char) : Option (List (List Char)) := do
  let labels ← (Split.parts (· == '.') text).mapM readLabel?
  if labels.all fun label => Label.isAscii label || Label.isWellFormed label then
    if labels.any Label.hasRightToLeft ∧ ¬labels.all Label.keepsDirection then none
    else some labels
  else none

/-- The ASCII form of a name. -/
def toAscii? (name : List Char) : Option (List Char) := do
  let labels ← readLabels? (← spell? name)
  let written ← labels.mapM Label.toAscii?
  return ['.'].intercalate written

end DomainName
end Countersign
