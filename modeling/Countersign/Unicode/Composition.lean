import Countersign.Unicode.CombiningClass
import Countersign.Unicode.Composite

/-!
# Composed texts

A text has one normal form in which all that can be composed is.  Characters are taken apart, the
marks on each character are put into the order of their classes, and what belongs together is
joined again.
-/

namespace Countersign
namespace Composition

/-- The character that two others make. -/
def join? (first second : Char) : Option Char :=
  match Hangul.compose? first.toNat second.toNat with
  | some code => some (Char.ofNat code)
  | none =>
    (Composite.all.find? fun composite =>
      composite.base = first.toNat ∧ composite.mark = second.toNat).map
        fun composite => Char.ofNat composite.whole

/-- The two characters that make one. -/
def split? (character : Char) : Option (Char × Char) :=
  match Hangul.split? character.toNat with
  | some (first, second) => some (Char.ofNat first, Char.ofNat second)
  | none =>
    (Composite.all.find? fun composite => composite.whole = character.toNat).map
      fun composite => (Char.ofNat composite.base, Char.ofNat composite.mark)

/-- Takes a character apart; `fuel` bounds how often a part is taken apart again. -/
def takeApart (character : Char) : (fuel : Nat) → List Char
  | 0 => [character]
  | fuel + 1 =>
    match split? character with
    | none => [character]
    | some (first, second) => takeApart first fuel ++ takeApart second fuel

/-- How often the parts of a character can be taken apart: more than any character needs. -/
def depth : Nat := 8

/-- Puts a character behind a text, given backwards, but before the marks of higher classes. -/
def place (character : Char) : List Char → List Char
  | [] => [character]
  | last :: before =>
    let number := CombiningClass.of character
    if 0 < number ∧ number < CombiningClass.of last then last :: place character before
    else character :: last :: before

/-- The text with every character taken apart and all marks in order. -/
def decompose (text : List Char) : List Char :=
  ((text.flatMap fun character => takeApart character depth).foldl
    (fun backwards character => place character backwards) []).reverse

/-- A text that is being composed. -/
structure Progress where
  /-- What is finished, backwards. -/
  done : List Char
  /-- The character that may still be joined with what follows. -/
  base? : Option Char
  /-- The marks behind it that are not joined with it, backwards. -/
  marks : List Char

namespace Progress

/-- Whether a mark in between keeps a character from the base. -/
def isBlocked (progress : Progress) (character : Char) : Bool :=
  match progress.marks with
  | [] => false
  | last :: _ => CombiningClass.of character ≤ CombiningClass.of last

/-- Takes in one more character. -/
def step (progress : Progress) (character : Char) : Progress :=
  let isBase := CombiningClass.of character = 0
  match progress.base? with
  | none =>
    if isBase then { progress with base? := some character }
    else { progress with done := character :: progress.done }
  | some base =>
    match if progress.isBlocked character then none else join? base character with
    | some whole => { progress with base? := some whole }
    | none =>
      if isBase then ⟨progress.marks ++ base :: progress.done, some character, []⟩
      else { progress with marks := character :: progress.marks }

/-- The whole text. -/
def finish (progress : Progress) : List Char :=
  (progress.marks ++ progress.base?.toList ++ progress.done).reverse

end Progress

/-- The composed form of a text. -/
def compose (text : List Char) : List Char :=
  ((decompose text).foldl Progress.step ⟨[], none, []⟩).finish

end Composition
end Countersign
