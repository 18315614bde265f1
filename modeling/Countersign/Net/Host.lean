import Countersign.Net.DomainName
import Countersign.Net.Percent

/-!
# Hosts

The host of an address is a domain name, a number of 32 bits written in parts, or eight numbers of
16 bits in brackets.
-/

namespace Countersign

/-- A host. -/
inductive Host where
  /-- A name. -/
  | name (text : List Char)
  /-- A number of 32 bits. -/
  | number (value : Nat)
  /-- Eight numbers of 16 bits. -/
  | pieces (values : List Nat)
  deriving DecidableEq, Repr

namespace Host

/-- The value of a digit in a base up to sixteen. -/
def digitValue? (base : Nat) (character : Char) : Option Nat := do
  let value ← Percent.digitValue? character
  if value.toNat < base then some value.toNat else none

/-- The number that digits spell in a base. -/
def numeral? (base : Nat) (digits : List Char) : Option Nat :=
  digits.foldlM (fun value character => (digitValue? base character).map (value * base + ·)) 0

/-- The number that a part of a host spells: hexadecimal after `0x`, octal after `0`, or decimal. -/
def part? : List Char → Option Nat
  | [] => none
  | '0' :: 'x' :: digits => numeral? 16 digits
  | '0' :: 'X' :: digits => numeral? 16 digits
  | ['0'] => some 0
  | '0' :: digits => numeral? 8 digits
  | digits => numeral? 10 digits

/-- The labels of a name without an empty one at the end. -/
def labels (name : List Char) : List (List Char) :=
  match (Split.parts (· == '.') name).reverse with
  | [] :: second :: rest => (second :: rest).reverse
  | reversed => reversed.reverse

/-- Whether the last label of a name makes it a number. -/
def endsInNumber (name : List Char) : Bool :=
  match (labels name).getLast? with
  | none => false
  | some last =>
    (!last.isEmpty && last.all Char.isDigit) ||
      (match last with
        | '0' :: 'x' :: digits => (numeral? 16 digits).isSome
        | _ => false)

/-- The number of 32 bits whose parts are given; the last part fills what the others leave. -/
def number? (values : List Nat) : Option Nat :=
  match values.reverse with
  | [] => none
  | last :: before =>
    let room := Nat.pow 256 (4 - before.length)
    if before.length ≤ 3 ∧ before.all (· < 256) ∧ last < room then
      some (before.reverse.foldl (fun sum value => sum * 256 + value) 0 * room + last)
    else none

/-- Whether a character may not stand in a name. -/
def isForbidden (character : Char) : Bool :=
  character.toNat < 0x21 || character == '\x7f' ||
    ['#', '%', '/', ':', '<', '>', '?', '@', '[', '\\', ']', '^', '|'].contains character

/-- The number of 16 bits that one to four digits spell. -/
def piece? (digits : List Char) : Option Nat :=
  if digits.isEmpty ∨ 4 < digits.length then none else numeral? 16 digits

/-- The two numbers of 16 bits that four decimal parts spell. -/
def dottedPieces? (text : List Char) : Option (List Nat) := do
  let values ← (Split.parts (· == '.') text).mapM fun digits =>
    match digits with
    | '0' :: _ :: _ => none
    | [] => none
    | _ => numeral? 10 digits
  match values with
  | [a, b, c, d] =>
    if a < 256 ∧ b < 256 ∧ c < 256 ∧ d < 256 then some [a * 256 + b, c * 256 + d] else none
  | _ => none

/-- Numbers of 16 bits between colons; the last place may hold decimal parts. -/
def colonPieces? : List (List Char) → Option (List Nat)
  | [] => some []
  | [last] => if last.contains '.' then dottedPieces? last else (piece? last).map ([·])
  | digits :: rest => do
    let value ← piece? digits
    let values ← colonPieces? rest
    return value :: values

/-- Divides a text at the first pair of colons. -/
def splitAtGap : List Char → Option (List Char × List Char)
  | ':' :: ':' :: rest => some ([], rest)
  | character :: rest => (splitAtGap rest).map fun (front, back) => (character :: front, back)
  | [] => none

/-- The numbers in a text that may be empty. -/
def optionalPieces? (text : List Char) : Option (List Nat) :=
  if text.isEmpty then some [] else colonPieces? (Split.parts (· == ':') text)

/-- The host that a text in brackets denotes; a pair of colons stands for at least one zero. -/
def bracketed? (text : List Char) : Option Host :=
  match splitAtGap text with
  | none => do
    let values ← colonPieces? (Split.parts (· == ':') text)
    if values.length = 8 then some (.pieces values) else none
  | some (front, back) => do
    let first ← if front.contains '.' then none else optionalPieces? front
    let last ← optionalPieces? back
    if first.length + last.length < 8 then
      some (.pieces (first ++ List.replicate (8 - first.length - last.length) 0 ++ last))
    else none

/-- The host of an address with a common scheme. -/
def ofSpecial? (text : List Char) : Option Host :=
  match text, text.getLast? with
  | '[' :: inner, some ']' => bracketed? inner.dropLast
  | '[' :: _, _ => none
  | _, _ => do
    let name ← DomainName.toAscii? (Percent.decode text)
    if name.isEmpty ∨ name.any isForbidden then none
    else if endsInNumber name then
      let values ← (labels name).mapM part?
      return .number (← number? values)
    else return .name name

/-- Whether a character may not stand even in a name that is kept as it is. -/
def isForbiddenAnywhere (character : Char) : Bool :=
  character == '\x00' ||
    (isForbidden character && character != '%' && !Percent.isControl character)

/-- The host of an address with any other scheme, which is kept as it is. -/
def ofOther? (text : List Char) : Option Host :=
  match text, text.getLast? with
  | '[' :: inner, some ']' => bracketed? inner.dropLast
  | '[' :: _, _ => none
  | _, _ =>
    if text.any isForbiddenAnywhere then none
    else some (.name (Percent.encode Percent.isControl text))

/-- The length of the run of zeros at the front of a list. -/
def zeroRun : List Nat → Nat
  | 0 :: rest => zeroRun rest + 1
  | _ => 0

/-- The first of the longest runs of at least two zeros: its place and its length. -/
def longestRun (place : Nat) : List Nat → Option (Nat × Nat)
  | [] => none
  | value :: rest =>
    let run := zeroRun (value :: rest)
    match longestRun (place + 1) rest with
    | some (later, length) => if length ≤ run then some (place, run) else some (later, length)
    | none => if 2 ≤ run then some (place, run) else none

/-- Numbers of 16 bits between colons. -/
def colonText (values : List Nat) : List Char :=
  [':'].intercalate (values.map (Nat.toDigits 16))

/-- The text of a host. -/
def toChars : Host → List Char
  | name text => text
  | number value =>
    ['.'].intercalate (([3, 2, 1, 0].map fun place => value / Nat.pow 256 place % 256).map
      (Nat.toDigits 10))
  | pieces values =>
    let inner := match longestRun 0 values with
      | none => colonText values
      | some (place, length) =>
        colonText (values.take place) ++ [':', ':'] ++ colonText (values.drop (place + length))
    '[' :: inner ++ [']']

end Host
end Countersign
