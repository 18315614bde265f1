import Countersign.Bytes

/-!
# Base64 text

The standard alphabet with mandatory padding.  Reading is canonical: it refuses missing or surplus
padding, characters outside the alphabet, and padding bits that are not zero, so that every byte
string has exactly one spelling.
-/

namespace Countersign
namespace Base64

/-- The character of a number below sixty-four. -/
def symbol (value : Nat) : Char :=
  if value < 26 then Char.ofNat (65 + value)
  else if value < 52 then Char.ofNat (71 + value)
  else if value < 62 then Char.ofNat (value - 4)
  else if value = 62 then '+'
  else '/'

/-- The number that a character of the alphabet stands for. -/
def symbolValue? (character : Char) : Option Nat :=
  if 'A' ≤ character ∧ character ≤ 'Z' then some (character.toNat - 65)
  else if 'a' ≤ character ∧ character ≤ 'z' then some (character.toNat - 71)
  else if '0' ≤ character ∧ character ≤ '9' then some (character.toNat + 4)
  else if character = '+' then some 62
  else if character = '/' then some 63
  else none

/-- The characters of a byte string: three bytes give four characters, and a shorter tail is
padded. -/
def encodeChars : Bytes → List Char
  | [] => []
  | [a] => [symbol (a.toNat / 4), symbol (a.toNat % 4 * 16), '=', '=']
  | [a, b] =>
    [symbol (a.toNat / 4), symbol (a.toNat % 4 * 16 + b.toNat / 16), symbol (b.toNat % 16 * 4), '=']
  | a :: b :: c :: rest =>
    symbol (a.toNat / 4) :: symbol (a.toNat % 4 * 16 + b.toNat / 16) ::
      symbol (b.toNat % 16 * 4 + c.toNat / 64) :: symbol (c.toNat % 64) :: encodeChars rest

/-- The spelling of a byte string. -/
def encode (bytes : Bytes) : String :=
  String.ofList (encodeChars bytes)

/-- The byte spelled by a final group with two padding characters. -/
def decodeOne (first second : Char) : Option Bytes := do
  let high ← symbolValue? first
  let low ← symbolValue? second
  if low % 16 = 0 then some [UInt8.ofNat (high * 4 + low / 16)] else none

/-- The bytes spelled by a final group with one padding character. -/
def decodeTwo (first second third : Char) : Option Bytes := do
  let high ← symbolValue? first
  let middle ← symbolValue? second
  let low ← symbolValue? third
  if low % 4 = 0 then
    some [UInt8.ofNat (high * 4 + middle / 16), UInt8.ofNat (middle % 16 * 16 + low / 4)]
  else none

/-- The bytes spelled by a full group. -/
def decodeThree (first second third fourth : Char) : Option Bytes := do
  let a ← symbolValue? first
  let b ← symbolValue? second
  let c ← symbolValue? third
  let d ← symbolValue? fourth
  some [UInt8.ofNat (a * 4 + b / 16), UInt8.ofNat (b % 16 * 16 + c / 4),
    UInt8.ofNat (c % 4 * 64 + d)]

/-- The bytes spelled by a list of characters, if it is the canonical spelling of any. -/
def decodeChars : List Char → Option Bytes
  | [] => some []
  | [a, b, '=', '='] => decodeOne a b
  | [a, b, c, '='] => decodeTwo a b c
  | a :: b :: c :: d :: rest => do
    let group ← decodeThree a b c d
    let tail ← decodeChars rest
    some (group ++ tail)
  | _ => none

/-- The bytes spelled by a text, if it is the canonical spelling of any. -/
def decode (text : String) : Option Bytes :=
  decodeChars text.toList

end Base64
end Countersign
