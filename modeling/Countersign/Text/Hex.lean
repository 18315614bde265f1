import Countersign.Bytes
import Countersign.Text.Quoted

/-!
# Hexadecimal text

Two digits spell one byte, the high half first.  Writing uses lowercase digits and reading takes
either case.
-/

namespace Countersign
namespace Hex

/-- Why a text is no hexadecimal spelling of bytes. -/
inductive Fault where
  /-- Half a byte is left over. -/
  | oddLength
  /-- The byte at this position of the text is no digit. -/
  | invalidDigit (byte : UInt8) (position : Nat)
  deriving DecidableEq, Repr

/-- The wording of a fault; a byte is shown as the character of the same number. -/
def Fault.message : Fault → String
  | .oddLength => "Odd number of digits"
  | .invalidDigit byte position =>
    s!"Invalid character {Quoted.character (Char.ofNat byte.toNat)} at position {position}"

/-- The lowercase digit of a number below sixteen. -/
def digit (value : Nat) : Char :=
  if value < 10 then Char.ofNat (48 + value) else Char.ofNat (87 + value)

/-- The two digits of a byte. -/
def pair (byte : UInt8) : List Char :=
  [digit (byte.toNat / 16), digit (byte.toNat % 16)]

/-- The lowercase spelling of a byte string. -/
def encode (bytes : Bytes) : String :=
  String.ofList (bytes.flatMap pair)

/-- The value of an ASCII digit of either case. -/
def digitValue? (byte : UInt8) : Option UInt8 :=
  if 0x30 ≤ byte ∧ byte ≤ 0x39 then some (byte - 0x30)
  else if 0x41 ≤ byte ∧ byte ≤ 0x46 then some (byte - 0x37)
  else if 0x61 ≤ byte ∧ byte ≤ 0x66 then some (byte - 0x57)
  else none

/-- Reads the digit that stands at a position of the text. -/
def readDigit (byte : UInt8) (position : Nat) : Except Fault UInt8 :=
  match digitValue? byte with
  | some value => .ok value
  | none => .error (.invalidDigit byte position)

/-- Reads digits pairwise; `position` counts the bytes already read. -/
def decodeFrom (position : Nat) : Bytes → Except Fault Bytes
  | [] => .ok []
  | [_] => .error .oddLength
  | high :: low :: rest => do
    let upper ← readDigit high position
    let lower ← readDigit low (position + 1)
    let tail ← decodeFrom (position + 2) rest
    return (upper * 16 + lower) :: tail

/-- The bytes that a text spells; its length in bytes is judged before its digits. -/
def decode (text : String) : Except Fault Bytes :=
  let bytes := Bytes.ofText text
  if bytes.length % 2 = 1 then .error .oddLength else decodeFrom 0 bytes

end Hex
end Countersign
