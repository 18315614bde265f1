import Countersign.Bytes
import Countersign.Text.Hex
import Countersign.Text.Utf8

/-!
# Percent encoding

Characters that may not stand in a part of an address are written as the bytes of their UTF-8
encoding, each as a percent sign and two uppercase digits.  Which characters these are depends on
the part.
-/

namespace Countersign
namespace Percent

/-- Controls and everything beyond ASCII. -/
def isControl (character : Char) : Bool :=
  character.toNat < 0x20 || 0x7E < character.toNat

/-- What is encoded in a fragment. -/
def inFragment (character : Char) : Bool :=
  isControl character || [' ', '"', '<', '>', '`'].contains character

/-- What is encoded in a query; with common schemes also the apostrophe. -/
def inQuery (special : Bool) (character : Char) : Bool :=
  isControl character || [' ', '"', '#', '<', '>'].contains character ||
    (special && character == '\'')

/-- What is encoded in a path. -/
def inPath (character : Char) : Bool :=
  inFragment character || ['#', '?', '\x7b', '\x7d'].contains character

/-- What is encoded in credentials. -/
def inCredentials (character : Char) : Bool :=
  inPath character || ['/', ':', ';', '=', '@', '[', '\\', ']', '^', '|'].contains character

/-- The uppercase digit of a number below sixteen. -/
def digit (value : Nat) : Char :=
  (Hex.digit value).toUpper

/-- A byte as a percent sign and two digits. -/
def encodeByte (byte : UInt8) : List Char :=
  ['%', digit (byte.toNat / 16), digit (byte.toNat % 16)]

/-- Encodes the characters of a text that have to be. -/
def encode (encoded : Char → Bool) (text : List Char) : List Char :=
  text.flatMap fun character =>
    if encoded character then (Bytes.ofChars [character]).flatMap encodeByte else [character]

/-- The value of a digit of either case. -/
def digitValue? (character : Char) : Option UInt8 :=
  if character.toNat < 128 then Hex.digitValue? (UInt8.ofNat character.toNat) else none

/-- The bytes that a text denotes; a percent sign without two digits stands for itself. -/
def decodeBytes : List Char → Bytes
  | [] => []
  | [character] => Bytes.ofChars [character]
  | [first, second] => Bytes.ofChars [first, second]
  | mark :: high :: low :: rest =>
    match mark == '%', digitValue? high, digitValue? low with
    | true, some upper, some lower => (upper * 16 + lower) :: decodeBytes rest
    | _, _, _ => Bytes.ofChars [mark] ++ decodeBytes (high :: low :: rest)

/-- The characters that a text denotes. -/
def decode (text : List Char) : List Char :=
  (Utf8.decodeLossy (decodeBytes text)).toList

end Percent
end Countersign
