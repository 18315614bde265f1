import Countersign.Bytes

/-!
# Reading UTF-8

A byte string is cut into the characters it encodes and the longest stretches that begin no
character.  Each such stretch counts once, which fixes both where a document stops being text and
how many replacement characters a lossy reading shows.
-/

namespace Countersign
namespace Utf8

/-- A multi-byte character of which the first bytes have been read. -/
structure Pending where
  /-- Continuation bytes still expected after the next one. -/
  remaining : Nat
  /-- Least value of the next byte. -/
  low : UInt8
  /-- Greatest value of the next byte. -/
  high : UInt8
  /-- The bits of the scalar value read so far. -/
  scalar : Nat
  deriving DecidableEq, Repr

/-- What a first byte opens: nothing when it can begin no multi-byte character. -/
def opening? (byte : UInt8) : Option Pending :=
  if byte < 0xC2 then none
  else if byte < 0xE0 then some ⟨0, 0x80, 0xBF, byte.toNat - 0xC0⟩
  else if byte < 0xF0 then
    some ⟨1, if byte = 0xE0 then 0xA0 else 0x80, if byte = 0xED then 0x9F else 0xBF,
      byte.toNat - 0xE0⟩
  else if byte < 0xF5 then
    some ⟨2, if byte = 0xF0 then 0x90 else 0x80, if byte = 0xF4 then 0x8F else 0xBF,
      byte.toNat - 0xF0⟩
  else none

/-- What has been read: the pieces finished by a byte and the character it leaves open. -/
def start (byte : UInt8) : List (Option Char) × Option Pending :=
  if byte < 0x80 then ([some (Char.ofNat byte.toNat)], none)
  else
    match opening? byte with
    | some pending => ([], some pending)
    | none => ([none], none)

/-- One byte after a state: a byte that does not continue the open character ends it. -/
def step (state : Option Pending) (byte : UInt8) : List (Option Char) × Option Pending :=
  match state with
  | none => start byte
  | some pending =>
    if pending.low ≤ byte ∧ byte ≤ pending.high then
      let scalar := pending.scalar * 64 + (byte.toNat - 0x80)
      match pending.remaining with
      | 0 => ([some (Char.ofNat scalar)], none)
      | remaining + 1 => ([], some ⟨remaining, 0x80, 0xBF, scalar⟩)
    else
      let (pieces, next) := start byte
      (none :: pieces, next)

/-- Cuts the bytes that follow a state into characters and stretches that are none. -/
def scanFrom : Option Pending → Bytes → List (Option Char)
  | none, [] => []
  | some _, [] => [none]
  | state, byte :: rest =>
    let (pieces, next) := step state byte
    pieces ++ scanFrom next rest

/-- Cuts a byte string into characters and stretches that are none. -/
def scan (bytes : Bytes) : List (Option Char) :=
  scanFrom none bytes

/-- The text of a byte string, if all of it is text. -/
def decode? (bytes : Bytes) : Option String :=
  (scan bytes).mapM id |>.map String.ofList

/-- The text of a byte string, a replacement character standing for each stretch that is none. -/
def decodeLossy (bytes : Bytes) : String :=
  String.ofList ((scan bytes).map (Option.getD · '\uFFFD'))

end Utf8
end Countersign
