import Countersign.Digest.Sha2
import Countersign.Key.Envelope
import Countersign.Signature.Modular

/-!
# Ed25519

Signatures on the twisted Edwards curve over the field of `2 ^ 255 - 19` elements.  Points are
computed in extended form, where `(x, y, z, t)` stands for `(x / z, y / z)` with `t = x * y / z`;
one addition rule covers all pairs of points.
-/

namespace Countersign
namespace Ed25519

/-- The prime of the field. -/
def prime : Nat := Nat.pow 2 255 - 19

/-- The order of the base point. -/
def order : Nat := Nat.pow 2 252 + 27742317777372353535851937790883648493

/-- The constant of the equation `y ^ 2 - x ^ 2 = 1 + d * x ^ 2 * y ^ 2`. -/
def constant : Nat :=
  Modular.mul prime (prime - 121665) (Modular.inverse prime 121666)

/-- A square root of minus one. -/
def rootOfMinusOne : Nat :=
  Modular.pow prime 2 ((prime - 1) / 4)

/-- A point in extended form. -/
structure Point where
  x : Nat
  y : Nat
  z : Nat
  t : Nat
  deriving DecidableEq, Repr

/-- The neutral point. -/
def Point.neutral : Point := ⟨0, 1, 1, 0⟩

/-- The sum of two points. -/
def add (left right : Point) : Point :=
  let p := prime
  let a := Modular.mul p (Modular.sub p left.y left.x) (Modular.sub p right.y right.x)
  let b := Modular.mul p (left.y + left.x) (right.y + right.x)
  let c := 2 * left.t * right.t % p * constant % p
  let d := 2 * left.z * right.z % p
  let e := Modular.sub p b a
  let f := Modular.sub p d c
  let g := Modular.add p d c
  let h := Modular.add p b a
  ⟨Modular.mul p e f, Modular.mul p g h, Modular.mul p f g, Modular.mul p e h⟩

/-- A multiple of a point. -/
def multiply (factor : Nat) (point : Point) : Point :=
  (Modular.binaryDigits factor).foldl
    (fun sum bit =>
      let doubled := add sum sum
      if bit then add doubled point else doubled)
    .neutral

/-- The point with its first coordinate negated. -/
def neg (point : Point) : Point :=
  ⟨Modular.sub prime 0 point.x, point.y, point.z, Modular.sub prime 0 point.t⟩

/-- The encoding of a point: the second coordinate with the parity of the first in the top bit. -/
def encode (point : Point) : Bytes :=
  let inverse := Modular.inverse prime point.z
  let x := Modular.mul prime point.x inverse
  let y := Modular.mul prime point.y inverse
  Bytes.ofNatLE 32 (y + x % 2 * Nat.pow 2 255)

/-- A square root of a quotient of residues, if there is one. -/
def rootOfQuotient? (numerator denominator : Nat) : Option Nat :=
  let p := prime
  let quotient := Modular.mul p numerator (Modular.inverse p denominator)
  let candidate := Modular.pow p quotient ((p + 3) / 8)
  let other := Modular.mul p candidate rootOfMinusOne
  if Modular.mul p candidate candidate = quotient then some candidate
  else if Modular.mul p other other = quotient then some other
  else none

/-- The point with a given second coordinate and parity of the first. -/
def lift? (y : Nat) (odd : Bool) : Option Point := do
  if y < prime then
    let square := Modular.mul prime y y
    let x ← rootOfQuotient? (Modular.sub prime square 1)
      (Modular.add prime (Modular.mul prime constant square) 1)
    if x = 0 ∧ odd then none
    else
      let x := if (x % 2 = 1) = odd then x else prime - x
      let x := x % prime
      some ⟨x, y, 1, Modular.mul prime x y⟩
  else none

/-- The point that a byte string encodes. -/
def decode? (bytes : Bytes) : Option Point :=
  if bytes.length = 32 then
    let value := Bytes.toNatLE bytes
    lift? (value % Nat.pow 2 255) (value / Nat.pow 2 255 = 1)
  else none

/-- The base point. -/
def base : Point :=
  (lift? (Modular.mul prime 4 (Modular.inverse prime 5)) false).getD .neutral

/-- The encoding of a public point that a key holds: the key itself, or what is in its envelope. -/
def publicPoint? (key : Bytes) : Option Bytes :=
  if key.length = 32 then some key else KeyEnvelope.keyFor? Der.Oid.ed25519 key

/-- Whether a byte string is a signature over a message for an encoded public point. -/
def verifyPoint (key message signature : Bytes) : Bool :=
  match decode? key with
  | none => false
  | some point =>
    let nonce := signature.take 32
    let scalar := Bytes.toNatLE (signature.drop 32)
    if signature.length = 64 ∧ scalar < order then
      let challenge := Bytes.toNatLE (sha512 (nonce ++ key ++ message)) % order
      encode (add (multiply scalar base) (multiply challenge (neg point))) = nonce
    else false

/-- Whether a byte string is a signature over a message for the point that a key holds. -/
def verify (key message signature : Bytes) : Bool :=
  match publicPoint? key with
  | none => false
  | some point => verifyPoint point message signature

/-- The secret number of a seed. -/
def secretScalar (seed : Bytes) : Nat :=
  Bytes.toNatLE ((sha512 seed).take 32) % Nat.pow 2 254 / 8 * 8 + Nat.pow 2 254

/-- The public point of a seed. -/
def publicKey (seed : Bytes) : Bytes :=
  encode (multiply (secretScalar seed) base)

/-- Signs a message with the key of a seed. -/
def sign (seed message : Bytes) : Bytes :=
  let secret := secretScalar seed
  let nonce := Bytes.toNatLE (sha512 ((sha512 seed).drop 32 ++ message)) % order
  let point := encode (multiply nonce base)
  let challenge := Bytes.toNatLE (sha512 (point ++ publicKey seed ++ message)) % order
  point ++ Bytes.ofNatLE 32 ((nonce + challenge * secret) % order)

end Ed25519
end Countersign
