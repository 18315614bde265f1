import Countersign.Key.Info
import Countersign.Signature.Weierstrass

/-!
# Parameters of curves

An envelope names the curve of its key, or spells out its equation, base point and order.  Spelled
out parameters have to be those of a known curve.
-/

namespace Countersign

open Der

/-- The parameters of a curve, spelled out. -/
structure CurveParameters where
  /-- The prime of the field. -/
  prime : Nat
  /-- The factor of the first coordinate in the equation. -/
  factor : Nat
  /-- The constant of the equation. -/
  constant : Nat
  /-- The first coordinate of the base point. -/
  baseX : Nat
  /-- The second coordinate of the base point. -/
  baseY : Nat
  /-- The number of points. -/
  order : Nat
  deriving DecidableEq, Repr

namespace CurveParameters

/-- Passes over an element with a given tag, if that is what follows; gives its content. -/
def optional (tag : UInt8) : Reader (Option Bytes) := do
  if (← Reader.peek) = some tag then return some (← Reader.tagged tag) else return none

/-- Passes over an element that has to have a given tag and content. -/
def expect (tag : UInt8) (content : Bytes) : Reader Unit := do
  if (← Reader.tagged tag) = content then return () else failure

/-- The identifier of prime fields. -/
def primeField : Oid := ⟨[0x2A, 0x86, 0x48, 0xCE, 0x3D, 0x01, 0x01]⟩

/-- Reads the prime of the field. -/
def fieldReader : Reader Nat :=
  Reader.inside Tag.sequence do
    expect Tag.objectIdentifier primeField.content
    return Bytes.toNatBE (← unsignedReader)

/-- Reads the two numbers of the equation; what they were drawn from may follow. -/
def equationReader : Reader (Nat × Nat) :=
  Reader.inside Tag.sequence do
    let factor ← Reader.tagged Tag.octetString
    let constant ← Reader.tagged Tag.octetString
    let _ ← optional Tag.bitString
    return (Bytes.toNatBE factor, Bytes.toNatBE constant)

/-- The two coordinates behind the mark of a point with both of them. -/
def coordinates? : Bytes → Option (Nat × Nat)
  | 0x04 :: bytes =>
    let half := bytes.length / 2
    if bytes.length % 2 = 0 then
      some (Bytes.toNatBE (bytes.take half), Bytes.toNatBE (bytes.drop half))
    else none
  | _ => none

/-- Reads parameters that are spelled out; only curves of prime order are known. -/
def reader : Reader CurveParameters :=
  Reader.inside Tag.sequence do
    expect Tag.integer [0x01]
    let prime ← fieldReader
    let (factor, constant) ← equationReader
    let (baseX, baseY) ← Reader.value Tag.octetString coordinates?
    let order ← unsignedReader
    match ← optional Tag.integer with
    | none | some [0x01] => return ⟨prime, factor, constant, baseX, baseY, Bytes.toNatBE order⟩
    | some _ => failure

/-- The parameters of a known curve. -/
def ofCurve (curve : Weierstrass.Params) : CurveParameters :=
  ⟨curve.prime, curve.prime - 3, curve.constant, curve.baseX, curve.baseY, curve.order⟩

/-- Whether the parameters in an envelope are those of a curve. -/
def describe (curve : Curve) (parameters : Weierstrass.Params) (encoded : Bytes) : Bool :=
  Reader.whole (Reader.tagged Tag.objectIdentifier) encoded = some curve.oid.content ||
    Reader.whole reader encoded = some (ofCurve parameters)

end CurveParameters
end Countersign
