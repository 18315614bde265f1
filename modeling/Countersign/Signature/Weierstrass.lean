import Countersign.Bytes
import Countersign.Signature.Modular

/-!
# Elliptic curves of prime order

The curves `y ^ 2 = x ^ 3 - 3 * x + b` over a prime field.  Points are computed in projective form,
where `(x, y, z)` stands for the point `(x / z ^ 2, y / z ^ 3)` and `z = 0` for the neutral one, so
that only the last step divides.
-/

namespace Countersign
namespace Weierstrass

/-- The parameters of a curve. -/
structure Params where
  /-- The prime of the field. -/
  prime : Nat
  /-- The constant of the equation. -/
  constant : Nat
  /-- The number of points. -/
  order : Nat
  /-- The first coordinate of the base point. -/
  baseX : Nat
  /-- The second coordinate of the base point. -/
  baseY : Nat
  /-- The number of bytes of a coordinate. -/
  fieldBytes : Nat

/-- A point in projective form. -/
structure Point where
  x : Nat
  y : Nat
  z : Nat
  deriving DecidableEq, Repr

/-- The neutral point. -/
def Point.neutral : Point := ⟨1, 1, 0⟩

/-- The base point of a curve. -/
def Params.base (curve : Params) : Point :=
  ⟨curve.baseX, curve.baseY, 1⟩

/-- Twice a point. -/
def double (curve : Params) (point : Point) : Point :=
  let p := curve.prime
  if point.z = 0 ∨ point.y = 0 then .neutral
  else
    let ySquare := Modular.mul p point.y point.y
    let zSquare := Modular.mul p point.z point.z
    let s := 4 * point.x * ySquare % p
    let slope :=
      3 * Modular.mul p (Modular.sub p point.x zSquare) (Modular.add p point.x zSquare) % p
    let x := Modular.sub p (Modular.mul p slope slope) (2 * s % p)
    let y := Modular.sub p (Modular.mul p slope (Modular.sub p s x)) (8 * ySquare * ySquare % p)
    ⟨x, y, 2 * point.y * point.z % p⟩

/-- The sum of two points. -/
def add (curve : Params) (left right : Point) : Point :=
  let p := curve.prime
  if left.z = 0 then right
  else if right.z = 0 then left
  else
    let leftSquare := Modular.mul p left.z left.z
    let rightSquare := Modular.mul p right.z right.z
    let u := Modular.mul p left.x rightSquare
    let v := Modular.mul p right.x leftSquare
    let s := left.y * rightSquare * right.z % p
    let t := right.y * leftSquare * left.z % p
    if u = v then
      if s = t then double curve left else .neutral
    else
      let h := Modular.sub p v u
      let r := Modular.sub p t s
      let hSquare := Modular.mul p h h
      let hCube := Modular.mul p hSquare h
      let w := Modular.mul p u hSquare
      let x := Modular.sub p (Modular.sub p (Modular.mul p r r) hCube) (2 * w % p)
      let y := Modular.sub p (Modular.mul p r (Modular.sub p w x)) (Modular.mul p s hCube)
      ⟨x, y, left.z * right.z % p * h % p⟩

/-- A multiple of a point, by doubling along the binary digits of the factor. -/
def multiply (curve : Params) (factor : Nat) (point : Point) : Point :=
  (Modular.binaryDigits factor).foldl
    (fun sum bit =>
      let doubled := double curve sum
      if bit then add curve doubled point else doubled)
    .neutral

/-- The coordinates of a point other than the neutral one. -/
def affine? (curve : Params) (point : Point) : Option (Nat × Nat) :=
  if point.z = 0 then none
  else
    let p := curve.prime
    let inverse := Modular.inverse p point.z
    let square := Modular.mul p inverse inverse
    some (Modular.mul p point.x square, Modular.mul p point.y (Modular.mul p square inverse))

/-- The right-hand side of the equation. -/
def equation (curve : Params) (x : Nat) : Nat :=
  let p := curve.prime
  Modular.add p (Modular.sub p (x * x % p * x % p) (3 * x % p)) curve.constant

/-- Whether coordinates are residues that satisfy the equation. -/
def isOnCurve (curve : Params) (x y : Nat) : Bool :=
  x < curve.prime && y < curve.prime && Modular.mul curve.prime y y = equation curve x

/-- The point with a given first coordinate and parity of the second; the prime is three more than a
multiple of four, so a square root is a power. -/
def lift? (curve : Params) (x : Nat) (odd : Bool) : Option Point :=
  let p := curve.prime
  if x < p then
    let root := Modular.pow p (equation curve x) ((p + 1) / 4)
    if isOnCurve curve x root then
      let y := if (root % 2 = 1) = odd then root else (p - root) % p
      some ⟨x, y, 1⟩
    else none
  else none

/-- Whether the mark in front of two coordinates fits the second one: four fits all, six the even
and seven the odd ones. -/
def fitsForm (form : UInt8) (y : Nat) : Bool :=
  form = 0x04 || (form = 0x06 && y % 2 = 0) || (form = 0x07 && y % 2 = 1)

/-- The point that a byte string encodes: both coordinates after a mark that may tell the parity of
the second, or the first coordinate after that parity. -/
def decode? (curve : Params) : Bytes → Option Point
  | [] => none
  | form :: rest =>
    let width := curve.fieldBytes
    if rest.length = 2 * width then
      let x := Bytes.toNatBE (rest.take width)
      let y := Bytes.toNatBE (rest.drop width)
      if fitsForm form y ∧ isOnCurve curve x y then some ⟨x, y, 1⟩ else none
    else if (form = 0x02 ∨ form = 0x03) ∧ rest.length = width then
      lift? curve (Bytes.toNatBE rest) (form = 0x03)
    else none

/-- The encoding of a point by both coordinates. -/
def encode (curve : Params) (point : Point) : Bytes :=
  match affine? curve point with
  | some (x, y) =>
    0x04 :: Bytes.ofNatBE curve.fieldBytes x ++ Bytes.ofNatBE curve.fieldBytes y
  | none => [0x00]

/-- The curve P-256. -/
def p256 : Params where
  prime := 0xFFFFFFFF00000001000000000000000000000000FFFFFFFFFFFFFFFFFFFFFFFF
  constant := 0x5AC635D8AA3A93E7B3EBBD55769886BC651D06B0CC53B0F63BCE3C3E27D2604B
  order := 0xFFFFFFFF00000000FFFFFFFFFFFFFFFFBCE6FAADA7179E84F3B9CAC2FC632551
  baseX := 0x6B17D1F2E12C4247F8BCE6E563A440F277037D812DEB33A0F4A13945D898C296
  baseY := 0x4FE342E2FE1A7F9B8EE7EB4A7C0F9E162BCE33576B315ECECBB6406837BF51F5
  fieldBytes := 32

/-- The curve P-384. -/
def p384 : Params where
  prime := 0xFFFFFFFFFFFFFFFFFFFFFFFFFFFFFFFFFFFFFFFFFFFFFFFFFFFFFFFFFFFFFFFEFFFFFFFF0000000000000000FFFFFFFF
  constant := 0xB3312FA7E23EE7E4988E056BE3F82D19181D9C6EFE8141120314088F5013875AC656398D8A2ED19D2A85C8EDD3EC2AEF
  order := 0xFFFFFFFFFFFFFFFFFFFFFFFFFFFFFFFFFFFFFFFFFFFFFFFFC7634D81F4372DDF581A0DB248B0A77AECEC196ACCC52973
  baseX := 0xAA87CA22BE8B05378EB1C71EF320AD746E1D3B628BA79B9859F741E082542A385502F25DBF55296C3A545E3872760AB7
  baseY := 0x3617DE4A96262C6F5D9E98BF9292DC29F8F41DBD289A147CE9DA3113B5F0B8C00A60B1CE1D7E819D7A431D7C90EA0E5F
  fieldBytes := 48

/-- The curve P-521. -/
def p521 : Params where
  prime := Nat.pow 2 521 - 1
  constant := 0x0051953EB9618E1C9A1F929A21A0B68540EEA2DA725B99B315F3B8B489918EF109E156193951EC7E937B1652C0BD3BB1BF073573DF883D2C34F1EF451FD46B503F00
  order := 0x01FFFFFFFFFFFFFFFFFFFFFFFFFFFFFFFFFFFFFFFFFFFFFFFFFFFFFFFFFFFFFFFFFA51868783BF2F966B7FCC0148F709A5D03BB5C9B8899C47AEBB6FB71E91386409
  baseX := 0x00C6858E06B70404E9CD9E3ECB662395B4429C648139053FB521F828AF606B4D3DBAA14B5E77EFE75928FE1DC127A2FFA8DE3348B3C1856A429BF97E7E31C2E5BD66
  baseY := 0x011839296A789A3BC0045C8A5FB42C7D1BD998F54449579B446817AFBD17273E662C97EE72995EF42640C550B9013FAD0761353C7086A272C24088BE94769FD16650
  fieldBytes := 66

end Weierstrass
end Countersign
