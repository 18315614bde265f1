/-!
# Arithmetic modulo a number

Residues are natural numbers below the modulus.  Inverses are taken by the theorem of Fermat, so the
modulus has to be prime for them.
-/

namespace Countersign
namespace Modular

/-- The sum of two residues. -/
def add (modulus a b : Nat) : Nat :=
  (a + b) % modulus

/-- The difference of two residues. -/
def sub (modulus a b : Nat) : Nat :=
  (a + modulus - b) % modulus

/-- The product of two residues. -/
def mul (modulus a b : Nat) : Nat :=
  a * b % modulus

/-- The binary digits of a number, most significant first. -/
def binaryDigits (value : Nat) : List Bool :=
  (List.range (value.log2 + 1)).reverse.map value.testBit

/-- The power of a residue, by squaring along the binary digits of the exponent. -/
def pow (modulus base exponent : Nat) : Nat :=
  (binaryDigits exponent).foldl
    (fun result bit =>
      let square := mul modulus result result
      if bit then mul modulus square base else square)
    (1 % modulus)

/-- The inverse of a residue modulo a prime. -/
def inverse (prime value : Nat) : Nat :=
  pow prime value (prime - 2)

end Modular
end Countersign
