import Countersign.Der.Primitive

/-!
# Public keys in their envelope

A SubjectPublicKeyInfo names the algorithm of a key and holds the key as a bit string.
-/

namespace Countersign

open Der

/-- A public key with its algorithm. -/
structure Spki where
  /-- The algorithm. -/
  algorithm : AlgorithmIdentifier
  /-- The key. -/
  key : BitString
  deriving DecidableEq, Repr

namespace Spki

/-- Reads a public key with its algorithm. -/
def reader : Reader Spki :=
  Reader.inside Tag.sequence do
    let algorithm ← AlgorithmIdentifier.reader
    let key ← BitString.reader
    return ⟨algorithm, key⟩

/-- The public key that a byte string encodes. -/
def ofDer? (der : Bytes) : Option Spki :=
  Reader.encoding reader der

/-- The encoding of a public key. -/
def encode (spki : Spki) : Bytes :=
  Element.encode ⟨Tag.sequence, spki.algorithm.encode ++ spki.key.encode⟩

end Spki
end Countersign
