import Countersign.Bytes

/-!
# SHA-2

The hash functions with digests of 256, 384 and 512 bits.  They differ in the width of their
words, their constants, their rotations and the part of the last state that is the digest; the
computation is stated once over these parameters.
-/

namespace Countersign
namespace Sha2

/-- The eight working words. -/
structure State (Word : Type) where
  a : Word
  b : Word
  c : Word
  d : Word
  e : Word
  f : Word
  g : Word
  h : Word
  deriving DecidableEq, Repr

/-- The parameters of one hash function. -/
structure Variant (Word : Type) where
  /-- The number of bytes in a word. -/
  wordBytes : Nat
  /-- The word of a number. -/
  ofNat : Nat → Word
  /-- The number of a word. -/
  toNat : Word → Nat
  /-- The mixing of the word `a` in a round. -/
  mixA : Word → Word
  /-- The mixing of the word `e` in a round. -/
  mixE : Word → Word
  /-- The mixing of the schedule word fifteen places back. -/
  mixEarly : Word → Word
  /-- The mixing of the schedule word two places back. -/
  mixLate : Word → Word
  /-- The constants, one for each round. -/
  constants : List Word
  /-- The state before the first block. -/
  initial : State Word
  /-- The number of bytes of the digest. -/
  digestBytes : Nat

section

variable {Word : Type} [Inhabited Word] [Add Word] [AndOp Word] [XorOp Word] [Complement Word]

/-- The message schedule: every word after the first sixteen depends on the sixteen before it. -/
def schedule (variant : Variant Word) : (rounds : Nat) → (window : List Word) → List Word
  | 0, _ => []
  | rounds + 1, window =>
    let next := variant.mixLate (window.getD 14 default) + window.getD 9 default +
      variant.mixEarly (window.getD 1 default) + window.getD 0 default
    window.getD 0 default :: schedule variant rounds (window.drop 1 ++ [next])

/-- One round. -/
def round (variant : Variant Word) (state : State Word) (input : Word × Word) : State Word :=
  let choice := (state.e &&& state.f) ^^^ (~~~state.e &&& state.g)
  let majority := (state.a &&& state.b) ^^^ (state.a &&& state.c) ^^^ (state.b &&& state.c)
  let first := state.h + variant.mixE state.e + choice + input.1 + input.2
  let second := variant.mixA state.a + majority
  ⟨first + second, state.a, state.b, state.c, state.d + first, state.e, state.f, state.g⟩

/-- Adds two states word by word. -/
def State.add (left right : State Word) : State Word :=
  ⟨left.a + right.a, left.b + right.b, left.c + right.c, left.d + right.d,
    left.e + right.e, left.f + right.f, left.g + right.g, left.h + right.h⟩

/-- The state after one block of sixteen words. -/
def compress (variant : Variant Word) (state : State Word) (block : List Word) : State Word :=
  let words := schedule variant variant.constants.length block
  state.add ((variant.constants.zip words).foldl (round variant) state)

/-- Cuts a list into pieces of a positive length; a shorter rest is dropped. -/
def pieces {α : Type} (length : Nat) : (count : Nat) → List α → List (List α)
  | 0, _ => []
  | count + 1, list => list.take length :: pieces length count (list.drop length)

/-- The message followed by a one bit, zeros, and its length in bits, filling whole blocks. -/
def pad (variant : Variant Word) (message : Bytes) : Bytes :=
  let block := 16 * variant.wordBytes
  let lengthBytes := 2 * variant.wordBytes
  let used := (message.length + 1 + lengthBytes) % block
  let zeros := if used = 0 then 0 else block - used
  message ++ [0x80] ++ List.replicate zeros 0 ++ Bytes.ofNatBE lengthBytes (8 * message.length)

/-- The words of a state in order. -/
def State.words (state : State Word) : List Word :=
  [state.a, state.b, state.c, state.d, state.e, state.f, state.g, state.h]

/-- The digest of a message. -/
def hash (variant : Variant Word) (message : Bytes) : Bytes :=
  let padded := pad variant message
  let words := (pieces variant.wordBytes (padded.length / variant.wordBytes) padded).map
    fun bytes => variant.ofNat (Bytes.toNatBE bytes)
  let blocks := pieces 16 (words.length / 16) words
  let final := blocks.foldl (compress variant) variant.initial
  (final.words.flatMap fun word => Bytes.ofNatBE variant.wordBytes (variant.toNat word)).take
    variant.digestBytes

end

/-- Rotates a word of 32 bits to the right. -/
def rotate32 (word amount : UInt32) : UInt32 :=
  (word >>> amount) ||| (word <<< (32 - amount))

/-- Rotates a word of 64 bits to the right. -/
def rotate64 (word amount : UInt64) : UInt64 :=
  (word >>> amount) ||| (word <<< (64 - amount))

/-- SHA-256. -/
def sha256Variant : Variant UInt32 where
  wordBytes := 4
  ofNat := UInt32.ofNat
  toNat := UInt32.toNat
  mixA word := rotate32 word 2 ^^^ rotate32 word 13 ^^^ rotate32 word 22
  mixE word := rotate32 word 6 ^^^ rotate32 word 11 ^^^ rotate32 word 25
  mixEarly word := rotate32 word 7 ^^^ rotate32 word 18 ^^^ (word >>> 3)
  mixLate word := rotate32 word 17 ^^^ rotate32 word 19 ^^^ (word >>> 10)
  constants := [
    0x428A2F98, 0x71374491, 0xB5C0FBCF, 0xE9B5DBA5, 0x3956C25B, 0x59F111F1,
    0x923F82A4, 0xAB1C5ED5, 0xD807AA98, 0x12835B01, 0x243185BE, 0x550C7DC3,
    0x72BE5D74, 0x80DEB1FE, 0x9BDC06A7, 0xC19BF174, 0xE49B69C1, 0xEFBE4786,
    0x0FC19DC6, 0x240CA1CC, 0x2DE92C6F, 0x4A7484AA, 0x5CB0A9DC, 0x76F988DA,
    0x983E5152, 0xA831C66D, 0xB00327C8, 0xBF597FC7, 0xC6E00BF3, 0xD5A79147,
    0x06CA6351, 0x14292967, 0x27B70A85, 0x2E1B2138, 0x4D2C6DFC, 0x53380D13,
    0x650A7354, 0x766A0ABB, 0x81C2C92E, 0x92722C85, 0xA2BFE8A1, 0xA81A664B,
    0xC24B8B70, 0xC76C51A3, 0xD192E819, 0xD6990624, 0xF40E3585, 0x106AA070,
    0x19A4C116, 0x1E376C08, 0x2748774C, 0x34B0BCB5, 0x391C0CB3, 0x4ED8AA4A,
    0x5B9CCA4F, 0x682E6FF3, 0x748F82EE, 0x78A5636F, 0x84C87814, 0x8CC70208,
    0x90BEFFFA, 0xA4506CEB, 0xBEF9A3F7, 0xC67178F2]
  initial := ⟨
    0x6A09E667, 0xBB67AE85, 0x3C6EF372, 0xA54FF53A,
    0x510E527F, 0x9B05688C, 0x1F83D9AB, 0x5BE0CD19⟩
  digestBytes := 32

/-- SHA-512. -/
def sha512Variant : Variant UInt64 where
  wordBytes := 8
  ofNat := UInt64.ofNat
  toNat := UInt64.toNat
  mixA word := rotate64 word 28 ^^^ rotate64 word 34 ^^^ rotate64 word 39
  mixE word := rotate64 word 14 ^^^ rotate64 word 18 ^^^ rotate64 word 41
  mixEarly word := rotate64 word 1 ^^^ rotate64 word 8 ^^^ (word >>> 7)
  mixLate word := rotate64 word 19 ^^^ rotate64 word 61 ^^^ (word >>> 6)
  constants := [
    0x428A2F98D728AE22, 0x7137449123EF65CD, 0xB5C0FBCFEC4D3B2F, 0xE9B5DBA58189DBBC,
    0x3956C25BF348B538, 0x59F111F1B605D019, 0x923F82A4AF194F9B, 0xAB1C5ED5DA6D8118,
    0xD807AA98A3030242, 0x12835B0145706FBE, 0x243185BE4EE4B28C, 0x550C7DC3D5FFB4E2,
    0x72BE5D74F27B896F, 0x80DEB1FE3B1696B1, 0x9BDC06A725C71235, 0xC19BF174CF692694,
    0xE49B69C19EF14AD2, 0xEFBE4786384F25E3, 0x0FC19DC68B8CD5B5, 0x240CA1CC77AC9C65,
    0x2DE92C6F592B0275, 0x4A7484AA6EA6E483, 0x5CB0A9DCBD41FBD4, 0x76F988DA831153B5,
    0x983E5152EE66DFAB, 0xA831C66D2DB43210, 0xB00327C898FB213F, 0xBF597FC7BEEF0EE4,
    0xC6E00BF33DA88FC2, 0xD5A79147930AA725, 0x06CA6351E003826F, 0x142929670A0E6E70,
    0x27B70A8546D22FFC, 0x2E1B21385C26C926, 0x4D2C6DFC5AC42AED, 0x53380D139D95B3DF,
    0x650A73548BAF63DE, 0x766A0ABB3C77B2A8, 0x81C2C92E47EDAEE6, 0x92722C851482353B,
    0xA2BFE8A14CF10364, 0xA81A664BBC423001, 0xC24B8B70D0F89791, 0xC76C51A30654BE30,
    0xD192E819D6EF5218, 0xD69906245565A910, 0xF40E35855771202A, 0x106AA07032BBD1B8,
    0x19A4C116B8D2D0C8, 0x1E376C085141AB53, 0x2748774CDF8EEB99, 0x34B0BCB5E19B48A8,
    0x391C0CB3C5C95A63, 0x4ED8AA4AE3418ACB, 0x5B9CCA4F7763E373, 0x682E6FF3D6B2B8A3,
    0x748F82EE5DEFB2FC, 0x78A5636F43172F60, 0x84C87814A1F0AB72, 0x8CC702081A6439EC,
    0x90BEFFFA23631E28, 0xA4506CEBDE82BDE9, 0xBEF9A3F7B2C67915, 0xC67178F2E372532B,
    0xCA273ECEEA26619C, 0xD186B8C721C0C207, 0xEADA7DD6CDE0EB1E, 0xF57D4F7FEE6ED178,
    0x06F067AA72176FBA, 0x0A637DC5A2C898A6, 0x113F9804BEF90DAE, 0x1B710B35131C471B,
    0x28DB77F523047D84, 0x32CAAB7B40C72493, 0x3C9EBE0A15C9BEBC, 0x431D67C49C100D4C,
    0x4CC5D4BECB3E42B6, 0x597F299CFC657E2A, 0x5FCB6FAB3AD6FAEC, 0x6C44198C4A475817]
  initial := ⟨
    0x6A09E667F3BCC908, 0xBB67AE8584CAA73B, 0x3C6EF372FE94F82B, 0xA54FF53A5F1D36F1,
    0x510E527FADE682D1, 0x9B05688C2B3E6C1F, 0x1F83D9ABFB41BD6B, 0x5BE0CD19137E2179⟩
  digestBytes := 64

/-- SHA-384 is SHA-512 with another first state and a shorter digest. -/
def sha384Variant : Variant UInt64 :=
  { sha512Variant with
    initial := ⟨
    0xCBBB9D5DC1059ED8, 0x629A292A367CD507, 0x9159015A3070DD17, 0x152FECD8F70E5939,
    0x67332667FFC00B31, 0x8EB44A8768581511, 0xDB0C2E0D64F98FA7, 0x47B5481DBEFA4FA4⟩
    digestBytes := 48 }

end Sha2

/-- The SHA-256 digest of a message. -/
def sha256 (message : Bytes) : Bytes :=
  Sha2.hash Sha2.sha256Variant message

/-- The SHA-384 digest of a message. -/
def sha384 (message : Bytes) : Bytes :=
  Sha2.hash Sha2.sha384Variant message

/-- The SHA-512 digest of a message. -/
def sha512 (message : Bytes) : Bytes :=
  Sha2.hash Sha2.sha512Variant message

end Countersign
