import Countersign.Key.Spki
import Countersign.Proofs.Der.Primitive

/-!
# Public keys have one encoding

A byte string is read as a public key exactly when it is the encoding of that key.
-/

namespace Countersign
namespace Spki

open Der

/-- A public key that can be encoded. -/
structure IsEncodable (spki : Spki) : Prop where
  /-- The algorithm can be encoded. -/
  algorithm : spki.algorithm.IsEncodable
  /-- The key can be encoded. -/
  key : spki.key.IsEncodable
  /-- The length of the content can be spelled. -/
  length_lt : (spki.algorithm.encode ++ spki.key.encode).length < lengthLimit

theorem reader_eq_some_iff {bytes rest : Bytes} {spki : Spki} :
    reader bytes = some (spki, rest) ↔ bytes = spki.encode ++ rest ∧ spki.IsEncodable := by
  simp only [reader, Reader.inside_eq_some_iff, Reader.bind_eq_some_iff,
    AlgorithmIdentifier.reader_eq_some_iff, BitString.reader_eq_some_iff, Reader.pure_eq_some_iff]
  constructor
  · rintro ⟨content, encoded, -, short, algorithm, _, ⟨rfl, algorithm_ok⟩, key, _, ⟨rfl, key_ok⟩,
      rfl, rfl⟩
    rw [List.append_nil] at encoded short
    exact ⟨encoded, algorithm_ok, key_ok, short⟩
  · rintro ⟨encoded, algorithm_ok, key_ok, short⟩
    exact ⟨_, encoded, by decide, short, spki.algorithm, _, ⟨rfl, algorithm_ok⟩, spki.key, [],
      ⟨(List.append_nil _).symm, key_ok⟩, rfl, rfl⟩

theorem ofDer?_eq_some_iff {der : Bytes} {spki : Spki} :
    ofDer? der = some spki ↔ der = spki.encode ∧ spki.IsEncodable ∧ der.length ≤ maxSize := by
  rw [ofDer?, Reader.encoding_eq_some_iff, reader_eq_some_iff, List.append_nil, and_assoc]

/-- The parts of an encoding are shorter than the whole, so that their lengths can be spelled. -/
theorem isEncodable_of_length_le {spki : Spki}
    (path : (Oid.arcs? spki.algorithm.oid.content).isSome = true)
    (known : ∀ parameters, spki.algorithm.parameters? = some parameters →
      Tag.isKnown parameters.tag = true)
    (filled : spki.key.unused = 0) (fits : spki.encode.length ≤ maxSize) : spki.IsEncodable := by
  have below : maxSize < lengthLimit := by decide
  have content : (spki.algorithm.encode ++ spki.key.encode).length < spki.encode.length :=
    Element.length_content_lt ⟨Tag.sequence, spki.algorithm.encode ++ spki.key.encode⟩
  have algorithm : spki.algorithm.contentBytes.length < spki.algorithm.encode.length :=
    Element.length_content_lt ⟨Tag.sequence, spki.algorithm.contentBytes⟩
  have key : spki.key.bytes.length + 1 < spki.key.encode.length :=
    Element.length_content_lt ⟨Tag.bitString, spki.key.unused :: spki.key.bytes⟩
  rw [List.length_append] at content
  have key_ok : spki.key.IsEncodable :=
    ⟨by rw [filled]; decide, .inl filled, by omega⟩
  have algorithm_ok : spki.algorithm.IsEncodable := by
    refine ⟨path, fun parameters given => ⟨known parameters given, ?_⟩, by omega⟩
    have inside : parameters.encode.length ≤ spki.algorithm.contentBytes.length := by
      simp [AlgorithmIdentifier.contentBytes, given]
    have short := Element.length_content_lt parameters
    omega
  exact ⟨algorithm_ok, key_ok, by rw [List.length_append]; omega⟩

end Spki
end Countersign
