import Countersign.Der.Primitive
import Countersign.Proofs.Der.Element

/-!
# Identifiers, bit strings and algorithms have one encoding

What is read at the front of a byte string is exactly the encoding of the value that is read, and
the encoding of every encodable value is read back.
-/

namespace Countersign
namespace Der

namespace Oid

theorem ofContent?_eq_some_iff {content : Bytes} {oid : Oid} :
    ofContent? content = some oid ↔ content = oid.content ∧ (arcs? oid.content).isSome = true := by
  obtain ⟨own⟩ := oid
  simp only [ofContent?, Option.ite_none_right_eq_some, Option.some.injEq, mk.injEq]
  constructor
  · rintro ⟨isPath, rfl⟩
    exact ⟨rfl, isPath⟩
  · rintro ⟨rfl, isPath⟩
    exact ⟨isPath, rfl⟩

theorem length_content_lt {oid : Oid} (isPath : (arcs? oid.content).isSome = true) :
    oid.content.length < lengthLimit := by
  unfold arcs? at isPath
  split at isPath
  · rename_i bounds
    unfold lengthLimit
    omega
  · cases isPath

theorem reader_eq_some_iff {bytes rest : Bytes} {oid : Oid} :
    reader bytes = some (oid, rest) ↔
      bytes = oid.encode ++ rest ∧ (arcs? oid.content).isSome = true := by
  simp only [reader, Reader.value_eq_some_iff, ofContent?_eq_some_iff]
  constructor
  · rintro ⟨content, encoded, -, -, rfl, isPath⟩
    exact ⟨encoded, isPath⟩
  · rintro ⟨encoded, isPath⟩
    exact ⟨oid.content, encoded, by decide, length_content_lt isPath, rfl, isPath⟩

end Oid

namespace BitString

/-- A bit string that can be encoded. -/
structure IsEncodable (bits : BitString) : Prop where
  /-- Fewer than eight bits are unused. -/
  unused_lt : bits.unused < 8
  /-- Without bytes no bits are unused. -/
  unused_or : bits.unused = 0 ∨ bits.bytes ≠ []
  /-- The length of the content can be spelled. -/
  length_lt : bits.bytes.length + 1 < lengthLimit

theorem ofContent?_eq_some_iff {content : Bytes} {bits : BitString} :
    ofContent? content = some bits ↔
      content = bits.unused :: bits.bytes ∧ bits.unused < 8 ∧
        (bits.unused = 0 ∨ bits.bytes ≠ []) := by
  obtain ⟨unused, bytes⟩ := bits
  cases content with
  | nil => simp [ofContent?]
  | cons first rest =>
    simp only [ofContent?, Option.ite_none_right_eq_some, Option.some.injEq, mk.injEq,
      List.cons.injEq]
    constructor
    · rintro ⟨valid, rfl, rfl⟩
      exact ⟨⟨rfl, rfl⟩, valid⟩
    · rintro ⟨⟨rfl, rfl⟩, valid⟩
      exact ⟨valid, rfl, rfl⟩

theorem reader_eq_some_iff {bytes rest : Bytes} {bits : BitString} :
    reader bytes = some (bits, rest) ↔ bytes = bits.encode ++ rest ∧ bits.IsEncodable := by
  simp only [reader, Reader.value_eq_some_iff, ofContent?_eq_some_iff]
  constructor
  · rintro ⟨content, encoded, -, short, rfl, unused_lt, unused_or⟩
    exact ⟨encoded, unused_lt, unused_or, short⟩
  · rintro ⟨encoded, unused_lt, unused_or, short⟩
    exact ⟨bits.unused :: bits.bytes, encoded, by decide, short, rfl, unused_lt, unused_or⟩

theorem whole?_eq_some_iff {bits : BitString} {bytes : Bytes} :
    bits.whole? = some bytes ↔ bits = ⟨0, bytes⟩ := by
  obtain ⟨unused, own⟩ := bits
  simp [whole?]

end BitString

namespace AlgorithmIdentifier

/-- The content of the encoding. -/
def contentBytes (algorithm : AlgorithmIdentifier) : Bytes :=
  algorithm.oid.encode ++ (match algorithm.parameters? with
    | some parameters => parameters.encode
    | none => [])

/-- An algorithm that can be encoded. -/
structure IsEncodable (algorithm : AlgorithmIdentifier) : Prop where
  /-- The identifier is a path. -/
  oid : (Oid.arcs? algorithm.oid.content).isSome = true
  /-- The parameters have a known tag and a length that can be spelled. -/
  parameters : ∀ parameters, algorithm.parameters? = some parameters →
    Tag.isKnown parameters.tag = true ∧ parameters.content.length < lengthLimit
  /-- The length of the content can be spelled. -/
  length_lt : algorithm.contentBytes.length < lengthLimit

theorem optionalElement_eq_some_iff {bytes : Bytes} {element? : Option Element} :
    optionalElement bytes = some (element?, []) ↔
      bytes = (match element? with
        | some element => element.encode
        | none => []) ∧
        ∀ element, element? = some element →
          Tag.isKnown element.tag = true ∧ element.content.length < lengthLimit := by
  cases bytes with
  | nil =>
    change some (none, []) = some (element?, []) ↔ _
    cases element? <;> simp [Element.encode]
  | cons tag after =>
    change (Reader.element >>= fun element => pure (some element)) (tag :: after) = _ ↔ _
    simp only [Reader.bind_eq_some_iff, Reader.pure_eq_some_iff, Reader.element_eq_some_iff]
    constructor
    · rintro ⟨element, _, ⟨encoded, known⟩, rfl, rfl⟩
      rw [List.append_nil] at encoded
      refine ⟨encoded, fun other same => ?_⟩
      cases same
      exact known
    · rintro ⟨encoded, known⟩
      cases element? with
      | none => cases encoded
      | some element =>
        exact ⟨element, [], ⟨by rw [List.append_nil]; exact encoded, known element rfl⟩, rfl, rfl⟩

theorem reader_eq_some_iff {bytes rest : Bytes} {algorithm : AlgorithmIdentifier} :
    reader bytes = some (algorithm, rest) ↔
      bytes = algorithm.encode ++ rest ∧ algorithm.IsEncodable := by
  simp only [reader, Reader.inside_eq_some_iff, Reader.bind_eq_some_iff, Oid.reader_eq_some_iff,
    Reader.pure_eq_some_iff]
  constructor
  · rintro ⟨content, encoded, -, short, oid, _, ⟨rfl, isPath⟩, element?, between, element_read, rfl,
      rfl⟩
    obtain ⟨rfl, known⟩ := optionalElement_eq_some_iff.mp element_read
    exact ⟨encoded, isPath, known, short⟩
  · rintro ⟨encoded, isPath, known, short⟩
    exact ⟨algorithm.contentBytes, encoded, by decide, short, algorithm.oid, _, ⟨rfl, isPath⟩,
      algorithm.parameters?, [], optionalElement_eq_some_iff.mpr ⟨rfl, known⟩, rfl, rfl⟩

end AlgorithmIdentifier
end Der
end Countersign
