import Countersign.Bundle.Basic
import Countersign.Proofs.Bundle.Material

/-!
# Bundles survive writing

A bundle is read back from both of its texts as it was.  The decoder knows two members for the
content, of which the writer fills at most one, so they never disagree.
-/

namespace Countersign
namespace Bundle

open Json Json.Fields

/-- What a document of a bundle holds, with one place for each kind of content. -/
abbrev Parts := (String × Material) × (Option MessageSignature × Option Envelope)

/-- The parts of a bundle, which has at most one kind of content. -/
def parts (bundle : Bundle) : Parts :=
  ((bundle.mediaType, bundle.material), (bundle.messageSignature?, bundle.envelope?))

/-- The slots of parts, one for each member that the decoder knows. -/
def slots (parts : Parts) : List Slot :=
  [.always "mediaType" (.string parts.1.1),
    .always "verificationMaterial" parts.1.2.toDocument,
    .of? "messageSignature" parts.2.1 MessageSignature.toDocument,
    .of? "dsseEnvelope" parts.2.2 Envelope.toDocument]

theorem holds_slots (parts : Parts) : List.Forall₂ (Slot.Holds 5) memberNames (slots parts) := by
  have material := (Material.recovers 1 (by decide)).isTextual parts.1.2
  have signature (value : MessageSignature) : value.toDocument.IsTextual 5 :=
    (MessageSignature.recovers.isTextual value).mono (by decide)
  have envelope (value : Envelope) : value.toDocument.IsTextual 5 :=
    (Envelope.recovers.isTextual value).mono (by decide)
  exact .cons (.always (.string _))
    (.cons (.always material) (.cons (.of? signature _) (.cons (.of? envelope _) .nil)))

/-- A bundle is written as the slots of its parts, of which one for the content stays empty. -/
theorem toDocument_eq (bundle : Bundle) : bundle.toDocument = .record (slots bundle.parts) := by
  obtain ⟨mediaType, material, content?⟩ := bundle
  cases content? with
  | none => rfl
  | some content => cases content <;> rfl

theorem contentOf_parts (bundle : Bundle) :
    contentOf bundle.messageSignature? bundle.envelope? = .ok bundle.content? := by
  obtain ⟨mediaType, material, content?⟩ := bundle
  cases content? with
  | none => rfl
  | some content => cases content <;> rfl

theorem recovers : Decoder.Recovers decoder toDocument 6 := by
  constructor
  case isTextual =>
    intro bundle
    rw [toDocument_eq]
    exact Slot.isTextual_record (holds_slots bundle.parts)
  case decode_eq =>
    intro bundle
    rw [toDocument_eq]
    have finds := Slot.finds (holds_slots bundle.parts) (by decide)
    refine Outcome.bind_eq_ok_iff.mpr
      ⟨bundle.parts, Decoder.record_slots_eq_ok (holds_slots bundle.parts) ?parts_read, ?_⟩
    case parts_read =>
      refine seq_eq_ok (map_eq_ok (seq_eq_ok
        (map_eq_ok (Decoder.Recovers.string.member_always finds ?_))
        ((Material.recovers 1 (by decide)).member_always finds ?_)))
        (seq_eq_ok (map_eq_ok (MessageSignature.recovers.nullable_of? finds ?_))
          (Envelope.recovers.nullable_of? finds ?_))
      all_goals simp [slots, parts, memberNames]
    exact Outcome.map_eq_ok_iff.mpr ⟨bundle.content?, contentOf_parts bundle, rfl⟩

/-- Decoding undoes encoding, compact or indented, for every bundle. -/
theorem ofJson_toJson (bundle : Bundle) :
    ofJson bundle.toJson = .ok bundle ∧ ofJson bundle.toIndentedJson = .ok bundle := by
  obtain ⟨compact, indented⟩ := recovers.decode_text bundle
  exact ⟨Outcome.mapError_eq_ok_iff.mpr compact, Outcome.mapError_eq_ok_iff.mpr indented⟩

end Bundle
end Countersign
