import Countersign.Format.Sha256Digest
import Countersign.Proofs.Json.Correspondence
import Countersign.Proofs.Json.Recovery
import Countersign.Proofs.Text.Base64
import Countersign.Proofs.Text.Hex

/-!
# Bytes are decoded

Bytes and digests are decoded from what is written for them, and bytes from all documents that
correspond.  A digest in hexadecimal is read from 64 digits.
-/

namespace Countersign

open Json

theorem Blob.recovers : Decoder.Recovers Blob.decoder Blob.toDocument 0 :=
  .stringVia fun _ => Base64.decode_eq_some_iff.mpr rfl

theorem Blob.respects {related : Document → Document → Prop}
    (corresponds : IsCorrespondence related) : Blob.decoder.Respects related :=
  .stringVia corresponds _

namespace Sha256Digest

theorem ofBytes_eq_ok_iff {bytes : Bytes} {digest : Sha256Digest} :
    ofBytes bytes = .ok digest ↔ bytes = digest.bytes := by
  rw [ofBytes]
  split
  · rw [Except.ok.injEq]
    constructor
    · rintro rfl
      rfl
    · rintro rfl
      rfl
  · rename_i other_length
    refine iff_of_false nofun ?_
    rintro rfl
    exact other_length digest.length_eq

theorem recovers : Decoder.Recovers decoder toDocument 0 := by
  refine ⟨fun digest => ?_, fun _ => .string _⟩
  have decoded : Base64.decode digest.toBase64 = some digest.bytes :=
    Base64.decode_eq_some_iff.mpr rfl
  have accepted : ofBytes digest.bytes = .ok digest := ofBytes_eq_ok_iff.mpr rfl
  simp only [toDocument, decoder, Decoder.andThen, Decoder.string, Except.bind, ofBase64,
    Blob.ofBase64, decoded, accepted]

/-- A text of 64 hexadecimal digits of either case. -/
structure IsHexadecimal (text : String) : Prop where
  length_eq : text.length = 64
  digits : ∀ character ∈ text.toList, Hex.IsDigit character

theorem ofHex_eq_ok_iff_decode {text : String} {digest : Sha256Digest} :
    ofHex text = .ok digest ↔ Hex.decode text = .ok digest.bytes := by
  rw [ofHex]
  split
  · rename_i bytes read
    rw [read, ofBytes_eq_ok_iff, Except.ok.injEq]
  · rename_i fault unread
    rw [unread]
    exact iff_of_false nofun nofun

/-- A digest is read from 64 digits, and it is spelled by the same digits in lowercase. -/
theorem ofHex_eq_ok_iff {text : String} {digest : Sha256Digest} :
    ofHex text = .ok digest ↔ IsHexadecimal text ∧ digest.toHex = text.toLower := by
  rw [ofHex_eq_ok_iff_decode]
  constructor
  · intro read
    have length_eq := Hex.length_eq_of_decode read
    obtain ⟨hexadecimal, same⟩ := Hex.decode_eq_ok_iff.mp read
    exact ⟨⟨by rw [length_eq, digest.length_eq], hexadecimal.digits⟩, same⟩
  · rintro ⟨⟨length_eq, digits⟩, same⟩
    exact Hex.decode_eq_ok_iff.mpr ⟨⟨by rw [length_eq], digits⟩, same⟩

theorem exists_ofHex_eq_ok_iff {text : String} :
    (∃ digest, ofHex text = .ok digest) ↔ IsHexadecimal text := by
  refine ⟨fun ⟨digest, read⟩ => (ofHex_eq_ok_iff.mp read).1, fun ⟨length_eq, digits⟩ => ?_⟩
  obtain ⟨bytes, read⟩ := Hex.exists_decode_eq_ok_iff.mpr ⟨by rw [length_eq], digits⟩
  have bytes_length := Hex.length_eq_of_decode read
  exact ⟨⟨bytes, by omega⟩, ofHex_eq_ok_iff_decode.mpr read⟩

end Sha256Digest

end Countersign
