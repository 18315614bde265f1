import Countersign.Proofs.Format.Blob
import Countersign.Proofs.Text.Sextet

/-!
# Bytes have one spelling

Bytes are read from one text alone, whether it stands by itself or in a document, and that text is
the canonical base64 of the bytes.  A digest has one such text too, and may in addition be read from
its hexadecimal digits, of which only the case is free.
-/

namespace Countersign

open Json

/-- A reader of texts and a decoder of documents that accept for each value exactly the text that is
written for it. -/
structure HasOneSpelling {α : Type} (read : String → Except EncodingFault α) (write : α → String)
    (decoder : Decoder α) : Prop where
  /-- A text is read as a value when it is what is written for the value. -/
  read_eq_ok_iff (text : String) (value : α) : read text = .ok value ↔ text = write value
  /-- A document is decoded as a value when it is a string that is read as the value. -/
  decoder_eq_ok_iff (document : Document) (value : α) :
    decoder document = .ok value ↔ ∃ text, document = .string text ∧ read text = .ok value
  /-- So is the document of a whole text. -/
  decode_eq_ok_iff (text : Text) (value : α) :
    text.decode decoder = .ok value ↔
      text.document = .string (write value) ∧ text.complete = true

namespace HasOneSpelling

variable {α : Type} {read : String → Except EncodingFault α} {write : α → String}
  {decoder : Decoder α}

/-- What holds of documents holds of the documents of texts. -/
theorem ofDecoder (read_eq : ∀ text value, read text = .ok value ↔ text = write value)
    (decoder_eq : ∀ document value,
      decoder document = .ok value ↔ ∃ text, document = .string text ∧ read text = .ok value) :
    HasOneSpelling read write decoder := by
  refine ⟨read_eq, decoder_eq, fun text value => ?_⟩
  have document_iff (other : α) :
      decoder text.document = .ok other ↔ text.document = .string (write other) := by
    simp only [decoder_eq, read_eq, exists_eq_right]
  rw [Text.decode, ← document_iff]
  refine Outcome.bind_eq_ok_iff.trans ⟨?_, ?_⟩
  · rintro ⟨other, decoded, done⟩
    split at done
    · rename_i complete
      cases done
      exact ⟨decoded, complete⟩
    · cases done
  · rintro ⟨decoded, complete⟩
    exact ⟨value, decoded, if_pos complete⟩

end HasOneSpelling

namespace Blob

theorem ofBase64_eq_ok_iff {text : String} {bytes : Bytes} :
    ofBase64 text = .ok bytes ↔ text = Base64.encode bytes := by
  rw [← Base64.decode_eq_some_iff, ofBase64]
  cases Base64.decode text <;> simp

theorem decoder_eq_ok_iff_exists {document : Document} {bytes : Bytes} :
    decoder document = .ok bytes ↔
      ∃ text, document = .string text ∧ ofBase64 text = .ok bytes := by
  cases document with
  | string text =>
    simp only [decoder, Decoder.stringVia, ofBase64, Document.string.injEq, exists_eq_left']
    cases Base64.decode text <;> simp
  | _ => simp [decoder, Decoder.stringVia]

/-- A text that is refused is no canonical base64. -/
theorem ofBase64_eq_error_iff {text : String} {fault : EncodingFault} :
    ofBase64 text = .error fault ↔ fault = .base64 ∧ ¬Base64.IsCanonical text := by
  rw [← Base64.exists_decode_eq_some_iff, ofBase64]
  cases Base64.decode text <;> simp [eq_comm]

theorem hasOneSpelling : HasOneSpelling ofBase64 Base64.encode decoder :=
  .ofDecoder (fun _ _ => ofBase64_eq_ok_iff) fun _ _ => decoder_eq_ok_iff_exists

end Blob

namespace Sha256Digest

theorem ofBase64_eq_ok_iff {text : String} {digest : Sha256Digest} :
    ofBase64 text = .ok digest ↔ text = digest.toBase64 := by
  refine Outcome.bind_eq_ok_iff.trans ?_
  simp only [Blob.ofBase64_eq_ok_iff, ofBytes_eq_ok_iff, exists_eq_right, toBase64]

theorem decoder_eq_ok_iff_exists {document : Document} {digest : Sha256Digest} :
    decoder document = .ok digest ↔
      ∃ text, document = .string text ∧ ofBase64 text = .ok digest := by
  cases document with
  | string text =>
    simp only [decoder, Decoder.andThen, Decoder.string, Except.bind, Document.string.injEq,
      exists_eq_left']
    split <;> simp_all
  | _ => simp [decoder, Decoder.andThen, Decoder.string, Except.bind]

theorem hasOneSpelling : HasOneSpelling ofBase64 toBase64 decoder :=
  .ofDecoder (fun _ _ => ofBase64_eq_ok_iff) fun _ _ => decoder_eq_ok_iff_exists

/-- A digest is read from the base64 of 32 bytes. -/
theorem exists_ofBase64_eq_ok_iff {text : String} :
    (∃ digest, ofBase64 text = .ok digest) ↔
      ∃ bytes : Bytes, bytes.length = 32 ∧ text = Base64.encode bytes := by
  simp only [ofBase64_eq_ok_iff]
  constructor
  · rintro ⟨digest, rfl⟩
    exact ⟨digest.bytes, digest.length_eq, rfl⟩
  · rintro ⟨bytes, length_eq, rfl⟩
    exact ⟨⟨bytes, length_eq⟩, rfl⟩

end Sha256Digest

/-- Bytes are read from one text alone, which is canonical base64: digits of the standard alphabet
that spell the number of the bytes, with the padding that they need.  All other texts are refused.
So it is with digests, which have 32 bytes; in hexadecimal a digest is read from 64 digits of either
case, and the text that is written for it has them in lowercase. -/
theorem bytes_have_one_spelling :
    HasOneSpelling Blob.ofBase64 Base64.encode Blob.decoder ∧
    (∀ text bytes, text = Base64.encode bytes ↔ Base64.IsSpelling text bytes) ∧
    (∀ text, Blob.ofBase64 text = .error .base64 ↔ ¬Base64.IsCanonical text) ∧
    HasOneSpelling Sha256Digest.ofBase64 Sha256Digest.toBase64 Sha256Digest.decoder ∧
    (∀ text, (∃ digest, Sha256Digest.ofBase64 text = .ok digest) ↔
      ∃ bytes : Bytes, bytes.length = 32 ∧ text = Base64.encode bytes) ∧
    (∀ text, (∃ digest, Sha256Digest.ofHex text = .ok digest) ↔
      Sha256Digest.IsHexadecimal text) ∧
    ∀ text digest, Sha256Digest.ofHex text = .ok digest ↔
      Sha256Digest.IsHexadecimal text ∧ digest.toHex = text.toLower :=
  ⟨Blob.hasOneSpelling, fun _ _ => Base64.eq_encode_iff,
    fun _ => Blob.ofBase64_eq_error_iff.trans (and_iff_right rfl), Sha256Digest.hasOneSpelling,
    fun _ => Sha256Digest.exists_ofBase64_eq_ok_iff, fun _ => Sha256Digest.exists_ofHex_eq_ok_iff,
    fun _ _ => Sha256Digest.ofHex_eq_ok_iff⟩

end Countersign
