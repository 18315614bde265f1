import Countersign.Certificate.Basic
import Countersign.Proofs.Key.Spki
import Countersign.Proofs.Outcome
import Countersign.Trust.Verifier

/-!
# Which key is taken out of an encoding

A key that is handed on is the whole bit string of the encoded public key, whether the encoding
comes from a log or is written again from a certificate.
-/

namespace Countersign

open Der

namespace KeyInfo

theorem ofSpki_eq_ok {spki : Spki} {info : KeyInfo} (taken : ofSpki spki = .ok info) :
    KeyType.ofAlgorithm spki.algorithm = .ok info.keyType ∧ spki.key = ⟨0, info.raw⟩ := by
  obtain ⟨keyType, typed, taken⟩ := Outcome.bind_eq_ok_iff.mp taken
  split at taken
  · cases taken
  · rename_i raw whole
    have key_eq := BitString.whole?_eq_some_iff.mp whole
    split at taken
    · obtain ⟨_, -, done⟩ := Outcome.bind_eq_ok_iff.mp taken
      cases done
      exact ⟨typed, key_eq⟩
    · cases taken
      exact ⟨typed, key_eq⟩

/-- The key that is taken out of an encoding is the bit string in it. -/
theorem ofDer_eq_ok {der : Bytes} {info : KeyInfo} (taken : ofDer der = .ok info) :
    ∃ spki, Spki.ofDer? der = some spki ∧ KeyType.ofAlgorithm spki.algorithm = .ok info.keyType ∧
      spki.key = ⟨0, info.raw⟩ := by
  unfold ofDer at taken
  split at taken
  · rename_i spki decoded
    exact ⟨spki, decoded, ofSpki_eq_ok taken⟩
  · cases taken

/-- RSA keys, and only they, tell the size of their modulus. -/
theorem modulusBits?_isSome_iff {der : Bytes} {info : KeyInfo} (taken : ofDer der = .ok info) :
    info.modulusBits?.isSome ↔ info.keyType = .rsa := by
  unfold ofDer at taken
  split at taken
  · obtain ⟨keyType, -, taken⟩ := Outcome.bind_eq_ok_iff.mp taken
    split at taken
    · cases taken
    · split at taken
      · obtain ⟨_, -, done⟩ := Outcome.bind_eq_ok_iff.mp taken
        cases done
        simp
      · rename_i not_rsa
        cases taken
        simpa using not_rsa
  · cases taken

end KeyInfo

namespace VerificationKey

theorem ofSpki_eq_ok {der : Bytes} {scheme : Scheme} {key : VerificationKey}
    (bound : ofSpki der scheme = .ok key) :
    key.scheme = scheme ∧ ∃ spki, Spki.ofDer? der = some spki ∧ spki.key = ⟨0, key.raw⟩ := by
  obtain ⟨info, taken, bound⟩ := Outcome.bind_eq_ok_iff.mp bound
  obtain ⟨spki, decoded, -, key_eq⟩ := KeyInfo.ofDer_eq_ok taken
  split at bound
  · cases bound
    exact ⟨rfl, spki, decoded, key_eq⟩
  · cases bound

end VerificationKey

namespace AlgorithmDetails

/-- A key for an algorithm is the encoded one, bound to the scheme of the algorithm. -/
theorem verificationKey_eq_ok {algorithm : AlgorithmDetails} {der : Bytes} {log? : Option String}
    {key : VerificationKey} (built : algorithm.verificationKey der log? = .ok key) :
    algorithm.scheme? = some key.scheme ∧
      ∃ spki, Spki.ofDer? der = some spki ∧ spki.key = ⟨0, key.raw⟩ := by
  obtain ⟨scheme, scheme_ok, built⟩ := Outcome.bind_eq_ok_iff.mp built
  have scheme_eq : algorithm.scheme? = some scheme := by
    unfold AlgorithmDetails.scheme at scheme_ok
    split at scheme_ok
    · rename_i found
      cases scheme_ok
      exact found
    · cases scheme_ok
  obtain ⟨_, -, bound⟩ := Outcome.bind_eq_ok_iff.mp (Outcome.mapError_eq_ok_iff.mp built)
  obtain ⟨_, -, bound⟩ := Outcome.bind_eq_ok_iff.mp bound
  obtain ⟨rfl, encoded⟩ := VerificationKey.ofSpki_eq_ok (Outcome.mapError_eq_ok_iff.mp bound)
  exact ⟨scheme_eq, encoded⟩

end AlgorithmDetails

namespace Certificate

open Reader

theorem shortens_contextReader {α : Type} (number : Nat) {reader : Reader α}
    (shortens : Shortens reader) (fuel : Nat) : Shortens (contextReader number reader fuel) := by
  induction fuel with
  | zero => exact .pure none
  | succ fuel ih =>
    refine Shortens.peek.bind fun tag? => ?_
    split
    · exact .pure none
    · split
      · exact .failure
      · split
        · exact .pure none
        · split
          · exact .pure none
          · split
            · exact shortens.bind fun value => .pure (some value)
            · exact Shortens.element.bind fun _ => ih

theorem shortens_versionReader : Shortens versionReader := by
  have limit : Shortens contextReaderLimit := by
    intro bytes count rest read
    cases read
    exact le_rfl
  exact limit.bind fun _ => shortens_contextReader 0 (.inside _ _) _

theorem shortens_name : Shortens DistinguishedName.reader :=
  (Shortens.listInside _ _).bind fun _ => .pure _

/-- The public key of a certificate is a part of the signed part. -/
theorem publicKey_of_signedPartReader {bytes rest : Bytes} {certificate : Certificate}
    (read : signedPartReader bytes = some (certificate, rest)) :
    certificate.publicKey.IsEncodable ∧ certificate.publicKeyDer.length ≤ bytes.length := by
  simp only [signedPartReader, inside_eq_some_iff, bind_eq_some_iff, pure_eq_some_iff,
    Spki.reader_eq_some_iff] at read
  obtain ⟨content, rfl, -, -, _, afterVersion, version, _, afterSerial, serial, _, afterAlgorithm,
    algorithm, _, afterIssuer, issuer, _, afterValidity, validity, _, afterSubject, subject,
    publicKey, afterKey, ⟨key, encodable⟩, _, _, -, _, _, -, _, _, -, rfl, -⟩ := read
  refine ⟨encodable, ?_⟩
  have element : content.length < (Element.encode ⟨Tag.sequence, content⟩).length :=
    Element.length_content_lt ⟨Tag.sequence, content⟩
  calc
    publicKey.encode.length ≤ afterSubject.length := by rw [key, List.length_append]; omega
    _ ≤ afterValidity.length := shortens_name _ _ _ subject
    _ ≤ afterIssuer.length := Shortens.inside _ _ _ _ _ validity
    _ ≤ afterAlgorithm.length := shortens_name _ _ _ issuer
    _ ≤ afterSerial.length := Shortens.inside _ _ _ _ _ algorithm
    _ ≤ afterVersion.length := Shortens.value _ _ _ _ _ serial
    _ ≤ content.length := shortens_versionReader _ _ _ version
    _ ≤ (Element.encode ⟨Tag.sequence, content⟩ ++ rest).length := by
      rw [List.length_append]
      exact Nat.le_add_right_of_le element.le

/-- A certificate's public key is the one that its own encoding of it holds. -/
theorem ofDer?_publicKeyDer {der : Bytes} {certificate : Certificate}
    (decoded : ofDer der = .ok certificate) :
    Spki.ofDer? certificate.publicKeyDer = some certificate.publicKey := by
  unfold ofDer at decoded
  split at decoded
  · rename_i found read
    cases decoded
    obtain ⟨read, fits⟩ := encoding_eq_some_iff.mp read
    simp only [reader, inside_eq_some_iff, bind_eq_some_iff, pure_eq_some_iff] at read
    obtain ⟨content, rfl, -, -, _, _, signed, _, _, -, _, _, -, rfl, -⟩ := read
    obtain ⟨encodable, length_le⟩ := publicKey_of_signedPartReader signed
    have element : content.length < (Element.encode ⟨Tag.sequence, content⟩).length :=
      Element.length_content_lt ⟨Tag.sequence, content⟩
    rw [List.append_nil] at fits
    exact Spki.ofDer?_eq_some_iff.mpr ⟨rfl, encodable, by omega⟩
  · cases decoded

end Certificate
end Countersign
