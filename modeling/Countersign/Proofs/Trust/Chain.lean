import Mathlib.Data.List.Chain
import Countersign.Proofs.Outcome
import Countersign.Trust.Chain

/-!
# Which encodings form a chain

A chain can be decoded exactly when there is at least one certificate, every certificate can be
decoded, and each names the owner of the next one as its issuer.  Otherwise the first certificate
that cannot be decoded is reported, or else the first link that is broken.
-/

namespace Countersign
namespace DecodedCertificate

theorem ofDer_eq_ok_iff {der : Bytes} {decoded : DecodedCertificate} :
    ofDer der = .ok decoded ↔ decoded.der = der := by
  constructor
  · intro accepted
    unfold ofDer at accepted
    split at accepted
    · cases accepted
      rfl
    · cases accepted
  · rintro rfl
    obtain ⟨der, certificate, decodes⟩ := decoded
    unfold ofDer
    split
    · rename_i other same
      rw [decodes] at same
      cases same
      rfl
    · rename_i error failed
      rw [decodes] at failed
      cases failed

theorem exists_ofDer_iff {der : Bytes} :
    (∃ decoded, ofDer der = .ok decoded) ↔
      ∃ certificate, Certificate.ofDer der = .ok certificate := by
  simp only [ofDer_eq_ok_iff]
  constructor
  · rintro ⟨decoded, rfl⟩
    exact ⟨decoded.certificate, decoded.decodes⟩
  · rintro ⟨certificate, decodes⟩
    exact ⟨⟨der, certificate, decodes⟩, rfl⟩

theorem ofDer_eq_error_iff {der : Bytes} {error : TrustError} :
    ofDer der = .error error ↔
      ∃ cause, Certificate.ofDer der = .error cause ∧ error = .certificate cause := by
  unfold ofDer
  split
  · rename_i certificate decodes
    simp [decodes]
  · rename_i cause failed
    simp [failed, eq_comm]

theorem isIssuedBy_iff {certificate next : DecodedCertificate} :
    certificate.isIssuedBy next = true ↔
      certificate.certificate.issuer = next.certificate.subject := by
  simp [isIssuedBy]

/-- Encodings are decoded to certificates with these encodings. -/
theorem mapM_ofDer_eq_ok_iff {ders : List Bytes} {decoded : List DecodedCertificate} :
    ders.mapM ofDer = .ok decoded ↔ decoded.map (·.der) = ders := by
  simp only [Outcome.mapM_eq_ok_iff, ofDer_eq_ok_iff]
  constructor
  · intro each
    exact List.forall₂_eq_eq_eq ▸ (List.forall₂_map_left_iff.mpr each.flip)
  · rintro rfl
    rw [List.forall₂_map_left_iff]
    exact List.forall₂_same.mpr fun _ _ => rfl

theorem mapM_ofDer_eq_error_iff {ders : List Bytes} {error : TrustError} :
    ders.mapM ofDer = .error error ↔
      ∃ front der back cause, ders = front ++ der :: back ∧
        (∀ earlier ∈ front, ∃ certificate, Certificate.ofDer earlier = .ok certificate) ∧
        Certificate.ofDer der = .error cause ∧ error = .certificate cause := by
  simp only [Outcome.mapM_eq_error_iff, exists_ofDer_iff, ofDer_eq_error_iff]
  constructor
  · rintro ⟨front, der, back, split, front_decodes, cause, failed, same⟩
    exact ⟨front, der, back, cause, split, front_decodes, failed, same⟩
  · rintro ⟨front, der, back, cause, split, front_decodes, failed, same⟩
    exact ⟨front, der, back, split, front_decodes, cause, failed, same⟩

theorem forall₂_decodes (decoded : List DecodedCertificate) :
    List.Forall₂ (fun der certificate => Certificate.ofDer der = .ok certificate)
      (decoded.map (·.der)) (decoded.map (·.certificate)) := by
  rw [List.forall₂_map_left_iff, List.forall₂_map_right_iff]
  exact List.forall₂_same.mpr fun certificate _ => certificate.decodes

theorem exists_decoded {ders : List Bytes} {certificates : List Certificate}
    (decodes : List.Forall₂ (fun der certificate => Certificate.ofDer der = .ok certificate) ders
      certificates) :
    ∃ decoded : List DecodedCertificate,
      decoded.map (·.der) = ders ∧ decoded.map (·.certificate) = certificates := by
  induction decodes with
  | nil => exact ⟨[], rfl, rfl⟩
  | cons first_decodes _ ih =>
    obtain ⟨decoded, rfl, rfl⟩ := ih
    exact ⟨⟨_, _, first_decodes⟩ :: decoded, rfl, rfl⟩

theorem isChain_map_iff {decoded : List DecodedCertificate} :
    ((decoded.map (·.certificate)).IsChain
        fun certificate next => certificate.issuer = next.subject) ↔
      decoded.IsChain fun certificate next => certificate.isIssuedBy next = true := by
  simp only [List.isChain_map, isIssuedBy_iff]

end DecodedCertificate

/-- No link is broken when each certificate is issued by the next one. -/
theorem brokenLink?_eq_none_iff {first : DecodedCertificate} {rest : List DecodedCertificate} :
    brokenLink? first rest = none ↔
      (first :: rest).IsChain fun certificate next => certificate.isIssuedBy next = true := by
  induction rest generalizing first with
  | nil => simp [brokenLink?]
  | cons next rest ih =>
    rw [brokenLink?, List.isChain_cons_cons]
    by_cases issued : first.isIssuedBy next = true
    · simp [issued, ih]
    · simp [issued]

/-- The link that is reported is the first that is broken. -/
theorem brokenLink?_eq_some_iff {first certificate next : DecodedCertificate}
    {rest : List DecodedCertificate} :
    brokenLink? first rest = some (certificate, next) ↔
      ∃ front back, first :: rest = front ++ certificate :: next :: back ∧
        ((front ++ [certificate]).IsChain
          fun certificate next => certificate.isIssuedBy next = true) ∧
        certificate.isIssuedBy next = false := by
  constructor
  · intro found
    induction rest generalizing first with
    | nil => cases found
    | cons second rest ih =>
      rw [brokenLink?] at found
      split at found
      · rename_i issued
        obtain ⟨front, back, split, linked, broken⟩ := ih found
        refine ⟨first :: front, back, by rw [split, List.cons_append], ?_, broken⟩
        cases front with
        | nil =>
          obtain ⟨rfl, -⟩ := List.cons.inj split
          simpa using issued
        | cons head front =>
          obtain ⟨rfl, -⟩ := List.cons.inj split
          exact List.isChain_cons_cons.mpr ⟨issued, linked⟩
      · rename_i broken
        cases found
        exact ⟨[], rest, rfl, .singleton _, by simpa using broken⟩
  · rintro ⟨front, back, split, linked, broken⟩
    induction front generalizing first rest with
    | nil =>
      cases split
      rw [brokenLink?, broken]
      rfl
    | cons head front ih =>
      obtain ⟨rfl, rfl⟩ := List.cons.inj split
      cases front with
      | nil =>
        change brokenLink? first (certificate :: next :: back) = _
        rw [brokenLink?, if_pos (by simpa using linked)]
        exact ih rfl (.singleton _)
      | cons second front =>
        obtain ⟨issued, linked⟩ := List.isChain_cons_cons.mp linked
        change brokenLink? first (second :: (front ++ certificate :: next :: back)) = _
        rw [brokenLink?, if_pos issued]
        exact ih rfl linked

namespace CertificateChain

/-- Encodings of at least one certificate, each issued by the next one. -/
def IsEncodedChain (ders : List Bytes) : Prop :=
  ders ≠ [] ∧ ∃ certificates : List Certificate,
    List.Forall₂ (fun der certificate => Certificate.ofDer der = .ok certificate) ders
        certificates ∧
      certificates.IsChain fun certificate next => certificate.issuer = next.subject

theorem ofCertificates_eq_ok_iff {certificates : List DecodedCertificate}
    {chain : CertificateChain} :
    ofCertificates certificates = .ok chain ↔ chain.certificates = certificates := by
  constructor
  · intro accepted
    cases certificates with
    | nil => cases accepted
    | cons first rest =>
      unfold ofCertificates at accepted
      dsimp only at accepted
      split at accepted
      · cases accepted
        rfl
      · cases accepted
  · rintro rfl
    obtain ⟨first, rest, linked⟩ := chain
    unfold ofCertificates CertificateChain.certificates
    dsimp only
    split
    · rfl
    · rename_i broken
      rw [linked] at broken
      cases broken

theorem isChain_certificates (chain : CertificateChain) :
    chain.certificates.IsChain fun certificate next => certificate.isIssuedBy next = true :=
  brokenLink?_eq_none_iff.mp chain.linked

theorem ofDers_eq_ok_iff {ders : List Bytes} {chain : CertificateChain} :
    ofDers ders = .ok chain ↔ chain.ders = ders := by
  change ders.mapM DecodedCertificate.ofDer >>= ofCertificates = _ ↔ _
  simp only [Outcome.bind_eq_ok_iff, DecodedCertificate.mapM_ofDer_eq_ok_iff,
    ofCertificates_eq_ok_iff]
  constructor
  · rintro ⟨certificates, rfl, rfl⟩
    rfl
  · rintro rfl
    exact ⟨chain.certificates, rfl, rfl⟩

/-- Encodings are accepted as a chain when they are those of a chain. -/
theorem exists_ofDers_iff {ders : List Bytes} :
    (∃ chain, ofDers ders = .ok chain) ↔ IsEncodedChain ders := by
  simp only [ofDers_eq_ok_iff]
  constructor
  · rintro ⟨chain, rfl⟩
    have decodes := DecodedCertificate.forall₂_decodes chain.certificates
    exact ⟨by simp [CertificateChain.ders, certificates], _, decodes,
      DecodedCertificate.isChain_map_iff.mpr chain.isChain_certificates⟩
  · rintro ⟨nonempty, certificates, decodes, linked⟩
    obtain ⟨decoded, rfl, rfl⟩ := DecodedCertificate.exists_decoded decodes
    have issued := DecodedCertificate.isChain_map_iff.mp linked
    cases decoded with
    | nil => exact absurd rfl nonempty
    | cons first rest => exact ⟨⟨first, rest, brokenLink?_eq_none_iff.mpr issued⟩, rfl⟩

/-- Why encodings are refused as a chain. -/
inductive IsRefused : List Bytes → TrustError → Prop
  | empty : IsRefused [] (.malformed .emptyChain)
  | undecodable {front back : List Bytes} {der : Bytes} {cause : KeyError}
      (front_decodes : ∀ earlier ∈ front, ∃ certificate,
        Certificate.ofDer earlier = .ok certificate)
      (failed : Certificate.ofDer der = .error cause) :
      IsRefused (front ++ der :: back) (.certificate cause)
  | unlinked {ders : List Bytes} {front back : List Certificate} {certificate next : Certificate}
      (decodes : List.Forall₂ (fun der certificate => Certificate.ofDer der = .ok certificate) ders
        (front ++ certificate :: next :: back))
      (linked : (front ++ [certificate]).IsChain
        fun certificate next => certificate.issuer = next.subject)
      (broken : certificate.issuer ≠ next.subject) :
      IsRefused ders (.malformed (.brokenChain certificate.subjectText next.subjectText))

theorem ofCertificates_eq_error_iff {certificates : List DecodedCertificate} {error : TrustError} :
    ofCertificates certificates = .error error ↔
      certificates = [] ∧ error = .malformed .emptyChain ∨
      ∃ front certificate next back, certificates = front ++ certificate :: next :: back ∧
        ((front ++ [certificate]).IsChain
          fun certificate next => certificate.isIssuedBy next = true) ∧
        certificate.isIssuedBy next = false ∧
        error = .malformed (.brokenChain certificate.subjectText next.subjectText) := by
  constructor
  · intro refused
    unfold ofCertificates at refused
    split at refused
    · cases refused
      exact .inl ⟨rfl, rfl⟩
    · split at refused
      · cases refused
      · rename_i first rest certificate next found
        cases refused
        obtain ⟨front, back, split, linked, broken⟩ := brokenLink?_eq_some_iff.mp found
        exact .inr ⟨front, certificate, next, back, split, linked, broken, rfl⟩
  · rintro (⟨rfl, rfl⟩ | ⟨front, certificate, next, back, split, linked, broken, rfl⟩)
    · rfl
    · cases certificates with
      | nil => simp at split
      | cons first rest =>
        have found := brokenLink?_eq_some_iff.mpr ⟨front, back, split, linked, broken⟩
        unfold ofCertificates
        dsimp only
        split
        · rename_i unbroken
          rw [found] at unbroken
          cases unbroken
        · rename_i same
          cases found.symm.trans same
          rfl

/-- A certificate that cannot be decoded is reported before any broken link. -/
theorem ofDers_eq_error_iff {ders : List Bytes} {error : TrustError} :
    ofDers ders = .error error ↔ IsRefused ders error := by
  change ders.mapM DecodedCertificate.ofDer >>= ofCertificates = _ ↔ _
  simp only [Outcome.bind_eq_error_iff, DecodedCertificate.mapM_ofDer_eq_error_iff,
    DecodedCertificate.mapM_ofDer_eq_ok_iff, ofCertificates_eq_error_iff]
  constructor
  · rintro (⟨front, der, back, cause, rfl, front_decodes, failed, rfl⟩ |
      ⟨decoded, rfl, ⟨rfl, rfl⟩ | ⟨front, certificate, next, back, rfl, linked, broken, rfl⟩⟩)
    · exact .undecodable front_decodes failed
    · exact .empty
    · have decodes := DecodedCertificate.forall₂_decodes (front ++ certificate :: next :: back)
      have linked := DecodedCertificate.isChain_map_iff.mpr linked
      have broken := mt DecodedCertificate.isIssuedBy_iff.mpr (by simpa using broken)
      rw [List.map_append] at linked
      rw [List.map_append (f := DecodedCertificate.certificate)] at decodes
      exact .unlinked decodes linked broken
  · intro refused
    cases refused with
    | empty => exact .inr ⟨[], rfl, .inl ⟨rfl, rfl⟩⟩
    | undecodable front_decodes failed =>
      exact .inl ⟨_, _, _, _, rfl, front_decodes, failed, rfl⟩
    | unlinked decodes linked broken =>
      obtain ⟨decoded, rfl, split⟩ := DecodedCertificate.exists_decoded decodes
      obtain ⟨front, rest, rfl, rfl, rest_eq⟩ := List.map_eq_append_iff.mp split
      obtain ⟨certificate, more, rfl, rfl, more_eq⟩ := List.map_eq_cons_iff.mp rest_eq
      obtain ⟨next, back, rfl, rfl, rfl⟩ := List.map_eq_cons_iff.mp more_eq
      have linked : ((front ++ [certificate]).map (·.certificate)).IsChain
          fun certificate next => certificate.issuer = next.subject := by simpa using linked
      refine .inr ⟨_, rfl, .inr ⟨front, certificate, next, back, rfl,
        DecodedCertificate.isChain_map_iff.mp linked, ?_, rfl⟩⟩
      simpa using mt DecodedCertificate.isIssuedBy_iff.mp broken

/-- A chain is refused because of a certificate, or because it is empty or broken. -/
theorem ofDers_eq_error {ders : List Bytes} {error : TrustError}
    (failed : ofDers ders = .error error) :
    (∃ cause, error = .certificate cause) ∨ ∃ fault, error = .malformed fault := by
  cases ofDers_eq_error_iff.mp failed with
  | empty => exact .inr ⟨_, rfl⟩
  | undecodable => exact .inl ⟨_, rfl⟩
  | unlinked => exact .inr ⟨_, rfl⟩

end CertificateChain
end Countersign
