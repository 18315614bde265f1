import Mathlib.Data.Nat.PSub
import Countersign.Proofs.Trust.Chain
import Countersign.Trust.Authority

/-!
# The layout of chains

A decoded chain holds the given encodings and, at the position of each, the certificate that it
encodes.  The parts that authorities show make up the chain.  A chain may also be kept as two lists
of which every part is taken by its position; no such position lies outside a chain, since a chain
is not empty and its lists are equally long.
-/

namespace Countersign

/-- The elements from a position up to below another one, if the list has them all. -/
def range? {α : Type} (elements : List α) (first stop : Nat) : Option (List α) :=
  if first ≤ stop ∧ stop ≤ elements.length then some ((elements.take stop).drop first) else none

/-- A chain as a list of encodings and a list of certificates.  What is taken from them by position
is there only if the position is. -/
structure IndexedChain where
  /-- The encodings in order. -/
  ders : List Bytes
  /-- The certificates in order. -/
  certificates : List Certificate

namespace IndexedChain

/-- The first certificate. -/
def first? (chain : IndexedChain) : Option Certificate :=
  chain.certificates[0]?

/-- The position of the last certificate. -/
def rootPosition? (chain : IndexedChain) : Option Nat :=
  chain.certificates.length.ppred

/-- The last certificate. -/
def root? (chain : IndexedChain) : Option Certificate := do
  let position ← chain.rootPosition?
  chain.certificates[position]?

/-- The digest of the first encoding in hexadecimal. -/
def id? (chain : IndexedChain) : Option String := do
  let der ← chain.ders[0]?
  return Hex.encode (sha256 der)

/-- The verifier of the first certificate's signatures. -/
def verifier? (chain : IndexedChain) (validity : ValidityPeriod) :
    Option (Except TrustError Verifier) :=
  chain.first?.map fun certificate =>
    match KeyInfo.ofDer certificate.publicKeyDer with
    | .ok info => .ok ⟨⟨info.raw, info.defaultScheme⟩, validity⟩
    | .error error => .error (.algorithm (.certificateKey error))

/-- The certificates before the last one. -/
def beforeRoot? (chain : IndexedChain) : Option (List Certificate) := do
  let position ← chain.rootPosition?
  range? chain.certificates 0 position

/-- The certificates between the first and the last one; there are none in a chain of two. -/
def betweenEnds? (chain : IndexedChain) : Option (List Certificate) :=
  if chain.certificates.length < 3 then some []
  else do
    let position ← chain.rootPosition?
    range? chain.certificates 1 position

end IndexedChain

namespace CertificateChain

/-- The chain as two lists. -/
def indexed (chain : CertificateChain) : IndexedChain :=
  ⟨chain.ders, chain.certificates.map (·.certificate)⟩

/-- A chain of the given encodings, with each certificate at the position of its encoding. -/
structure Holds (chain : CertificateChain) (ders : List Bytes) : Prop where
  /-- The encodings are the given ones. -/
  ders_eq : chain.ders = ders
  /-- There is a certificate for each encoding. -/
  length_eq : chain.certificates.length = ders.length
  /-- Each certificate is the one that the encoding at its position holds. -/
  decodes : ∀ (position : Nat) (der : Bytes), ders[position]? = some der →
    ∃ decoded, chain.certificates[position]? = some decoded ∧
      Certificate.ofDer der = .ok decoded.certificate

/-- The parts that authorities show of a chain make it up. -/
structure IsPartitioned (chain : CertificateChain) : Prop where
  /-- A certificate authority shows the root and what stands before it. -/
  authority : ∀ authority : CertificateAuthority, authority.chain = chain →
    authority.intermediates ++ [authority.root] = chain.certificates
  /-- A timestamping authority shows the ends of a longer chain and what stands between them. -/
  stamper : ∀ authority : TimestampingAuthority, authority.chain = chain →
    2 ≤ chain.certificates.length →
      authority.leaf :: authority.intermediates ++ [authority.root] = chain.certificates
  /-- A single certificate is both ends, with nothing between them. -/
  single : ∀ authority : TimestampingAuthority, authority.chain = chain →
    chain.certificates.length = 1 →
      authority.leaf = authority.root ∧ authority.intermediates = []

/-- What is taken from a chain by position is there. -/
structure IsInRange (chain : CertificateChain) : Prop where
  first : chain.indexed.first? = some chain.first.certificate
  root : chain.indexed.root? = some chain.root.certificate
  id : chain.indexed.id? = some chain.id
  verifier : ∀ validity, chain.indexed.verifier? validity = some (chain.verifier validity)
  beforeRoot : ∀ authority : CertificateAuthority, authority.chain = chain →
    chain.indexed.beforeRoot? = some (authority.intermediates.map (·.certificate))
  betweenEnds : ∀ authority : TimestampingAuthority, authority.chain = chain →
    chain.indexed.betweenEnds? = some (authority.intermediates.map (·.certificate))

theorem holds_ders (chain : CertificateChain) : chain.Holds chain.ders := by
  refine ⟨rfl, by rw [ders, List.length_map], fun position der found => ?_⟩
  rw [ders, List.getElem?_map] at found
  obtain ⟨decoded, decoded_found, rfl⟩ := Option.map_eq_some_iff.mp found
  exact ⟨decoded, decoded_found, decoded.decodes⟩

theorem getLast?_certificates (chain : CertificateChain) :
    chain.certificates.getLast? = some chain.root := by
  rw [certificates, List.getLast?_cons, root, List.getLastD_eq_getLast?]

theorem dropLast_certificates_append (chain : CertificateChain) :
    chain.certificates.dropLast ++ [chain.root] = chain.certificates :=
  List.dropLast_append_getLast? _ chain.getLast?_certificates

theorem dropLast_certificates {chain : CertificateChain} (long : chain.rest ≠ []) :
    chain.certificates.dropLast = chain.first :: chain.rest.dropLast :=
  List.dropLast_cons_of_ne_nil long

theorem isPartitioned (chain : CertificateChain) : chain.IsPartitioned := by
  constructor
  case authority =>
    rintro authority rfl
    exact authority.chain.dropLast_certificates_append
  case stamper =>
    rintro authority rfl long
    have more : authority.chain.rest ≠ [] := by
      intro alone
      simp [certificates, alone] at long
    have parts := authority.chain.dropLast_certificates_append
    rw [dropLast_certificates more] at parts
    exact parts
  case single =>
    rintro authority rfl short
    have alone : authority.chain.rest = [] := by simpa [certificates] using short
    constructor
    · rw [TimestampingAuthority.leaf, Authority.root, root, alone]
      rfl
    · rw [TimestampingAuthority.intermediates, alone]
      rfl

theorem length_certificates_indexed (chain : CertificateChain) :
    chain.indexed.certificates.length = chain.rest.length + 1 :=
  List.length_map ..

theorem rootPosition?_indexed (chain : CertificateChain) :
    chain.indexed.rootPosition? = some chain.rest.length := by
  rw [IndexedChain.rootPosition?, length_certificates_indexed, Nat.ppred_succ]

theorem getElem?_rest_length (chain : CertificateChain) :
    chain.certificates[chain.rest.length]? = some chain.root := by
  have last := chain.getLast?_certificates
  rw [List.getLast?_eq_getElem?] at last
  exact last

theorem first?_indexed (chain : CertificateChain) :
    chain.indexed.first? = some chain.first.certificate :=
  rfl

theorem range?_map_certificates {chain : CertificateChain} {first : Nat}
    (start : first ≤ chain.rest.length) :
    range? chain.indexed.certificates first chain.rest.length =
      some ((chain.certificates.dropLast.drop first).map (·.certificate)) := by
  have stop : chain.rest.length ≤ chain.indexed.certificates.length := by
    rw [length_certificates_indexed]
    omega
  have taken : chain.certificates.dropLast = chain.certificates.take chain.rest.length :=
    List.dropLast_eq_take
  rw [range?, if_pos ⟨start, stop⟩, indexed, ← List.map_take, ← List.map_drop, taken]

theorem isInRange (chain : CertificateChain) : chain.IsInRange := by
  constructor
  case first => exact chain.first?_indexed
  case id => rfl
  case verifier =>
    intro validity
    cases taken : KeyInfo.ofDer chain.first.certificate.publicKeyDer with
    | ok info => simp [IndexedChain.verifier?, first?_indexed, verifier, taken]
    | error error => simp [IndexedChain.verifier?, first?_indexed, verifier, taken]
  case root =>
    rw [IndexedChain.root?, rootPosition?_indexed]
    change (chain.certificates.map (·.certificate))[chain.rest.length]? = _
    rw [List.getElem?_map, getElem?_rest_length]
    rfl
  case beforeRoot =>
    rintro authority rfl
    rw [IndexedChain.beforeRoot?, rootPosition?_indexed]
    exact range?_map_certificates (Nat.zero_le _)
  case betweenEnds =>
    rintro authority rfl
    rw [IndexedChain.betweenEnds?, rootPosition?_indexed, length_certificates_indexed]
    split
    -- Nothing is taken by position from a chain without a certificate between its ends.
    · rename_i short
      have none_between : authority.chain.rest.dropLast = [] := by
        apply List.eq_nil_of_length_eq_zero
        rw [List.length_dropLast]
        omega
      rw [TimestampingAuthority.intermediates, none_between, List.map_nil]
    · rename_i long
      have more : authority.chain.rest ≠ [] := by
        intro alone
        simp [alone] at long
      change range? _ 1 _ = _
      rw [range?_map_certificates (by omega), dropLast_certificates more]
      rfl

/-- Encodings are decoded to a chain exactly when there are some, each is that of a certificate, and
each certificate names the owner of the next one as its issuer; otherwise the first encoding that
holds no certificate is reported, or else the first broken link.  A decoded chain holds the
encodings and their certificates in order, its parts make it up, and none of them is looked for
outside of it. -/
theorem decoded_in_order (ders : List Bytes) :
    ((∃ chain, ofDers ders = .ok chain) ↔ IsEncodedChain ders) ∧
    (∀ error, ofDers ders = .error error ↔ IsRefused ders error) ∧
    ∀ chain, ofDers ders = .ok chain →
      chain.Holds ders ∧ chain.IsPartitioned ∧ chain.IsInRange := by
  refine ⟨exists_ofDers_iff, fun error => ofDers_eq_error_iff, fun chain accepted => ?_⟩
  obtain rfl := ofDers_eq_ok_iff.mp accepted
  exact ⟨chain.holds_ders, chain.isPartitioned, chain.isInRange⟩

end CertificateChain
end Countersign
