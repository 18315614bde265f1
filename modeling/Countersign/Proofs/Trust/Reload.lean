import Countersign.Proofs.Trust.Index
import Countersign.Proofs.Trust.KeyDemand
import Countersign.Proofs.Trust.Loading
import Countersign.Proofs.Trust.Recovery

/-!
# Trust roots that are made from parts

Parts can be made that no document gives: a log without a key, one with an empty address, one whose
algorithm has a recognized name but stands as an unknown one, and a period with an end in a leap
second that clocks do not show.  A trust root of such parts is written like any other.  What is
written is refused if a log has no key, or if the end of a period comes to lie before its start.
Otherwise an empty address is none, a recognized name is recognized, the ends of periods are those
that clocks show, and all else is as it was made.
-/

namespace Countersign

open Json

/-- A period that is made from two ends whose years four digits can spell. -/
structure ValidityPeriod.IsMade (validity : ValidityPeriod) : Prop where
  between : ∃ start? finish?, between start? finish? = .ok validity
  years : validity.HasFourDigitYears

namespace ValidityPeriod

variable {validity : ValidityPeriod}

/-- An instant at which a period starts or ends. -/
def IsBound (period : ValidityPeriod) (bound : Instant) : Prop :=
  period.start? = some bound ∨ period.finish? = some bound

/-- A period as it is read back: its ends are those that clocks show. -/
def reread (validity : ValidityPeriod) : ValidityPeriod :=
  ⟨validity.start?.map Instant.settle, validity.finish?.map Instant.settle⟩

/-- Why a period is not read back: clocks show its end before its start. -/
def refusal? (validity : ValidityPeriod) : Option TrustError :=
  match validity.reread.start?, validity.reread.finish? with
  | some first, some last =>
    if last < first then some (.malformed (.reversedPeriod first last)) else none
  | _, _ => none

/-- A period that is read back as it is: clocks show both of its ends. -/
def IsRestorable (validity : ValidityPeriod) : Prop :=
  ∀ bound, validity.IsBound bound → bound.IsRegular

theorem map_settle_eq_iff {bound? : Option Instant} :
    bound?.map Instant.settle = bound? ↔ ∀ bound, bound? = some bound → bound.IsRegular := by
  cases bound? with
  | none => simp
  | some bound => simp [Instant.settle_eq_iff]

theorem isRestorable_iff : validity.IsRestorable ↔ validity.reread = validity := by
  obtain ⟨start?, finish?⟩ := validity
  rw [reread, mk.injEq, map_settle_eq_iff, map_settle_eq_iff]
  constructor
  · exact fun restorable => ⟨fun first same => restorable first (.inl same),
      fun last same => restorable last (.inr same)⟩
  · rintro ⟨start_regular, finish_regular⟩ bound (starts | ends)
    · exact start_regular bound starts
    · exact finish_regular bound ends

theorem between_reread (validity : ValidityPeriod) :
    between validity.reread.start? validity.reread.finish? =
      validity.refusal?.elim (.ok validity.reread) .error := by
  obtain ⟨start?, finish?⟩ := validity
  cases start? with
  | none => rfl
  | some first =>
    cases finish? with
    | none => rfl
    | some last =>
      simp only [between, refusal?, reread, Option.map_some]
      split <;> rfl

theorem instantOf?_map_write {bound? : Option Instant}
    (years : ∀ bound, bound? = some bound → bound.HasFourDigitYear) :
    instantOf? (bound?.map Timestamp.write) = .ok (bound?.map Instant.settle) := by
  cases bound? with
  | none => rfl
  | some bound =>
    rw [instantOf?_eq_ok_iff, Option.map_some, Option.map_some, Option.map_some,
      Timestamp.read?_write (years bound rfl), Option.map_some]

theorem ofRecord_toRecord (years : validity.HasFourDigitYears) :
    ofRecord validity.toRecord = validity.refusal?.elim (.ok validity.reread) .error := by
  rw [← between_reread]
  cases record_eq : validity.toRecord with
  | none =>
    rw [toRecord_eq_none_iff.mp record_eq]
    rfl
  | some record =>
    rw [record_eq_of_toRecord record_eq, ofRecord, ofTimestamps, instantOf?_map_write years.start,
      instantOf?_map_write years.finish]
    rfl

/-- A period that can be made and is read back as it is is not refused. -/
theorem IsMade.refusal?_eq_none (made : validity.IsMade) (restorable : validity.IsRestorable) :
    validity.refusal? = none := by
  obtain ⟨start?, finish?, between_ok⟩ := made.between
  obtain ⟨rfl, -⟩ := between_eq_ok_iff.mp between_ok
  have outcome_eq := between_reread ⟨start?, finish?⟩
  rw [isRestorable_iff.mp restorable, between_ok] at outcome_eq
  cases refused : refusal? ⟨start?, finish?⟩ with
  | none => rfl
  | some fault =>
    rw [refused] at outcome_eq
    cases outcome_eq

end ValidityPeriod

/-- An authority that is made from a chain and a period. -/
inductive Authority.IsMade : Authority → Prop
  | new {ders : List Bytes} {chain : CertificateChain} {validity : ValidityPeriod}
    (chain_made : CertificateChain.ofDers ders = .ok chain) (validity_made : validity.IsMade) :
    IsMade { chain, validity }

/-- An authority as it is read back. -/
def Authority.reread (authority : Authority) : Authority :=
  { authority with validity := authority.validity.reread }

/-- A certificate authority as it is read back. -/
def CertificateAuthority.reread (authority : CertificateAuthority) : CertificateAuthority :=
  ⟨authority.toAuthority.reread⟩

/-- A timestamping authority as it is read back. -/
def TimestampingAuthority.reread (authority : TimestampingAuthority) : TimestampingAuthority :=
  ⟨authority.toAuthority.reread⟩

theorem Authority.IsMade.validity {authority : Authority} (made : authority.IsMade) :
    authority.validity.IsMade := by
  cases made with
  | new _ validity_made => exact validity_made

theorem Authority.ofRecord_toRecord {authority : Authority} (made : authority.IsMade) :
    ofRecord authority.toRecord =
      authority.validity.refusal?.elim (.ok authority.reread) .error := by
  cases made with
  | @new _ chain validity _ validity_made =>
    have chain_ok : CertificateChain.ofDers chain.ders = .ok chain :=
      CertificateChain.ofDers_eq_ok_iff.mpr rfl
    rw [ofRecord, toRecord, chain_ok]
    dsimp only [Bind.bind, Except.bind]
    rw [ValidityPeriod.ofRecord_toRecord validity_made.years]
    exact Outcome.elim_bind ..

theorem Authority.reread_eq_iff {authority : Authority} :
    authority.reread = authority ↔ authority.validity.IsRestorable := by
  obtain ⟨chain, validity, uri?, subject?⟩ := authority
  simp [ValidityPeriod.isRestorable_iff, reread]

theorem CertificateAuthority.reread_eq_iff {authority : CertificateAuthority} :
    authority.reread = authority ↔ authority.validity.IsRestorable := by
  cases authority with
  | mk authority => rw [reread, mk.injEq, Authority.reread_eq_iff]

theorem TimestampingAuthority.reread_eq_iff {authority : TimestampingAuthority} :
    authority.reread = authority ↔ authority.validity.IsRestorable := by
  cases authority with
  | mk authority => rw [reread, mk.injEq, Authority.reread_eq_iff]

namespace KeyDetails

theorem mem_recognized_or_eq_other (details : KeyDetails) :
    details ∈ recognized ∨ ∃ name, details = other name := by
  cases details with
  | rsa padding size => cases padding <;> cases size <;> exact .inl (by decide)
  | ecdsa curve => cases curve <;> exact .inl (by decide)
  | ed25519 => exact .inl (by decide)
  | ed25519Prehashed => exact .inl (by decide)
  | other name => exact .inr ⟨name, rfl⟩

/-- An algorithm is read back from its name unless it is a recognized name that stands as an
unknown one. -/
theorem ofName_name_eq_iff {details : KeyDetails} :
    ofName details.name = details ↔ ∀ known ∈ recognized, details ≠ other known.name := by
  rcases details.mem_recognized_or_eq_other with listed | ⟨name, rfl⟩
  · have named : ∀ known ∈ recognized, ofName known.name = known := by decide
    have not_other : ∀ known ∈ recognized, ∀ name, known ≠ other name := by simp [recognized]
    exact iff_of_true (named details listed) fun known _ => not_other details listed known.name
  · by_cases recognizable : name ∈ recognized.map KeyDetails.name
    · obtain ⟨known, known_listed, rfl⟩ := List.mem_map.mp recognizable
      exact iff_of_false (fun same => ofName_eq_other_iff.mp ⟨_, same⟩ recognizable)
        fun unknown => unknown known known_listed rfl
    · obtain ⟨kept, kept_eq⟩ := ofName_eq_other_iff.mpr recognizable
      have kept_name : kept = name :=
        (congrArg KeyDetails.name kept_eq).symm.trans (name_ofName name)
      refine iff_of_true (kept_eq.trans (congrArg other kept_name))
        fun known known_listed same => ?_
      cases same
      exact recognizable (List.mem_map_of_mem known_listed)

end KeyDetails

namespace TransparencyLog

/-- A log that is made from a key and a period, with its address and hash function set or not. -/
inductive IsMade : TransparencyLog → Prop
  | new (publicKey : Bytes) (keyDetails : KeyDetails) {validity : ValidityPeriod}
    (validity_made : validity.IsMade) : IsMade { publicKey, keyDetails, validity }
  | withBaseUrl {log : TransparencyLog} (made : IsMade log) (url : String) :
    IsMade (log.set (.baseUrl (some url)))
  | withHashAlgorithm {log : TransparencyLog} (made : IsMade log) (algorithm : HashAlgorithm) :
    IsMade (log.set (.hashAlgorithm algorithm))

theorem IsMade.validity {log : TransparencyLog} (made : log.IsMade) : log.validity.IsMade := by
  induction made with
  | new _ _ validity_made => exact validity_made
  | withBaseUrl _ _ ih => exact ih
  | withHashAlgorithm _ _ ih => exact ih

/-- A log as it is read back. -/
def reread (log : TransparencyLog) : TransparencyLog :=
  { log with
    keyDetails := KeyDetails.ofName log.keyDetails.name
    validity := log.validity.reread
    baseUrl? := log.baseUrl?.bind unlessEmpty? }

/-- Why a log is not read back. -/
def refusal? (log : TransparencyLog) : Option TrustError :=
  if log.publicKey = [] then some (.malformed .keylessLog) else log.validity.refusal?

/-- A log that is read back as it is. -/
structure IsRestorable (log : TransparencyLog) : Prop where
  /-- There is a key. -/
  publicKey : log.publicKey ≠ []
  /-- The address is not empty. -/
  baseUrl : log.baseUrl? ≠ some ""
  /-- No recognized name stands as an unknown one. -/
  keyDetails : ∀ known ∈ KeyDetails.recognized, log.keyDetails ≠ .other known.name
  /-- The period is read back as it is. -/
  validity : log.validity.IsRestorable

theorem bind_unlessEmpty?_eq_iff {text? : Option String} :
    text?.bind unlessEmpty? = text? ↔ text? ≠ some "" := by
  cases text? with
  | none => simp
  | some text => by_cases empty : text = "" <;> simp [unlessEmpty?, empty]

theorem isRestorable_iff {log : TransparencyLog} :
    log.IsRestorable ↔ log.publicKey ≠ [] ∧ log.reread = log := by
  have reread_eq_iff : log.reread = log ↔
      KeyDetails.ofName log.keyDetails.name = log.keyDetails ∧
        log.validity.reread = log.validity ∧ log.baseUrl?.bind unlessEmpty? = log.baseUrl? := by
    obtain ⟨publicKey, keyDetails, validity, baseUrl?, hashName?, declaredId?, _⟩ := log
    simp [reread]
  rw [reread_eq_iff, KeyDetails.ofName_name_eq_iff, ← ValidityPeriod.isRestorable_iff,
    bind_unlessEmpty?_eq_iff]
  constructor
  · rintro ⟨publicKey, baseUrl, keyDetails, validity⟩
    exact ⟨publicKey, keyDetails, validity, baseUrl⟩
  · rintro ⟨publicKey, keyDetails, validity, baseUrl⟩
    exact ⟨publicKey, baseUrl, keyDetails, validity⟩

theorem publicKey_ne_nil_of_refusal?_eq_none {log : TransparencyLog}
    (readable : log.refusal? = none) : log.publicKey ≠ [] := by
  intro keyless
  rw [refusal?, if_pos keyless] at readable
  cases readable

theorem IsMade.refusal?_eq_none {log : TransparencyLog} (made : log.IsMade)
    (restorable : log.IsRestorable) : log.refusal? = none := by
  rw [refusal?, if_neg restorable.publicKey]
  exact made.validity.refusal?_eq_none restorable.validity

theorem ofParts_toRecord (log : TransparencyLog) (validity : ValidityPeriod) :
    ofParts log.toRecord log.publicKey validity = { log.reread with validity } := by
  have baseUrl : unlessEmpty? (log.baseUrl?.getD "") = log.baseUrl?.bind unlessEmpty? := by
    cases log.baseUrl? <;> rfl
  simp only [ofParts, toRecord, reread, mk.injEq]
  exact ⟨trivial, trivial, trivial, baseUrl, trivial, log.filter_declaredId⟩

theorem ofRecord_toRecord {log : TransparencyLog} (made : log.IsMade) :
    ofRecord log.toRecord = log.refusal?.elim (.ok log.reread) .error := by
  rw [refusal?]
  split
  · rename_i keyless
    rw [ofRecord, toRecord, keyless]
    rfl
  · rename_i keyed
    have key_found : log.toRecord.key.publicKey?.filter (fun publicKey => !publicKey.isEmpty) =
        some log.publicKey := by
      simp [toRecord, keyed]
    have period_read : ValidityPeriod.ofRecord log.toRecord.key.period? =
        log.validity.refusal?.elim (.ok log.validity.reread) .error :=
      ValidityPeriod.ofRecord_toRecord made.validity.years
    rw [ofRecord, key_found]
    dsimp only
    rw [period_read, Outcome.map_elim, Except.map, ofParts_toRecord]
    rfl

end TransparencyLog

section Parts

variable {mediaType : String} {certificateAuthorities : List CertificateAuthority}
  {ctLogs : List TransparencyLog} {timestampingAuthorities : List TimestampingAuthority}
  {logs : List TransparencyLog} {anchors : TrustAnchors}

namespace TrustAnchors

/-- Why what is written for parts is not read back: the first entry that is not. -/
def refusal? (certificateAuthorities : List CertificateAuthority) (ctLogs : List TransparencyLog)
    (timestampingAuthorities : List TimestampingAuthority) (logs : List TransparencyLog) :
    Option TrustError :=
  (certificateAuthorities.findSome? fun authority => authority.validity.refusal?).or
    ((ctLogs.findSome? TransparencyLog.refusal?).or
      ((timestampingAuthorities.findSome? fun authority => authority.validity.refusal?).or
        (logs.findSome? TransparencyLog.refusal?)))

/-- The parts that are read back. -/
def ofReread (mediaType : String) (certificateAuthorities : List CertificateAuthority)
    (ctLogs : List TransparencyLog) (timestampingAuthorities : List TimestampingAuthority)
    (logs : List TransparencyLog) : Except TrustError TrustAnchors :=
  ofParts mediaType (certificateAuthorities.map CertificateAuthority.reread)
    (ctLogs.map TransparencyLog.reread) (timestampingAuthorities.map TimestampingAuthority.reread)
    (logs.map TransparencyLog.reread)

private theorem mapM_ofRecord_authorities {α : Type} {authority : α → Authority} {entries : List α}
    (made : ∀ entry ∈ entries, (authority entry).IsMade) :
    (entries.map fun entry => (authority entry).toRecord).mapM Authority.ofRecord =
      (entries.findSome? fun entry => (authority entry).validity.refusal?).elim
        (.ok (entries.map fun entry => (authority entry).reread)) .error := by
  rw [List.mapM_map]
  exact Outcome.mapM_eq_elim fun entry listed => Authority.ofRecord_toRecord (made entry listed)

private theorem mapM_ofRecord_logs {entries : List TransparencyLog}
    (made : ∀ log ∈ entries, log.IsMade) :
    (entries.map TransparencyLog.toRecord).mapM TransparencyLog.ofRecord =
      (entries.findSome? TransparencyLog.refusal?).elim
        (.ok (entries.map TransparencyLog.reread)) .error := by
  rw [List.mapM_map]
  exact Outcome.mapM_eq_elim fun log listed => TransparencyLog.ofRecord_toRecord (made log listed)

/-- What is written for parts is refused for the first entry that is; otherwise it gives the parts
as they are read back. -/
theorem ofRecord_toRecord
    (made : ofParts mediaType certificateAuthorities ctLogs timestampingAuthorities logs =
      .ok anchors)
    (authorities_made : ∀ authority ∈ certificateAuthorities, authority.IsMade)
    (stampers_made : ∀ authority ∈ timestampingAuthorities, authority.IsMade)
    (logs_made : ∀ log ∈ ctLogs ++ logs, log.IsMade) :
    ofRecord anchors.toRecord =
      (refusal? certificateAuthorities ctLogs timestampingAuthorities logs).elim
        (ofReread mediaType certificateAuthorities ctLogs timestampingAuthorities logs) .error := by
  obtain ⟨rfl, rfl, rfl, rfl, rfl⟩ := ofParts_eq_ok_iff.mp made
  have version_ok : RootVersion.ofMediaType anchors.version.mediaType = .ok anchors.version :=
    RootVersion.ofMediaType_eq_ok_iff.mpr rfl
  rw [List.forall_mem_append] at logs_made
  rw [ofRecord, toRecord, version_ok]
  simp only [mapM_ofRecord_authorities authorities_made, mapM_ofRecord_logs logs_made.1,
    mapM_ofRecord_authorities stampers_made, mapM_ofRecord_logs logs_made.2, Outcome.elim_bind,
    refusal?, Outcome.elim_or, List.map_map]
  rfl

/-- Entries are known by their keys and chains, so reading them back repeats no identifier. -/
theorem exists_ofReread
    (made : ofParts mediaType certificateAuthorities ctLogs timestampingAuthorities logs =
      .ok anchors) :
    ∃ again, ofReread mediaType certificateAuthorities ctLogs timestampingAuthorities logs =
      .ok again := by
  have same_ids : idLists (certificateAuthorities.map CertificateAuthority.reread)
      (ctLogs.map TransparencyLog.reread)
      (timestampingAuthorities.map TimestampingAuthority.reread)
      (logs.map TransparencyLog.reread) =
        idLists certificateAuthorities ctLogs timestampingAuthorities logs := by
    simp only [idLists, List.map_map]
    rfl
  rw [ofReread, exists_ofParts_eq_ok_iff, same_ids, ← exists_ofParts_eq_ok_iff]
  exact ⟨anchors, made⟩

/-- Parts that are read back as they are. -/
structure AreRestorable (certificateAuthorities : List CertificateAuthority)
    (ctLogs : List TransparencyLog) (timestampingAuthorities : List TimestampingAuthority)
    (logs : List TransparencyLog) : Prop where
  certificateAuthorities : ∀ authority ∈ certificateAuthorities, authority.validity.IsRestorable
  ctLogs : ∀ log ∈ ctLogs, log.IsRestorable
  timestampingAuthorities : ∀ authority ∈ timestampingAuthorities, authority.validity.IsRestorable
  logs : ∀ log ∈ logs, log.IsRestorable

theorem refusal?_eq_none_iff :
    refusal? certificateAuthorities ctLogs timestampingAuthorities logs = none ↔
      (∀ authority ∈ certificateAuthorities, authority.validity.refusal? = none) ∧
        (∀ log ∈ ctLogs, log.refusal? = none) ∧
        (∀ authority ∈ timestampingAuthorities, authority.validity.refusal? = none) ∧
        ∀ log ∈ logs, log.refusal? = none := by
  simp only [refusal?, Option.or_eq_none_iff, List.findSome?_eq_none_iff]

theorem AreRestorable.refusal?_eq_none
    (restorable : AreRestorable certificateAuthorities ctLogs timestampingAuthorities logs)
    (authorities_made : ∀ authority ∈ certificateAuthorities, authority.IsMade)
    (stampers_made : ∀ authority ∈ timestampingAuthorities, authority.IsMade)
    (logs_made : ∀ log ∈ ctLogs ++ logs, log.IsMade) :
    refusal? certificateAuthorities ctLogs timestampingAuthorities logs = none := by
  rw [List.forall_mem_append] at logs_made
  refine refusal?_eq_none_iff.mpr ⟨?authorities, ?ctLogs, ?stampers, ?logs⟩
  case authorities =>
    exact fun authority listed => (authorities_made authority listed).validity.refusal?_eq_none
      (restorable.certificateAuthorities authority listed)
  case ctLogs =>
    exact fun log listed =>
      (logs_made.1 log listed).refusal?_eq_none (restorable.ctLogs log listed)
  case stampers =>
    exact fun authority listed => (stampers_made authority listed).validity.refusal?_eq_none
      (restorable.timestampingAuthorities authority listed)
  case logs =>
    exact fun log listed => (logs_made.2 log listed).refusal?_eq_none (restorable.logs log listed)

private theorem map_eq_self_iff {α : Type} {change : α → α} {entries : List α} :
    entries.map change = entries ↔ ∀ entry ∈ entries, change entry = entry := by
  simpa using List.map_inj_left (f := change) (g := id) (l := entries)

theorem areRestorable_iff :
    AreRestorable certificateAuthorities ctLogs timestampingAuthorities logs ↔
      (∀ log ∈ ctLogs ++ logs, log.publicKey ≠ []) ∧
        certificateAuthorities.map CertificateAuthority.reread = certificateAuthorities ∧
        ctLogs.map TransparencyLog.reread = ctLogs ∧
        timestampingAuthorities.map TimestampingAuthority.reread = timestampingAuthorities ∧
        logs.map TransparencyLog.reread = logs := by
  simp only [map_eq_self_iff, CertificateAuthority.reread_eq_iff,
    TimestampingAuthority.reread_eq_iff, List.forall_mem_append]
  constructor
  · rintro ⟨authorities, ctLogs_restorable, stampers, logs_restorable⟩
    have parts {entries : List TransparencyLog} (restorable : ∀ log ∈ entries, log.IsRestorable) :
        (∀ log ∈ entries, log.publicKey ≠ []) ∧ ∀ log ∈ entries, log.reread = log :=
      ⟨fun log listed => (TransparencyLog.isRestorable_iff.mp (restorable log listed)).1,
        fun log listed => (TransparencyLog.isRestorable_iff.mp (restorable log listed)).2⟩
    exact ⟨⟨(parts ctLogs_restorable).1, (parts logs_restorable).1⟩, authorities,
      (parts ctLogs_restorable).2, stampers, (parts logs_restorable).2⟩
  · rintro ⟨⟨ctLogs_keyed, logs_keyed⟩, authorities, ctLogs_same, stampers, logs_same⟩
    exact ⟨authorities,
      fun log listed => TransparencyLog.isRestorable_iff.mpr
        ⟨ctLogs_keyed log listed, ctLogs_same log listed⟩,
      stampers,
      fun log listed => TransparencyLog.isRestorable_iff.mpr
        ⟨logs_keyed log listed, logs_same log listed⟩⟩

/-- The parts that are read back are the same again when every entry is. -/
theorem eq_of_ofReread_iff {again : TrustAnchors}
    (made : ofParts mediaType certificateAuthorities ctLogs timestampingAuthorities logs =
      .ok anchors)
    (readable : refusal? certificateAuthorities ctLogs timestampingAuthorities logs = none)
    (again_made : ofReread mediaType certificateAuthorities ctLogs timestampingAuthorities logs =
      .ok again) :
    again = anchors ↔
      AreRestorable certificateAuthorities ctLogs timestampingAuthorities logs := by
  have keyed : ∀ log ∈ ctLogs ++ logs, log.publicKey ≠ [] := by
    obtain ⟨-, ctLogs_readable, -, logs_readable⟩ := refusal?_eq_none_iff.mp readable
    rw [List.forall_mem_append]
    exact ⟨fun log listed => TransparencyLog.publicKey_ne_nil_of_refusal?_eq_none
        (ctLogs_readable log listed),
      fun log listed => TransparencyLog.publicKey_ne_nil_of_refusal?_eq_none
        (logs_readable log listed)⟩
  rw [areRestorable_iff, and_iff_right keyed]
  constructor
  · rintro rfl
    obtain ⟨-, authorities_eq, ctLogs_eq, stampers_eq, logs_eq⟩ := ofParts_eq_ok_iff.mp made
    obtain ⟨-, authorities_again, ctLogs_again, stampers_again, logs_again⟩ :=
      ofParts_eq_ok_iff.mp again_made
    exact ⟨authorities_again.symm.trans authorities_eq, ctLogs_again.symm.trans ctLogs_eq,
      stampers_again.symm.trans stampers_eq, logs_again.symm.trans logs_eq⟩
  · rintro ⟨authorities_eq, ctLogs_eq, stampers_eq, logs_eq⟩
    rw [ofReread, authorities_eq, ctLogs_eq, stampers_eq, logs_eq, made] at again_made
    exact (Except.ok.inj again_made).symm

end TrustAnchors

namespace TrustRoot

/-- A trust root without a document is read back as what is written for its anchors gives. -/
theorem ofJson_toJson_ofAnchors (anchors : TrustAnchors) :
    ofJson (ofAnchors anchors).toJson =
      (TrustAnchors.ofRecord anchors.toRecord).map fun again =>
        ⟨again, some (ofAnchors anchors).anchorValue⟩ := by
  have formed := (ofAnchors anchors).isWellFormed_anchorValue Number.IsRestored
  have decoded : RootRecord.decoder (ofAnchors anchors).anchorValue.toDocument =
      .ok anchors.toRecord :=
    RootRecord.respects isCorrespondence_ofDocument rfl
      (RootRecord.recovers.decode_eq anchors.toRecord)
  exact ofJson_eq_map (valueOfText_written formed).1 decoded

section Reload

variable
  (made : TrustAnchors.ofParts mediaType certificateAuthorities ctLogs timestampingAuthorities
    logs = .ok anchors)
  (authorities_made : ∀ authority ∈ certificateAuthorities, authority.IsMade)
  (stampers_made : ∀ authority ∈ timestampingAuthorities, authority.IsMade)
  (logs_made : ∀ log ∈ ctLogs ++ logs, log.IsMade)

include made authorities_made stampers_made logs_made

/-- What is read back of trust anchors that are made from parts. -/
theorem ofJson_toJson_ofParts :
    ofJson (ofAnchors anchors).toJson =
      (TrustAnchors.refusal? certificateAuthorities ctLogs timestampingAuthorities logs).elim
        ((TrustAnchors.ofReread mediaType certificateAuthorities ctLogs timestampingAuthorities
          logs).map fun again => ⟨again, some (ofAnchors anchors).anchorValue⟩) .error := by
  rw [ofJson_toJson_ofAnchors,
    TrustAnchors.ofRecord_toRecord made authorities_made stampers_made logs_made, Outcome.map_elim]

theorem ofJson_toJson_eq_error_iff {error : TrustError} :
    ofJson (ofAnchors anchors).toJson = .error error ↔
      TrustAnchors.refusal? certificateAuthorities ctLogs timestampingAuthorities logs =
        some error := by
  obtain ⟨again, again_made⟩ := TrustAnchors.exists_ofReread made
  rw [ofJson_toJson_ofParts made authorities_made stampers_made logs_made, again_made]
  cases TrustAnchors.refusal? certificateAuthorities ctLogs timestampingAuthorities logs <;>
    simp [Except.map]

theorem exists_reread
    (readable : TrustAnchors.refusal? certificateAuthorities ctLogs timestampingAuthorities logs =
      none) :
    ∃ again, ofJson (ofAnchors anchors).toJson = .ok again ∧
      TrustAnchors.ofReread mediaType certificateAuthorities ctLogs timestampingAuthorities logs =
        .ok again.toTrustAnchors := by
  obtain ⟨again, again_made⟩ := TrustAnchors.exists_ofReread made
  rw [ofJson_toJson_ofParts made authorities_made stampers_made logs_made, readable, again_made]
  exact ⟨_, rfl, rfl⟩

theorem exists_agrees_iff :
    (∃ again, ofJson (ofAnchors anchors).toJson = .ok again ∧
        again.agrees (ofAnchors anchors) = true) ↔
      TrustAnchors.AreRestorable certificateAuthorities ctLogs timestampingAuthorities logs := by
  constructor
  · rintro ⟨root, read, same⟩
    have readable : TrustAnchors.refusal? certificateAuthorities ctLogs timestampingAuthorities
        logs = none := by
      refine Option.eq_none_iff_forall_ne_some.mpr fun error refused => ?_
      rw [(ofJson_toJson_eq_error_iff made authorities_made stampers_made logs_made).mpr refused]
        at read
      cases read
    obtain ⟨again, again_read, again_made⟩ :=
      exists_reread made authorities_made stampers_made logs_made readable
    cases read.symm.trans again_read
    exact (TrustAnchors.eq_of_ofReread_iff made readable again_made).mp (of_decide_eq_true same)
  · intro restorable
    have readable := restorable.refusal?_eq_none authorities_made stampers_made logs_made
    obtain ⟨again, again_read, again_made⟩ :=
      exists_reread made authorities_made stampers_made logs_made readable
    have same := (TrustAnchors.eq_of_ofReread_iff made readable again_made).mpr restorable
    exact ⟨again, again_read, decide_eq_true same⟩

/-- A trust root that is made from parts is written as a text that is refused for the first entry
that is not read back, and for nothing else.  If all entries are read back, the text gives a trust
root of the same parts, but for the addresses and the algorithms of logs and for ends of periods in
leap seconds that clocks do not show; the trust roots agree exactly when there are none of those. -/
theorem reload :
    (∀ error, ofJson (ofAnchors anchors).toJson = .error error ↔
      TrustAnchors.refusal? certificateAuthorities ctLogs timestampingAuthorities logs =
        some error) ∧
    (TrustAnchors.refusal? certificateAuthorities ctLogs timestampingAuthorities logs = none →
      ∃ again, ofJson (ofAnchors anchors).toJson = .ok again ∧
        TrustAnchors.ofReread mediaType certificateAuthorities ctLogs timestampingAuthorities
          logs = .ok again.toTrustAnchors) ∧
    ((∃ again, ofJson (ofAnchors anchors).toJson = .ok again ∧
        again.agrees (ofAnchors anchors) = true) ↔
      TrustAnchors.AreRestorable certificateAuthorities ctLogs timestampingAuthorities logs) :=
  ⟨fun _ => ofJson_toJson_eq_error_iff made authorities_made stampers_made logs_made,
    exists_reread made authorities_made stampers_made logs_made,
    exists_agrees_iff made authorities_made stampers_made logs_made⟩

end Reload
end TrustRoot
end Parts

namespace TrustRoot

section Sample

/-- The certificate of an owner without a name. -/
private def namelessDer : Bytes :=
  let time := [0x17, 13] ++ "700101000000Z".toUTF8.toList
  let algorithm := [0x30, 5, 6, 3, 0x2B, 0x65, 0x70]
  [0x30, 70, 0x30, 58, 2, 1, 1] ++ algorithm ++ [0x30, 0, 0x30, 30] ++ time ++ time ++
    [0x30, 0, 0x30, 10] ++ algorithm ++ [3, 1, 0] ++ algorithm ++ [3, 1, 0]

private theorem exists_ofDers_nameless :
    ∃ chain, CertificateChain.ofDers [namelessDer] = .ok chain := by
  have decoded : ∃ certificate, Certificate.ofDer namelessDer = .ok certificate :=
    ⟨⟨[1], ⟨[]⟩, ⟨[]⟩, ⟨⟨⟨[0x2B, 0x65, 0x70]⟩, none⟩, ⟨0, []⟩⟩⟩, by decide +kernel⟩
  obtain ⟨certificate, decodes⟩ := decoded
  exact CertificateChain.exists_ofDers_iff.mpr
    ⟨by simp, [certificate], .cons decodes .nil, .singleton _⟩

private theorem isMade_sampleStart : ValidityPeriod.IsMade ⟨some sampleStart, none⟩ := by
  refine ⟨⟨some sampleStart, none, rfl⟩, fun first same => ?_, nofun⟩
  cases same
  exact ⟨by decide +kernel, by decide +kernel⟩

private def placedLog : TransparencyLog :=
  ({ publicKey := [1], keyDetails := .ed25519, validity := ⟨some sampleStart, none⟩ } :
    TransparencyLog).set (.baseUrl (some "https://log.example"))

/-- A trust root of an authority and a log with an address. -/
theorem reload_sample :
    ∃ (authority : CertificateAuthority) (anchors : TrustAnchors), authority.IsMade ∧
      placedLog.IsMade ∧
      TrustAnchors.ofParts RootVersion.v0_2.mediaType [authority] [] [] [placedLog] =
        .ok anchors ∧
      ∃ again, ofJson (ofAnchors anchors).toJson = .ok again ∧
        again.agrees (ofAnchors anchors) = true := by
  obtain ⟨chain, chain_made⟩ := exists_ofDers_nameless
  have authority_made := Authority.IsMade.new chain_made isMade_sampleStart
  have log_made : placedLog.IsMade :=
    .withBaseUrl (.new [1] .ed25519 isMade_sampleStart) "https://log.example"
  have regular : ValidityPeriod.IsRestorable ⟨some sampleStart, none⟩ := by
    rintro bound (starts | ends)
    · cases starts
      decide
    · cases ends
  have log_restorable : placedLog.IsRestorable := ⟨by decide, by decide, by decide, regular⟩
  have restorable : TrustAnchors.AreRestorable
      [({ chain, validity := ⟨some sampleStart, none⟩ } : CertificateAuthority)] [] []
      [placedLog] :=
    ⟨List.forall_mem_singleton.mpr regular, List.forall_mem_nil _, List.forall_mem_nil _,
      List.forall_mem_singleton.mpr log_restorable⟩
  let authority : CertificateAuthority := { chain, validity := ⟨some sampleStart, none⟩ }
  obtain ⟨anchors, made⟩ : ∃ anchors, TrustAnchors.ofParts RootVersion.v0_2.mediaType [authority]
      [] [] [placedLog] = .ok anchors :=
    TrustAnchors.exists_ofParts_eq_ok_iff.mpr ⟨⟨.v0_2, rfl⟩, by simp [TrustAnchors.idLists]⟩
  have reloaded := reload made (List.forall_mem_singleton.mpr authority_made)
    (List.forall_mem_nil _) (List.forall_mem_singleton.mpr log_made)
  exact ⟨_, anchors, authority_made, log_made, made, reloaded.2.2.mpr restorable⟩

/-- A log that can be made and is lost when a trust root of it is written and read. -/
private def IsLost (log : TransparencyLog) : Prop :=
  log.IsMade ∧
    ∃ anchors, TrustAnchors.ofParts RootVersion.v0_2.mediaType [] [] [] [log] = .ok anchors ∧
      ¬∃ again, ofJson (ofAnchors anchors).toJson = .ok again ∧
        again.agrees (ofAnchors anchors) = true

private theorem isLost {log : TransparencyLog} (made : log.IsMade)
    (not_restorable : ¬log.IsRestorable) : IsLost log := by
  obtain ⟨anchors, anchors_made⟩ : ∃ anchors, TrustAnchors.ofParts RootVersion.v0_2.mediaType [] []
      [] [log] = .ok anchors :=
    TrustAnchors.exists_ofParts_eq_ok_iff.mpr ⟨⟨.v0_2, rfl⟩, by simp [TrustAnchors.idLists]⟩
  refine ⟨made, anchors, anchors_made, fun reloaded => not_restorable ?_⟩
  have restorable := (exists_agrees_iff anchors_made (List.forall_mem_nil _) (List.forall_mem_nil _)
    (List.forall_mem_singleton.mpr made)).mp reloaded
  exact restorable.logs log List.mem_cons_self

private def keylessLog : TransparencyLog :=
  { publicKey := [], keyDetails := .ed25519, validity := {} }

private def placelessLog : TransparencyLog :=
  ({ publicKey := [1], keyDetails := .ed25519, validity := {} } : TransparencyLog).set
    (.baseUrl (some ""))

private def misnamedLog : TransparencyLog :=
  { publicKey := [1], keyDetails := .other "PKIX_ED25519", validity := {} }

/-- The leap second that follows the fourth second of a minute, when a third of it is gone. -/
private def unshown : Instant :=
  ⟨4, 1333333333, by decide⟩

private def unshownLog : TransparencyLog :=
  { publicKey := [1], keyDetails := .ed25519, validity := ⟨some unshown, none⟩ }

/-- A quarter into the next second, which clocks show before that third of the leap second. -/
private def overtaken : Instant :=
  ⟨5, 250000000, by decide⟩

private def reversedLog : TransparencyLog :=
  { publicKey := [1], keyDetails := .ed25519, validity := ⟨some unshown, some overtaken⟩ }

/-- Not every trust root that can be made is read back: a key or an address may be empty, a
recognized name may stand as an unknown one, and a bound may lie in a leap second that clocks do not
show. -/
theorem reload_loses :
    IsLost keylessLog ∧ IsLost placelessLog ∧ IsLost misnamedLog ∧ IsLost unshownLog ∧
      IsLost reversedLog := by
  have unlimited : ValidityPeriod.IsMade {} := ⟨⟨none, none, rfl⟩, ⟨nofun, nofun⟩⟩
  have keyless_made : keylessLog.IsMade := .new [] .ed25519 unlimited
  have placeless_made : placelessLog.IsMade := .withBaseUrl (.new [1] .ed25519 unlimited) ""
  have misnamed_made : misnamedLog.IsMade := .new [1] (.other "PKIX_ED25519") unlimited
  have unshown_year : unshown.HasFourDigitYear := ⟨by decide +kernel, by decide +kernel⟩
  have overtaken_year : overtaken.HasFourDigitYear := ⟨by decide +kernel, by decide +kernel⟩
  have irregular : ¬unshown.IsRegular := by decide
  have unshown_made : unshownLog.IsMade := by
    refine .new [1] .ed25519 ⟨⟨some unshown, none, rfl⟩, ⟨fun first same => ?_, nofun⟩⟩
    exact Option.some.inj same ▸ unshown_year
  have reversed_made : reversedLog.IsMade := by
    refine .new [1] .ed25519 ⟨⟨some unshown, some overtaken, by decide⟩,
      ⟨fun first same => ?_, fun last same => ?_⟩⟩
    · exact Option.some.inj same ▸ unshown_year
    · exact Option.some.inj same ▸ overtaken_year
  refine ⟨isLost keyless_made ?keyless, isLost placeless_made ?placeless,
    isLost misnamed_made ?misnamed, isLost unshown_made ?unshown, isLost reversed_made ?reversed⟩
  case keyless => exact fun restorable => restorable.publicKey rfl
  case placeless => exact fun restorable => restorable.baseUrl rfl
  case misnamed => exact fun restorable => restorable.keyDetails .ed25519 (by decide) rfl
  case unshown => exact fun restorable => irregular (restorable.validity _ (.inl rfl))
  case reversed => exact fun restorable => irregular (restorable.validity _ (.inl rfl))

end Sample
end TrustRoot
end Countersign
