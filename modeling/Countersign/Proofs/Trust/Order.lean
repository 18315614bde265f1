import Mathlib.Data.List.Perm.Basic
import Countersign.Proofs.Json.Reordering
import Countersign.Proofs.Trust.Resolution
import Countersign.Proofs.Trust.RoundTrip

/-!
# Order does not matter

Documents of trust roots that list the same entries and give the same members are accepted alike,
in whatever order they do so, and what they describe answers alike.
-/

namespace Countersign

open Json Json.Value

namespace RootRecord

/-- The names of the members that list entries. -/
def entryNames : List String :=
  ["tlogs", "certificateAuthorities", "ctlogs", "timestampAuthorities"]

/-- Documents of trust roots that differ in the order of the members of objects, at any depth, and
in the order of entries, whether these are given under their names or in their positions. -/
inductive Rearranged : Document → Document → Prop
  | reordered {first second : Document} (reordered : first.Reordered second) :
    Rearranged first second
  | named {name : String} (listed : name ∈ entryNames) (front : Members)
    {elements others : List Document} (back : Members) (perm : elements.Perm others) :
    Rearranged (.object (front ++ (name, .array elements) :: back))
      (.object (front ++ (name, .array others) :: back))
  | placed {name : String} (listed : name ∈ entryNames) {front : List Document}
    (place : memberNames[front.length]? = some name) {elements others : List Document}
    (back : List Document) (perm : elements.Perm others) :
    Rearranged (.array (front ++ .array elements :: back)) (.array (front ++ .array others :: back))
  | trans {first second third : Document} (there : Rearranged first second)
    (onward : Rearranged second third) : Rearranged first third

variable {first second : Document}

theorem Rearranged.symm (rearranged : Rearranged first second) : Rearranged second first := by
  induction rearranged with
  | reordered reordered => exact .reordered reordered.symm
  | named listed front back perm => exact .named listed front back perm.symm
  | placed listed place back perm => exact .placed listed place back perm.symm
  | trans _ _ there onward => exact onward.trans there

private theorem hasDistinctMembers_perm {elements others : List Document}
    (perm : elements.Perm others) (distinct : (Document.array elements).HasDistinctMembers) :
    (Document.array others).HasDistinctMembers :=
  .array fun element listed => distinct.of_array element (perm.mem_iff.mpr listed)

theorem Rearranged.hasDistinctMembers (rearranged : Rearranged first second)
    (distinct : first.HasDistinctMembers) : second.HasDistinctMembers := by
  induction rearranged with
  | reordered reordered => exact reordered.hasDistinctMembers distinct
  | named _ front back perm =>
    exact distinct.replace_member (hasDistinctMembers_perm perm)
  | placed _ _ back perm =>
    exact distinct.replace_element (hasDistinctMembers_perm perm)
  | trans _ _ there onward => exact onward (there distinct)

/-- Records of the same entries in any order. -/
structure Permuted (record other : RootRecord) : Prop where
  mediaType : record.mediaType = other.mediaType
  logs : record.logs.Perm other.logs
  certificateAuthorities : record.certificateAuthorities.Perm other.certificateAuthorities
  ctLogs : record.ctLogs.Perm other.ctLogs
  timestampingAuthorities : record.timestampingAuthorities.Perm other.timestampingAuthorities

variable {record other : RootRecord}

theorem Permuted.trans {third : RootRecord} (there : record.Permuted other)
    (onward : other.Permuted third) : record.Permuted third :=
  ⟨there.mediaType.trans onward.mediaType, there.logs.trans onward.logs,
    there.certificateAuthorities.trans onward.certificateAuthorities,
    there.ctLogs.trans onward.ctLogs,
    there.timestampingAuthorities.trans onward.timestampingAuthorities⟩

theorem Permuted.isValid (permuted : record.Permuted other) (valid : record.IsValid) :
    other.IsValid where
  mediaType := permuted.mediaType ▸ valid.mediaType
  authorities authority listed := valid.authorities authority
    ((permuted.certificateAuthorities.append permuted.timestampingAuthorities).mem_iff.mpr listed)
  logs log listed := valid.logs log ((permuted.ctLogs.append permuted.logs).mem_iff.mpr listed)
  certificateAuthorities_nodup :=
    (permuted.certificateAuthorities.map _).nodup_iff.mp valid.certificateAuthorities_nodup
  ctLogs_nodup := (permuted.ctLogs.map _).nodup_iff.mp valid.ctLogs_nodup
  timestampingAuthorities_nodup :=
    (permuted.timestampingAuthorities.map _).nodup_iff.mp valid.timestampingAuthorities_nodup
  logs_nodup := (permuted.logs.map _).nodup_iff.mp valid.logs_nodup

/-- Values of a member that are the same or, for a list of entries, list the same in any order. -/
inductive ListsSame (name : String) : Value → Value → Prop
  | refl (value : Value) : ListsSame name value value
  | perm (listed : name ∈ entryNames) {elements others : List Value}
    (perm : elements.Perm others) : ListsSame name (.array elements) (.array others)

theorem exists_list_of_listsSame {α : Type} {decode : Decoder α} {name : String}
    {value? other? : Option Value} {results : List α}
    (same : Option.Rel (ListsSame name) value? other?)
    (read : (Decoder.list decode).optionally (.ok []) value? = .ok results) :
    ∃ others, (Decoder.list decode).optionally (.ok []) other? = .ok others ∧
      results.Perm others := by
  cases same with
  | none => exact ⟨results, read, .refl results⟩
  | some same =>
    cases same with
    | refl value => exact ⟨results, read, .refl results⟩
    | perm _ perm =>
      rw [Decoder.optionally, Decoder.list_eq_ok_iff] at read
      obtain ⟨_, same, decoded⟩ := read
      cases same
      obtain ⟨others, decoded_others, others_perm⟩ := List.perm_comp_forall₂ perm.symm decoded
      refine ⟨others, ?_, others_perm.symm⟩
      rw [Decoder.optionally, Decoder.list_eq_ok_iff]
      exact ⟨_, rfl, decoded_others⟩

theorem eq_of_listsSame {name : String} {value? other? : Option Value}
    (same : Option.Rel (ListsSame name) value? other?) (unlisted : name ∉ entryNames) :
    value? = other? := by
  cases same with
  | none => rfl
  | some same =>
    cases same with
    | refl value => rfl
    | perm listed _ => exact absurd listed unlisted

/-- A record that is read from members is read in another order from members that list the same. -/
theorem IsReadFrom.exists_permuted {members others : List (String × Value)}
    (read : record.IsReadFrom members)
    (same : ∀ name, Option.Rel (ListsSame name) (lookup? name members) (lookup? name others)) :
    ∃ other : RootRecord, other.IsReadFrom others ∧ record.Permuted other := by
  obtain ⟨logs, logs_read, logs_perm⟩ := exists_list_of_listsSame (same _) read.logs
  obtain ⟨authorities, authorities_read, authorities_perm⟩ :=
    exists_list_of_listsSame (same _) read.certificateAuthorities
  obtain ⟨ctLogs, ctLogs_read, ctLogs_perm⟩ := exists_list_of_listsSame (same _) read.ctLogs
  obtain ⟨stampers, stampers_read, stampers_perm⟩ :=
    exists_list_of_listsSame (same _) read.timestampingAuthorities
  have mediaType_read := read.mediaType
  rw [eq_of_listsSame (same "mediaType") (by decide)] at mediaType_read
  exact ⟨⟨record.mediaType, logs, authorities, ctLogs, stampers⟩,
    ⟨mediaType_read, logs_read, authorities_read, ctLogs_read, stampers_read⟩,
    ⟨rfl, logs_perm, authorities_perm, ctLogs_perm, stampers_perm⟩⟩

/-- Members of the same names in the same places whose values list the same. -/
def MembersListSame : List (String × Value) → List (String × Value) → Prop :=
  List.Forall₂ fun first second => first.1 = second.1 ∧ ListsSame first.1 first.2 second.2

theorem MembersListSame.refl (members : List (String × Value)) : MembersListSame members members :=
  List.forall₂_same.mpr fun _ _ => ⟨rfl, .refl _⟩

theorem MembersListSame.map_fst_eq {members others : List (String × Value)}
    (same : MembersListSame members others) : members.map Prod.fst = others.map Prod.fst := by
  induction same with
  | nil => rfl
  | cons head _ ih => rw [List.map_cons, List.map_cons, head.1, ih]

theorem membersListSame_replace {name : String} {first second : Value}
    (same : ListsSame name first second) (front back : List (String × Value)) :
    MembersListSame (front ++ (name, first) :: back) (front ++ (name, second) :: back) :=
  List.rel_append (MembersListSame.refl front) (.cons ⟨rfl, same⟩ (MembersListSame.refl back))

theorem membersListSame_zip {first second : Value} (names : List String) (front back : List Value)
    (same : ∀ name, names[front.length]? = some name → ListsSame name first second) :
    MembersListSame (names.zip (front ++ first :: back)) (names.zip (front ++ second :: back)) := by
  induction names generalizing front with
  | nil => exact .nil
  | cons name names ih =>
    cases front with
    | nil => exact .cons ⟨rfl, same name rfl⟩ (MembersListSame.refl _)
    | cons value front => exact .cons ⟨rfl, .refl value⟩ (ih front same)

/-- A value is decoded as a record when its members give one. -/
theorem decoder_eq_ok_iff {value : Value} {members : List (String × Value)}
    (given : value.recordMembers? memberNames = some members)
    (distinct : (members.map Prod.fst).Nodup) :
    decoder value.toDocument = .ok record ↔ record.IsReadFrom members := by
  change Decoder.record memberNames fields value.toDocument = _ ↔ _
  rw [Decoder.record_eq_ok_iff, given, ← fields_eq_ok_iff distinct]
  simp

/-- The order of lists of entries does not show in what is decoded from an object. -/
theorem exists_record_of_object {members others : Members}
    (distinct : (members.map Prod.fst).Nodup)
    (same : MembersListSame (ofPairs members) (ofPairs others))
    (read : decoder (ofDocument (.object members)).toDocument = .ok record) :
    ∃ other, decoder (ofDocument (.object others)).toDocument = .ok other ∧
      record.Permuted other := by
  have pairs_distinct : ((ofPairs members).map Prod.fst).Nodup := by
    rw [map_fst_ofPairs]
    exact distinct
  have others_distinct : ((ofPairs others).map Prod.fst).Nodup := same.map_fst_eq ▸ pairs_distinct
  -- Sorting moves members, so the lists are compared by what lookups find in them.
  have related (name : String) : Option.Rel (ListsSame name)
      (lookup? name (sort (ofPairs members))) (lookup? name (sort (ofPairs others))) := by
    rw [lookup?_sort name pairs_distinct, lookup?_sort name others_distinct]
    exact lookup?_related same name
  rw [ofDocument, ofMembers_eq, decoder_eq_ok_iff rfl (isSorted_sort _).nodup] at read
  obtain ⟨other, other_read, permuted⟩ := read.exists_permuted related
  refine ⟨other, ?_, permuted⟩
  rw [ofDocument, ofMembers_eq, decoder_eq_ok_iff rfl (isSorted_sort _).nodup]
  exact other_read

/-- The order of lists of entries does not show in what is decoded from an array. -/
theorem exists_record_of_array {elements others : List Value}
    (length_eq : elements.length = others.length)
    (same : MembersListSame (memberNames.zip elements) (memberNames.zip others))
    (read : decoder (Value.array elements).toDocument = .ok record) :
    ∃ other, decoder (Value.array others).toDocument = .ok other ∧ record.Permuted other := by
  have zip_distinct (values : List Value) : ((memberNames.zip values).map Prod.fst).Nodup :=
    (map_fst_zip_sublist memberNames values).nodup (by decide)
  have given {values : List Value} (short : values.length ≤ memberNames.length) :
      recordMembers? memberNames (.array values) = some (memberNames.zip values) := if_pos short
  have short : elements.length ≤ memberNames.length := by
    by_contra too_long
    obtain ⟨members, given, -⟩ := Decoder.record_eq_ok_iff.mp read
    rw [recordMembers?, if_neg too_long] at given
    cases given
  rw [decoder_eq_ok_iff (given short) (zip_distinct _)] at read
  obtain ⟨other, other_read, permuted⟩ := read.exists_permuted (lookup?_related same)
  refine ⟨other, ?_, permuted⟩
  rw [decoder_eq_ok_iff (given (length_eq ▸ short)) (zip_distinct _)]
  exact other_read

private theorem listsSame_ofDocument {name : String} (listed : name ∈ entryNames)
    {elements others : List Document} (perm : elements.Perm others) :
    ListsSame name (ofDocument (.array elements)) (ofDocument (.array others)) := by
  rw [ofDocument, ofDocument, ofDocuments_eq_map, ofDocuments_eq_map]
  exact .perm listed (perm.map _)

/-- Of two documents that differ in order, one is decoded if the other is, with the same entries. -/
theorem Rearranged.exists_record (rearranged : Rearranged first second)
    (distinct : first.HasDistinctMembers)
    (read : decoder (ofDocument first).toDocument = .ok record) :
    ∃ other, decoder (ofDocument second).toDocument = .ok other ∧ record.Permuted other := by
  induction rearranged generalizing record with
  | reordered reordered =>
    rw [reordered.ofDocument_eq distinct] at read
    exact ⟨record, read, rfl, .refl _, .refl _, .refl _, .refl _⟩
  | named listed front back perm =>
    refine exists_record_of_object distinct.of_object.1 ?_ read
    rw [ofPairs_eq_map, ofPairs_eq_map, List.map_append, List.map_append, List.map_cons,
      List.map_cons]
    exact membersListSame_replace (listsSame_ofDocument listed perm) _ _
  | placed listed place back perm =>
    rw [ofDocument, ofDocuments_eq_map] at read ⊢
    refine exists_record_of_array (by simp) ?_ read
    rw [List.map_append, List.map_append, List.map_cons, List.map_cons]
    -- The place of an element decides which member it stands for.
    refine membersListSame_zip _ _ _ fun found there => ?_
    rw [List.length_map, place] at there
    cases there
    exact listsSame_ofDocument listed perm
  | trans there _ there_ih onward_ih =>
    obtain ⟨between, between_read, there_permuted⟩ := there_ih distinct read
    obtain ⟨other, other_read, onward_permuted⟩ :=
      onward_ih (there.hasDistinctMembers distinct) between_read
    exact ⟨other, other_read, there_permuted.trans onward_permuted⟩

end RootRecord

namespace TrustAnchors

/-- Trust anchors with the same entries in any order. -/
structure Permuted (first second : TrustAnchors) : Prop where
  certificateAuthorities : first.certificateAuthorities.Perm second.certificateAuthorities
  ctLogs : first.ctLogs.Perm second.ctLogs
  timestampingAuthorities : first.timestampingAuthorities.Perm second.timestampingAuthorities
  logs : first.logs.Perm second.logs

private theorem perm_of_describesAuthorities {α : Type} {authority : α → Authority}
    (injective : Function.Injective authority) {records others : List AuthorityRecord}
    {entries entries' : List α} (described : DescribesAuthorities authority records entries)
    (described' : DescribesAuthorities authority others entries') (perm : records.Perm others) :
    entries.Perm entries' :=
  List.rel_perm_imp (fun _ _ _ first_ok second_ok =>
    injective (Except.ok.inj (first_ok.symm.trans second_ok))) described described' perm

private theorem perm_of_describesLogs {records others : List LogRecord}
    {logs logs' : List TransparencyLog} (described : DescribesLogs records logs)
    (described' : DescribesLogs others logs') (perm : records.Perm others) : logs.Perm logs' :=
  List.rel_perm_imp (fun _ _ _ first_ok second_ok =>
    Except.ok.inj (first_ok.symm.trans second_ok)) described described' perm

/-- Records of the same entries in any order are accepted alike. -/
theorem exists_ofRecord_of_permuted {record other : RootRecord} {anchors : TrustAnchors}
    (permuted : record.Permuted other) (accepted : ofRecord record = .ok anchors) :
    ∃ anchors', ofRecord other = .ok anchors' ∧ anchors.Permuted anchors' := by
  obtain ⟨anchors', accepted'⟩ :=
    exists_ofRecord_of_isValid (permuted.isValid (isValid_of_ofRecord accepted))
  obtain ⟨-, authorities, ctLogs, stampers, logs⟩ := ofRecord_eq_ok_iff.mp accepted
  obtain ⟨-, authorities', ctLogs', stampers', logs'⟩ := ofRecord_eq_ok_iff.mp accepted'
  refine ⟨anchors', accepted', ?_, ?_, ?_, ?_⟩
  · exact perm_of_describesAuthorities (fun ⟨_⟩ ⟨_⟩ same => congrArg CertificateAuthority.mk same)
      authorities authorities' permuted.certificateAuthorities
  · exact perm_of_describesLogs ctLogs ctLogs' permuted.ctLogs
  · exact perm_of_describesAuthorities (fun ⟨_⟩ ⟨_⟩ same => congrArg TimestampingAuthority.mk same)
      stampers stampers' permuted.timestampingAuthorities
  · exact perm_of_describesLogs logs logs' permuted.logs

variable {first second : TrustAnchors}

/-- Trust anchors that find the same entry under every identifier, and that resolve every identifier
alike, whatever each of them has been asked before. -/
structure AnswersAlike (first second : TrustAnchors) : Prop where
  log : ∀ id, first.log? id = second.log? id
  ctLog : ∀ id, first.ctLog? id = second.ctLog? id
  certificateAuthority : ∀ id, first.certificateAuthority? id = second.certificateAuthority? id
  timestampingAuthority : ∀ id, first.timestampingAuthority? id = second.timestampingAuthority? id
  resolve : ∀ questions questions' id, ((Resolver.after first questions).resolve id).1 =
    ((Resolver.after second questions').resolve id).1

/-- The order of entries does not show in the answers. -/
theorem Permuted.answersAlike (permuted : first.Permuted second) : first.AnswersAlike second := by
  have log_eq (id) : first.log? id = second.log? id := EntryTable.find?_eq_of_perm permuted.logs id
  have ctLog_eq (id) : first.ctLog? id = second.ctLog? id :=
    EntryTable.find?_eq_of_perm permuted.ctLogs id
  have authority_eq (id) : first.certificateAuthority? id = second.certificateAuthority? id :=
    EntryTable.find?_eq_of_perm permuted.certificateAuthorities id
  have stamper_eq (id) : first.timestampingAuthority? id = second.timestampingAuthority? id :=
    EntryTable.find?_eq_of_perm permuted.timestampingAuthorities id
  refine ⟨log_eq, ctLog_eq, authority_eq, stamper_eq, fun questions questions' id => ?_⟩
  rw [Resolver.resolve_after, Resolver.resolve_after, verifier, verifier, log_eq, ctLog_eq,
    authority_eq, stamper_eq]

end TrustAnchors

namespace TrustRoot

variable {text other : String} {source : Value}

/-- A text that differs in order from an accepted one is accepted, and gives the same entries. -/
theorem exists_ofJson_of_rearranged (parsed : valueOfText (Text.read other) = .ok source)
    (distinct : (Text.read text).document.HasDistinctMembers)
    (rearranged : RootRecord.Rearranged (Text.read text).document (Text.read other).document)
    {root : TrustRoot} (accepted : ofJson text = .ok root) :
    ∃ root', ofJson other = .ok root' ∧ root.toTrustAnchors.Permuted root'.toTrustAnchors := by
  obtain ⟨_, record, source_ok, record_ok, anchors_ok, -⟩ := ofJson_eq_ok_iff.mp accepted
  obtain ⟨-, rfl, -⟩ := valueOfText_eq_ok_iff.mp source_ok
  obtain ⟨-, rfl, -⟩ := valueOfText_eq_ok_iff.mp parsed
  obtain ⟨again, again_ok, permuted⟩ := rearranged.exists_record distinct record_ok
  obtain ⟨anchors, accepted_again, anchors_permuted⟩ :=
    TrustAnchors.exists_ofRecord_of_permuted permuted anchors_ok
  exact ⟨⟨anchors, some _⟩,
    ofJson_eq_ok_iff.mpr ⟨_, again, parsed, again_ok, accepted_again, rfl⟩, anchors_permuted⟩

/-- The order of members does not show in what a text gives. -/
theorem ofJson_eq_of_reordered {source' : Value}
    (parsed : valueOfText (Text.read text) = .ok source)
    (parsed' : valueOfText (Text.read other) = .ok source')
    (distinct : (Text.read text).document.HasDistinctMembers)
    (reordered : (Text.read text).document.Reordered (Text.read other).document) :
    ofJson text = ofJson other := by
  have source_eq : source = source' := by
    obtain ⟨-, rfl, -⟩ := valueOfText_eq_ok_iff.mp parsed
    obtain ⟨-, rfl, -⟩ := valueOfText_eq_ok_iff.mp parsed'
    exact reordered.ofDocument_eq distinct
  rw [ofJson, ofJson, parsed, parsed', source_eq]

/-- Trust does not depend on order.  Two readable texts without repeated members that differ in the
order of members, at any depth, and of entries are both accepted or both refused, and the trust
roots that they give answer alike.  If only members change places, the trust roots agree and are
written alike. -/
theorem order_independence {source' : Value} (parsed : valueOfText (Text.read text) = .ok source)
    (parsed' : valueOfText (Text.read other) = .ok source')
    (distinct : (Text.read text).document.HasDistinctMembers)
    (rearranged : RootRecord.Rearranged (Text.read text).document (Text.read other).document) :
    ((∃ root, ofJson text = .ok root) ↔ ∃ root, ofJson other = .ok root) ∧
      ∀ root root', ofJson text = .ok root → ofJson other = .ok root' →
        root.AnswersAlike root'.toTrustAnchors ∧
          ((Text.read text).document.Reordered (Text.read other).document →
            root.agrees root' = true ∧ root.toJson = root'.toJson ∧
              root.toIndentedJson = root'.toIndentedJson) := by
  refine ⟨⟨?_, ?_⟩, fun root root' accepted accepted' => ⟨?_, fun reordered => ?_⟩⟩
  · rintro ⟨root, accepted⟩
    obtain ⟨root', accepted', -⟩ :=
      exists_ofJson_of_rearranged parsed' distinct rearranged accepted
    exact ⟨root', accepted'⟩
  · rintro ⟨root', accepted'⟩
    obtain ⟨root, accepted, -⟩ := exists_ofJson_of_rearranged parsed
      (rearranged.hasDistinctMembers distinct) rearranged.symm accepted'
    exact ⟨root, accepted⟩
  · obtain ⟨_, accepted_again, permuted⟩ :=
      exists_ofJson_of_rearranged parsed' distinct rearranged accepted
    cases accepted'.symm.trans accepted_again
    exact permuted.answersAlike
  · rw [ofJson_eq_of_reordered parsed parsed' distinct reordered] at accepted
    cases accepted.symm.trans accepted'
    exact ⟨by simp [agrees], rfl, rfl⟩

section Sample

private def versionMember : String × Document :=
  ("mediaType", .string RootVersion.v0_2.mediaType)

private def logOf (key : Members) : Document :=
  .object [("publicKey", .object key)]

private def namedKey : Members :=
  [("rawBytes", .string "AQ=="), ("keyDetails", .string "RSA")]

private def namelessKey : Members :=
  [("rawBytes", .string "Ag==")]

private def straight : Document :=
  .object [versionMember, ("tlogs", .array [logOf namedKey, logOf namelessKey])]

private def shuffled : Document :=
  .object [("tlogs", .array [logOf namelessKey, logOf namedKey.reverse]), versionMember]

private def straightRecord : RootRecord where
  mediaType := RootVersion.v0_2.mediaType
  logs := [⟨"", none, ⟨some [1], "RSA", none⟩, none⟩, ⟨"", none, ⟨some [2], "", none⟩, none⟩]
  certificateAuthorities := []
  ctLogs := []
  timestampingAuthorities := []

private theorem isSpelled_logOf {key : Members} (spelled : ∀ member ∈ key, member.2.IsSpelled) :
    (logOf key).IsSpelled :=
  .object (List.forall_mem_singleton.mpr (.object spelled))

private theorem isSpelled_samples : straight.IsSpelled ∧ shuffled.IsSpelled := by
  have named : ∀ member ∈ namedKey, member.2.IsSpelled := by
    simp only [namedKey, List.forall_mem_cons]
    exact ⟨.string _, .string _, nofun⟩
  have nameless : ∀ member ∈ namelessKey, member.2.IsSpelled :=
    List.forall_mem_singleton.mpr (.string _)
  constructor
  · refine .object ?_
    simp only [List.forall_mem_cons]
    refine ⟨.string _, .array ?_, nofun⟩
    simp only [List.forall_mem_cons]
    exact ⟨isSpelled_logOf named, isSpelled_logOf nameless, nofun⟩
  · refine .object ?_
    simp only [List.forall_mem_cons]
    refine ⟨.array ?_, .string _, nofun⟩
    simp only [List.forall_mem_cons]
    exact ⟨isSpelled_logOf nameless, isSpelled_logOf (by simpa using named), nofun⟩

private theorem hasDistinctMembers_straight : straight.HasDistinctMembers := by
  have log {key : Members} (names : (key.map Prod.fst).Nodup)
      (distinct : ∀ member ∈ key, member.2.HasDistinctMembers) :
      (logOf key).HasDistinctMembers :=
    .object (List.nodup_singleton _) (List.forall_mem_singleton.mpr (.object names distinct))
  refine .object (by decide) ?_
  simp only [List.forall_mem_cons]
  refine ⟨.string _, .array ?_, nofun⟩
  simp only [List.forall_mem_cons]
  refine ⟨log (by decide) ?_, log (by decide) (List.forall_mem_singleton.mpr (.string _)), nofun⟩
  simp only [namedKey, List.forall_mem_cons]
  exact ⟨.string _, .string _, nofun⟩

private theorem rearranged_shuffled : RootRecord.Rearranged straight shuffled := by
  have log : (logOf namedKey).Reordered (logOf namedKey.reverse) :=
    .member [] "publicKey" [] (.members (List.reverse_perm namedKey).symm)
  have inside : straight.Reordered
      (.object [versionMember, ("tlogs", .array [logOf namedKey.reverse, logOf namelessKey])]) :=
    .member [versionMember] "tlogs" [] (.element [] [logOf namelessKey] log)
  have listed : "tlogs" ∈ RootRecord.entryNames := List.mem_cons_self
  exact (RootRecord.Rearranged.reordered (inside.trans (.members (.swap _ _ [])))).trans
    (.named listed [] [versionMember] (.swap _ _ []))

private theorem exists_ofRecord_straight :
    ∃ anchors, TrustAnchors.ofRecord straightRecord = .ok anchors := by
  have named : LogRecord.IsValid ⟨"", none, ⟨some [1], "RSA", none⟩, none⟩ :=
    ⟨⟨[1], rfl, by decide⟩, nofun⟩
  have nameless : LogRecord.IsValid ⟨"", none, ⟨some [2], "", none⟩, none⟩ :=
    ⟨⟨[2], rfl, by decide⟩, nofun⟩
  refine TrustAnchors.exists_ofRecord_of_isValid ⟨.inr rfl, nofun, ?_, .nil, .nil, .nil, ?_⟩
  · change ∀ log ∈ straightRecord.logs, log.IsValid
    simp only [straightRecord, List.forall_mem_cons]
    exact ⟨named, nameless, nofun⟩
  · decide +kernel

/-- Two logs that change places, one of which also gives the members of its key in another order. -/
theorem order_independence_sample :
    ∃ source source' root root',
      valueOfText (Text.read straight.compact) = .ok source ∧
      valueOfText (Text.read shuffled.compact) = .ok source' ∧
      (Text.read straight.compact).document.HasDistinctMembers ∧
      RootRecord.Rearranged (Text.read straight.compact).document
        (Text.read shuffled.compact).document ∧
      ofJson straight.compact = .ok root ∧ ofJson shuffled.compact = .ok root' ∧
      root.AnswersAlike root'.toTrustAnchors := by
  have straight_read := Text.read_compact isSpelled_samples.1
  have shuffled_read := Text.read_compact isSpelled_samples.2
  have parsed : valueOfText (Text.read straight.compact) = .ok (ofDocument straight) := by
    rw [straight_read]
    exact valueOfText_eq_ok_iff.mpr ⟨by decide +kernel, rfl, rfl⟩
  have parsed' : valueOfText (Text.read shuffled.compact) = .ok (ofDocument shuffled) := by
    rw [shuffled_read]
    exact valueOfText_eq_ok_iff.mpr ⟨by decide +kernel, rfl, rfl⟩
  have distinct : (Text.read straight.compact).document.HasDistinctMembers := by
    rw [straight_read]
    exact hasDistinctMembers_straight
  have rearranged : RootRecord.Rearranged (Text.read straight.compact).document
      (Text.read shuffled.compact).document := by
    rw [straight_read, shuffled_read]
    exact rearranged_shuffled
  have decoded : RootRecord.decoder (ofDocument straight).toDocument = .ok straightRecord := by
    decide +kernel
  obtain ⟨anchors, anchors_ok⟩ := exists_ofRecord_straight
  have accepted : ofJson straight.compact = .ok ⟨anchors, some (ofDocument straight)⟩ :=
    ofJson_eq_ok_iff.mpr ⟨_, straightRecord, parsed, decoded, anchors_ok, rfl⟩
  have independent := order_independence parsed parsed' distinct rearranged
  obtain ⟨root', accepted'⟩ := independent.1.mp ⟨_, accepted⟩
  exact ⟨_, _, _, root', parsed, parsed', distinct, rearranged, accepted, accepted',
    (independent.2 _ _ accepted accepted').1⟩

end Sample

end TrustRoot
end Countersign
