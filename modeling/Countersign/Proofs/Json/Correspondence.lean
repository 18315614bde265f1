import Countersign.Proofs.Json.Decode
import Countersign.Proofs.Json.Reordering

/-!
# Corresponding documents

A record is read by the names of its members, so it does not matter where they stand, how often a
member without a meaning is given, or what else the document holds.  Two documents correspond if
every name that is given at most once finds corresponding documents in both.  A decoder that is
built from names respects every such correspondence: that of a document to the document of its
value, and that of documents whose members differ in order.
-/

namespace Countersign
namespace Json

open Value

variable {α β : Type}

namespace Members

/-- The documents with a name, in the order of the text. -/
def under (name : String) (members : Members) : List Document :=
  members.filterMap fun member => if member.1 = name then some member.2 else none

theorem under_cons (name : String) (member : String × Document) (rest : Members) :
    under name (member :: rest) =
      if member.1 = name then member.2 :: under name rest else under name rest := by
  by_cases same : member.1 = name <;> simp [under, same]

theorem under_eq_nil_iff {name : String} {members : Members} :
    under name members = [] ↔ name ∉ members.map Prod.fst := by
  induction members with
  | nil => simp [under]
  | cons first rest ih =>
    rw [under_cons, List.map_cons, List.mem_cons, not_or, ← ih]
    by_cases same : first.1 = name
    · simp [same]
    · simp [same, Ne.symm same]

theorem mem_of_mem_under {name : String} {document : Document} {members : Members}
    (listed : document ∈ under name members) : (name, document) ∈ members := by
  obtain ⟨⟨key, own⟩, own_listed, same⟩ := List.mem_filterMap.mp listed
  dsimp only at same
  split at same
  · rename_i key_eq
    cases same
    exact key_eq ▸ own_listed
  · cases same

theorem under_reverse (name : String) (members : Members) :
    under name members.reverse = (under name members).reverse :=
  List.filterMap_reverse

theorem under_eq_singleton_of_mem {name : String} {document : Document} {members : Members}
    (distinct : (members.map Prod.fst).Nodup) (listed : (name, document) ∈ members) :
    under name members = [document] := by
  induction members with
  | nil => cases listed
  | cons first rest ih =>
    obtain ⟨first_absent, rest_distinct⟩ := List.nodup_cons.mp distinct
    rw [under_cons]
    rcases List.mem_cons.mp listed with rfl | later
    · rw [if_pos rfl, under_eq_nil_iff.mpr first_absent]
    · have differs : first.1 ≠ name := by
        rintro rfl
        exact first_absent (List.mem_map.mpr ⟨_, later, rfl⟩)
      rw [if_neg differs, ih rest_distinct later]

theorem lookup_eq_head?_under (name : String) (members : Members) :
    members.lookup name = (under name members).head? := by
  induction members with
  | nil => rfl
  | cons first rest ih =>
    obtain ⟨key, document⟩ := first
    rw [List.lookup_cons, under_cons, ih]
    by_cases same : key = name
    · simp [same]
    · rw [beq_eq_false_iff_ne.mpr (Ne.symm same), if_neg same]

theorem under_eq_toList_lookup (name : String) {members : Members}
    (distinct : (members.map Prod.fst).Nodup) :
    under name members = (members.lookup name).toList := by
  rw [lookup_eq_head?_under]
  by_cases given : name ∈ members.map Prod.fst
  · obtain ⟨member, listed, rfl⟩ := List.mem_map.mp given
    rw [under_eq_singleton_of_mem distinct listed]
    rfl
  · rw [under_eq_nil_iff.mpr given]
    rfl

/-- Members of which every name that is given at most once finds related documents in both. -/
structure Correspond (related : Document → Document → Prop) (members others : Members) : Prop where
  absent {name : String} (nowhere : under name members = []) : under name others = []
  single {name : String} {document : Document} (once : under name members = [document]) :
    ∃ other, under name others = [other] ∧ related document other

/-- Members correspond to what they become when each is replaced by a related one of its name, and
these then change places. -/
theorem correspond_of_perm {related : Document → Document → Prop} {members between others : Members}
    (pairs : List.Forall₂ (fun first second => first.1 = second.1 ∧ related first.2 second.2)
      members between)
    (perm : between.Perm others) : Correspond related members others := by
  have under_related (name : String) :
      List.Forall₂ related (under name members) (under name between) := by
    refine List.rel_filterMap (fun first second ⟨same, here⟩ => ?_) pairs
    rw [same]
    split
    · exact .some here
    · exact .none
  have under_perm (name : String) : (under name between).Perm (under name others) :=
    perm.filterMap _
  constructor
  case absent =>
    intro name nowhere
    have found := under_related name
    have moved := under_perm name
    rw [nowhere, List.forall₂_nil_left_iff] at found
    rw [found, List.nil_perm] at moved
    exact moved
  case single =>
    intro name document once
    have found := under_related name
    have moved := under_perm name
    rw [once, List.forall₂_cons_left_iff] at found
    obtain ⟨other, rest, here, rest_nil, same⟩ := found
    rw [same, List.forall₂_nil_left_iff.mp rest_nil, List.singleton_perm] at moved
    exact ⟨other, moved.symm, here⟩

/-- Related documents in the same places correspond under the names of these places. -/
theorem correspond_zip {related : Document → Document → Prop} (names : List String)
    {elements others : List Document} (pairs : List.Forall₂ related elements others) :
    Correspond related (names.zip elements) (names.zip others) := by
  refine correspond_of_perm ?_ (.refl _)
  induction pairs generalizing names with
  | nil =>
    rw [List.zip_nil_right]
    exact .nil
  | cons head _ ih =>
    cases names with
    | nil => exact .nil
    | cons name names => exact .cons ⟨rfl, head⟩ (ih names)

end Members

open Members

namespace Fields

theorem map_snd_occurrences (name : String) (members : Members) :
    (occurrences name members).map Prod.snd = under name members := by
  have from_start (start : Nat) :
      ((members.zipIdx start).filterMap (occurrence name)).map Prod.snd = under name members := by
    induction members generalizing start with
    | nil => rfl
    | cons first rest ih =>
      rw [List.zipIdx_cons, under_cons, ← ih (start + 1)]
      by_cases same : first.1 = name <;> simp [occurrence, same]
  exact from_start 0

/-- A member is read when it is absent or given once. -/
theorem member_eq_ok_iff_under {name : String} {missing : Except DecodeError α} {decode : Decoder α}
    {members : Members} {result : α} :
    member name missing decode members = .ok result ↔
      (under name members = [] ∧ missing = .ok result) ∨
        ∃ document, under name members = [document] ∧ decode document = .ok result := by
  rw [member, ← map_snd_occurrences]
  split
  · rename_i nowhere
    simp [nowhere, «at», Outcome.mapError_eq_ok_iff]
  · rename_i once
    simp [once, «at», Outcome.mapError_eq_ok_iff]
  · rename_i position document again other rest repeated
    change («at» position (decode document) >>= _) = _ ↔ _
    simp [repeated, Outcome.bind_eq_ok_iff]

/-- Members of other names do not stand in the way when each of them passes the test. -/
theorem others_eq_ok_iff {names : List String} {test : String × Document → Bool}
    {members : Members} :
    others names test members = .ok () ↔
      ∀ member ∈ members, member.1 ∈ names ∨ test member = true := by
  have failure_iff :
      firstFailure? (fun member => names.contains member.1 || test member) members = none ↔
        ∀ member ∈ members, member.1 ∈ names ∨ test member = true := by
    rw [firstFailure?, List.findIdx?_eq_none_iff]
    simp [Decidable.imp_iff_not_or]
  rw [← failure_iff, others]
  split <;> simp_all

/-- What is read from members is also read from others. -/
def Follows (fields : Fields α) (members others : Members) : Prop :=
  ∀ ⦃value : α⦄, fields members = .ok value → fields others = .ok value

namespace Follows

variable {members others : Members}

theorem map {change : α → β} {field : Fields α} (follows : field.Follows members others) :
    (change <$> field).Follows members others := by
  intro result read
  obtain ⟨value, value_read, same⟩ := map_eq_ok_iff.mp read
  exact map_eq_ok_iff.mpr ⟨value, follows value_read, same⟩

theorem seq {first : Fields (α → β)} {second : Fields α}
    (first_follows : first.Follows members others)
    (second_follows : second.Follows members others) :
    (first <*> second).Follows members others := by
  intro result read
  obtain ⟨change, value, change_read, value_read, same⟩ := seq_eq_ok_iff.mp read
  exact seq_eq_ok_iff.mpr
    ⟨change, value, first_follows change_read, second_follows value_read, same⟩

end Follows

end Fields

/-- A relation between documents that keeps what decoders go by: null, texts, the elements of arrays
in their order, the members of objects by their names, and that nothing stands in the way. -/
structure IsCorrespondence (related : Document → Document → Prop) : Prop where
  null {other : Document} (here : related .null other) : other = .null
  string {text : String} {other : Document} (here : related (.string text) other) :
    other = .string text
  array {elements : List Document} {other : Document} (here : related (.array elements) other) :
    ∃ others, other = .array others ∧ List.Forall₂ related elements others
  object {members : Members} {other : Document} (here : related (.object members) other) :
    ∃ others, other = .object others ∧ Correspond related members others ∧
      ∀ names, Fields.others names Fields.isPassedOver members = .ok () →
        Fields.others names Fields.isPassedOver others = .ok ()

/-- The members from which a record is read: those of an object, or the elements of an array under
the names of the record. -/
def Document.recordMembers? (names : List String) : Document → Option Members
  | .object members => some members
  | .array elements => if elements.length ≤ names.length then some (names.zip elements) else none
  | _ => none

theorem Document.HasDistinctMembers.of_recordMembers? {names : List String} {document : Document}
    {members : Members} (distinct : document.HasDistinctMembers) (names_distinct : names.Nodup)
    (given : document.recordMembers? names = some members) :
    (members.map Prod.fst).Nodup ∧ ∀ member ∈ members, member.2.HasDistinctMembers := by
  cases document with
  | object own =>
    cases given
    exact distinct.of_object
  | array elements =>
    rw [recordMembers?] at given
    split at given
    · cases given
      exact ⟨(map_fst_zip_sublist names elements).nodup names_distinct,
        fun member listed => distinct.of_array _ (List.of_mem_zip listed).2⟩
    · cases given
  | _ => cases given

/-- Related documents give corresponding members, in which nothing stands in the way if it did not
before. -/
theorem IsCorrespondence.exists_recordMembers? {related : Document → Document → Prop}
    (corresponds : IsCorrespondence related) {document other : Document}
    (here : related document other) {names : List String} {members : Members}
    (given : document.recordMembers? names = some members) :
    ∃ others, other.recordMembers? names = some others ∧ Correspond related members others ∧
      ((document = .object members → Fields.others names Fields.isPassedOver members = .ok ()) →
        other = .object others → Fields.others names Fields.isPassedOver others = .ok ()) := by
  cases document with
  | object own =>
    cases given
    obtain ⟨others, rfl, correspond, passed_over⟩ := corresponds.object here
    exact ⟨others, rfl, correspond, fun passed _ => passed_over names (passed rfl)⟩
  | array elements =>
    obtain ⟨others, rfl, pairs⟩ := corresponds.array here
    rw [Document.recordMembers?] at given
    split at given
    · rename_i short
      cases given
      exact ⟨_, if_pos (pairs.length_eq ▸ short), correspond_zip names pairs, fun _ => nofun⟩
    · cases given
  | _ => cases given

namespace Decoder

/-- A record is read from its members; those of other names must not stand in the way. -/
theorem record_eq_ok_iff_recordMembers? {names : List String} {fields : Fields α}
    {document : Document} {value : α} :
    Decoder.record names fields document = .ok value ↔
      ∃ members, document.recordMembers? names = some members ∧ fields members = .ok value ∧
        (document = .object members →
          Fields.others names Fields.isPassedOver members = .ok ()) := by
  cases document with
  | object members =>
    rw [Decoder.record, Fields.result_eq_ok_iff, Fields.seqLeft_eq_ok_iff]
    constructor
    · rintro ⟨read, _, passed⟩
      exact ⟨members, rfl, read, fun _ => passed⟩
    · rintro ⟨_, given, read, passed⟩
      cases given
      exact ⟨read, (), passed rfl⟩
  | array elements =>
    change (Fields.result _ >>= _) = _ ↔ _
    simp only [Outcome.bind_eq_ok_iff, Fields.result_eq_ok_iff, Document.recordMembers?]
    constructor
    · rintro ⟨found, read, short⟩
      split at short
      · rename_i short_enough
        cases short
        refine ⟨_, if_pos short_enough, read, fun impossible => ?_⟩
        cases impossible
      · cases short
    · rintro ⟨members, short, read, -⟩
      split at short
      · rename_i short_enough
        cases short
        exact ⟨value, read, if_pos short_enough⟩
      · cases short
  | _ => simp [Decoder.record, Document.recordMembers?]

/-- The elements of an array have no other names, so that none of them stands in the way. -/
theorem record_eq_ok_iff_isPassedOver {names : List String} {fields : Fields α}
    {document : Document} {value : α} :
    Decoder.record names fields document = .ok value ↔
      ∃ members, document.recordMembers? names = some members ∧ fields members = .ok value ∧
        ∀ member ∈ members, member.1 ∈ names ∨ Fields.isPassedOver member = true := by
  rw [record_eq_ok_iff_recordMembers?]
  refine exists_congr fun members => and_congr_right fun given => and_congr_right fun _ => ?_
  rw [← Fields.others_eq_ok_iff]
  refine ⟨fun passed => ?_, fun passed _ => passed⟩
  cases document with
  | object own =>
    cases given
    exact passed rfl
  | array elements =>
    rw [Document.recordMembers?] at given
    split at given
    · cases given
      exact Fields.others_eq_ok_iff.mpr fun member listed => .inl (List.of_mem_zip listed).1
    · cases given
  | _ => cases given

/-- A record is read from a related document when its fields follow it there. -/
theorem record_eq_ok_of_follows {related : Document → Document → Prop}
    (corresponds : IsCorrespondence related) {names : List String} {fields : Fields α}
    {document other : Document} (here : related document other)
    (follows : ∀ {members others : Members}, document.recordMembers? names = some members →
      other.recordMembers? names = some others → Correspond related members others →
        fields.Follows members others)
    {value : α} (read : Decoder.record names fields document = .ok value) :
    Decoder.record names fields other = .ok value := by
  rw [record_eq_ok_iff_recordMembers?] at read ⊢
  obtain ⟨members, given, fields_read, passed⟩ := read
  obtain ⟨others, other_given, correspond, passed_over⟩ :=
    corresponds.exists_recordMembers? here given
  exact ⟨others, other_given, follows given other_given correspond fields_read, passed_over passed⟩

/-- What is decoded from a document is also decoded from every related one. -/
def Respects (related : Document → Document → Prop) (decode : Decoder α) : Prop :=
  ∀ ⦃document other : Document⦄ ⦃value : α⦄, related document other → decode document = .ok value →
    decode other = .ok value

namespace Respects

variable {related : Document → Document → Prop} {decode : Decoder α}

theorem string (corresponds : IsCorrespondence related) : Respects related Decoder.string := by
  intro document other value here read
  cases document with
  | string text =>
    rw [corresponds.string here]
    exact read
  | _ => cases read

theorem stringVia (corresponds : IsCorrespondence related) (read? : String → Option α) :
    Respects related (Decoder.stringVia read?) := by
  intro document other value here read
  cases document with
  | string text =>
    rw [corresponds.string here]
    exact read
  | _ => cases read

theorem andThen (respects : Respects related decode) (check : α → Except DecodeError β) :
    Respects related (Decoder.andThen decode check) := by
  intro document other result here read
  obtain ⟨value, value_read, checked⟩ := Outcome.bind_eq_ok_iff.mp read
  exact Outcome.bind_eq_ok_iff.mpr ⟨value, respects here value_read, checked⟩

theorem change (respects : Respects related decode) (change : α → β) :
    Respects related fun document => (decode document).map change := by
  intro document other result here read
  obtain ⟨value, value_read, same⟩ := Outcome.map_eq_ok_iff.mp read
  exact Outcome.map_eq_ok_iff.mpr ⟨value, respects here value_read, same⟩

theorem orDefault (corresponds : IsCorrespondence related) (respects : Respects related decode)
    (refuses : ∀ value, decode .null ≠ .ok value) (default : α) :
    Respects related (Decoder.orDefault default decode) := by
  intro document other value here read
  rw [Decoder.orDefault.eq_def] at read
  split at read
  · rw [corresponds.null here]
    exact read
  · have other_read := respects here read
    rw [Decoder.orDefault]
    · exact other_read
    · rintro rfl
      exact refuses value other_read

theorem nullable (corresponds : IsCorrespondence related) (respects : Respects related decode)
    (refuses : ∀ value, decode .null ≠ .ok value) :
    Respects related (Decoder.nullable decode) := by
  intro document other value? here read
  rw [Decoder.nullable.eq_def] at read
  split at read
  · rw [corresponds.null here]
    exact read
  · obtain ⟨value, value_read, same⟩ := Outcome.map_eq_ok_iff.mp read
    have other_read := respects here value_read
    rw [Decoder.nullable]
    · exact Outcome.map_eq_ok_iff.mpr ⟨value, other_read, same⟩
    · rintro rfl
      exact refuses value other_read

theorem mapM (respects : Respects related decode) {elements others : List Document}
    (pairs : List.Forall₂ related elements others) {values : List α}
    (read : elements.mapM decode = .ok values) : others.mapM decode = .ok values := by
  rw [Outcome.mapM_eq_ok_iff] at read ⊢
  induction pairs generalizing values with
  | nil =>
    cases read
    exact .nil
  | cons head _ ih =>
    cases read with
    | cons head_read rest_read => exact .cons (respects head head_read) (ih rest_read)

theorem list (corresponds : IsCorrespondence related) (respects : Respects related decode) :
    Respects related (Decoder.list decode) := by
  intro document other values here read
  cases document with
  | array elements =>
    obtain ⟨others, rfl, pairs⟩ := corresponds.array here
    exact respects.mapM pairs read
  | _ => cases read

/-- The fields of a record follow it to every document with corresponding members. -/
theorem record (corresponds : IsCorrespondence related) {names : List String} {fields : Fields α}
    (follows : ∀ {members others : Members}, Correspond related members others →
      fields.Follows members others) :
    Respects related (Decoder.record names fields) :=
  fun _ _ _ here read => record_eq_ok_of_follows corresponds here (fun _ _ => follows) read

end Respects

end Decoder

namespace Fields.Follows

variable {related : Document → Document → Prop} {members others : Members} {decode : Decoder α}

theorem member (correspond : Correspond related members others)
    (respects : decode.Respects related) (name : String) (missing : Except DecodeError α) :
    (Fields.member name missing decode).Follows members others := by
  intro value read
  rw [member_eq_ok_iff_under] at read ⊢
  rcases read with ⟨nowhere, value_read⟩ | ⟨document, once, value_read⟩
  · exact .inl ⟨correspond.absent nowhere, value_read⟩
  · obtain ⟨other, other_once, here⟩ := correspond.single once
    exact .inr ⟨other, other_once, respects here value_read⟩

end Fields.Follows

/-- A record of one member follows to every document in which the member does. -/
theorem Decoder.Respects.single {related : Document → Document → Prop} {decode : Decoder α}
    (corresponds : IsCorrespondence related) (respects : decode.Respects related) (name : String)
    (missing : Except DecodeError α) :
    (Decoder.record [name] (Fields.member name missing decode)).Respects related :=
  .record corresponds fun found => .member found respects name missing

section Meaning

theorem lookup?_ofPairs (name : String) (members : Members) :
    lookup? name (ofPairs members) = (under name members).head?.map ofDocument := by
  induction members with
  | nil =>
    rw [ofPairs]
    rfl
  | cons first rest ih =>
    obtain ⟨key, document⟩ := first
    rw [ofPairs, lookup?_cons, under_cons, ih]
    by_cases same : key = name <;> simp [same]

/-- A name finds the value of the last document with that name. -/
theorem under_toMembers_sort (name : String) (members : Members) :
    under name (toMembers (sort (ofPairs members))) =
      ((under name members).getLast?.map fun document =>
        (ofDocument document).toDocument).toList := by
  have distinct : ((toMembers (sort (ofPairs members))).map Prod.fst).Nodup := by
    rw [toMembers_eq_map, List.map_map]
    exact (isSorted_sort _).nodup
  rw [under_eq_toList_lookup name distinct, lookup_toMembers, lookup?_sort_eq_reverse,
    ofPairs_eq_map, ← List.map_reverse, ← ofPairs_eq_map, lookup?_ofPairs, under_reverse,
    List.head?_reverse, Option.map_map]
  rfl

/-- A document corresponds to the document of its value, in which nothing stands in the way. -/
theorem isCorrespondence_ofDocument :
    IsCorrespondence fun document other => other = (ofDocument document).toDocument := by
  constructor
  case null =>
    rintro _ rfl
    rw [ofDocument, toDocument]
  case string =>
    rintro text _ rfl
    rw [ofDocument, toDocument]
  case array =>
    rintro elements _ rfl
    rw [ofDocument, toDocument, ofDocuments_eq_map, toDocuments_eq_map]
    refine ⟨_, rfl, ?_⟩
    rw [List.map_map, List.forall₂_map_right_iff, List.forall₂_same]
    exact fun _ _ => rfl
  case object =>
    rintro members _ rfl
    rw [ofDocument, ofMembers_eq, toDocument]
    refine ⟨_, rfl, ⟨?_, ?_⟩, fun names _ => Fields.others_isPassedOver names _⟩
    · intro name nowhere
      rw [under_toMembers_sort, nowhere]
      rfl
    · intro name document once
      rw [under_toMembers_sort, once]
      exact ⟨_, rfl, rfl⟩

end Meaning

section Reordering

theorem Fields.isPassedOver_iff {member : String × Document} :
    isPassedOver member = true ↔
      member.2 ≠ .broken .namelessMember ∧ member.2.isJson = true := by
  obtain ⟨name, document⟩ := member
  rw [isPassedOver.eq_def]
  split
  · rename_i same
    simp [(Prod.mk.inj same).2]
  · rename_i other same
    obtain ⟨-, rfl⟩ := Prod.mk.inj same
    refine ⟨fun json => ⟨?_, json⟩, And.right⟩
    rintro rfl
    exact other rfl

theorem Document.ReorderedMember.isPassedOver {member other : String × Document}
    (reordered : ReorderedMember member other) (passed : Fields.isPassedOver member = true) :
    Fields.isPassedOver other = true := by
  rw [Fields.isPassedOver_iff] at passed ⊢
  refine ⟨fun broken => passed.1 ?_, reordered.2.isJson passed.2⟩
  have back := reordered.2.symm
  rw [broken] at back
  exact back.eq_of_atom (fun _ => nofun) (fun _ => nofun)

/-- The order of members does not matter to what goes by their names. -/
theorem isCorrespondence_reordered : IsCorrespondence Document.Reordered := by
  constructor
  case null => exact fun here => here.eq_of_atom (fun _ => nofun) (fun _ => nofun)
  case string => exact fun here => here.eq_of_atom (fun _ => nofun) (fun _ => nofun)
  case array => exact fun here => here.of_array
  case object =>
    intro members other here
    obtain ⟨between, others, rfl, pairs, perm⟩ := here.of_object
    refine ⟨others, rfl, correspond_of_perm pairs perm, fun names passed => ?_⟩
    rw [Fields.others_eq_ok_iff] at passed ⊢
    intro other listed
    obtain ⟨member, member_listed, same⟩ := here.exists_member listed
    rw [← same.1]
    exact (passed member member_listed).imp id same.isPassedOver

end Reordering

end Json
end Countersign
