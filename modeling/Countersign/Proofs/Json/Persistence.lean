import Countersign.Proofs.Json.Decode
import Countersign.Proofs.Json.Encode
import Countersign.Proofs.Json.Patch

/-!
# Reading what was written over a source

A part persists if what is written for it, laid over anything that the part can have been read from,
is read as that part again.  Strings persist, and optional values, lists and members persist with
their content.
-/

namespace Countersign
namespace Json
namespace Value

/-- A value all of whose objects are sorted. -/
def IsOrdered (value : Value) : Prop :=
  ∃ depth, value.IsWellFormed (fun _ => True) depth

theorem IsWellFormed.isOrdered {accepts : Number → Prop} {depth : Nat} {value : Value}
    (formed : value.IsWellFormed accepts depth) : value.IsOrdered :=
  ⟨depth, formed.imp fun _ _ _ => trivial⟩

theorem IsOrdered.of_array {elements : List Value} (ordered : (Value.array elements).IsOrdered) :
    ∀ element ∈ elements, element.IsOrdered := by
  obtain ⟨_, formed⟩ := ordered
  cases formed with
  | array elements_formed => exact fun element listed => ⟨_, elements_formed element listed⟩

theorem IsOrdered.of_recordMembers? {names : List String} {value : Value}
    {members : List (String × Value)} (ordered : value.IsOrdered)
    (read : value.recordMembers? names = some members) :
    ∀ member ∈ members, member.2.IsOrdered := by
  cases value with
  | object own =>
    cases read
    obtain ⟨_, formed⟩ := ordered
    exact fun member listed => ⟨_, formed.of_object.2 member listed⟩
  | array elements =>
    rw [recordMembers?] at read
    split at read
    · cases read
      exact fun member listed => ordered.of_array _ (List.of_mem_zip listed).2
    · cases read
  | _ => cases read

/-- The members of an object; anything else has none. -/
def ownMembers : Option Value → List (String × Value)
  | some (.object members) => members
  | _ => []

variable {base? : Option Value}

/-- An optional value that is ordered if it is there. -/
def AreOrdered (base? : Option Value) : Prop :=
  ∀ value, base? = some value → value.IsOrdered

theorem AreOrdered.isSorted_ownMembers (ordered : AreOrdered base?) :
    IsSorted (ownMembers base?) := by
  unfold ownMembers
  split
  · obtain ⟨_, formed⟩ := ordered _ rfl
    exact formed.of_object.1
  · exact List.Pairwise.nil

theorem AreOrdered.lookup? (ordered : AreOrdered base?) (name : String) :
    AreOrdered (lookup? name (ownMembers base?)) := by
  intro value found
  unfold ownMembers at found
  split at found
  · obtain ⟨_, formed⟩ := ordered _ rfl
    exact ⟨_, formed.of_object.2 _ (mem_of_lookup? found)⟩
  · cases found

theorem patchMembers_nil {overlay : List (String × Value)} (sorted : IsSorted overlay) :
    patchMembers [] overlay = overlay := by
  refine (isSorted_patchMembers List.Pairwise.nil overlay).ext sorted fun name => ?_
  rw [lookup?_patchMembers name sorted.nodup, lookup?_nil]
  cases lookup? name overlay <;> rfl

/-- An object that is laid over anything is laid over its members. -/
theorem patchMember?_object (base? : Option Value) {overlay : List (String × Value)}
    (sorted : IsSorted overlay) :
    patchMember? base? (some (.object overlay)) =
      some (.object (patchMembers (ownMembers base?) overlay)) := by
  unfold ownMembers
  split
  · rw [patchMember?, patch]
  · rename_i other
    rw [patchMembers_nil sorted]
    cases base? with
    | none => rfl
    | some base =>
      have kind : base.isObject = false := by
        cases base with
        | object members => exact absurd rfl (other members)
        | _ => rfl
      rw [patchMember?, patch_object_of_not_object kind]

@[simp]
theorem patchMember?_string (base? : Option Value) (text : String) :
    patchMember? base? (some (.string text)) = some (.string text) := by
  cases base? <;> simp [patchMember?]

theorem exists_patchMember?_eq_some (base? : Option Value) (change : Value) :
    ∃ value, patchMember? base? (some change) = some value := by
  cases base? <;> exact ⟨_, rfl⟩

/-- A part of members: a lookup finds nothing or the same. -/
def IsPartOf (own members : List (String × Value)) : Prop :=
  ∀ name, lookup? name own = none ∨ lookup? name own = lookup? name members

theorem isPartOf_nil (members : List (String × Value)) : IsPartOf [] members :=
  fun _ => .inl rfl

theorem isPartOf_of_recordMembers? {names : List String} {value : Value}
    {members : List (String × Value)} (read : value.recordMembers? names = some members) :
    IsPartOf (ownMembers (some value)) members := by
  cases value with
  | object own =>
    cases read
    exact fun _ => .inr rfl
  | _ => exact isPartOf_nil members

end Value

namespace Decoder

open Value

variable {α β : Type} {missing : Except DecodeError α} {decode : Decoder α}
  {describes : α → β → Prop} {base? : Option Value} {record : α} {part : β}

/-- An optional value that is absent or a part was read from it. -/
def IsSource (missing : Except DecodeError α) (decode : Decoder α) (base? : Option Value)
    (record : α) : Prop :=
  ∃ whole?, AreOrdered whole? ∧ decode.optionally missing whole? = .ok record ∧
    (base? = none ∨ base? = whole?)

theorem IsSource.areOrdered (source : IsSource missing decode base? record) : AreOrdered base? := by
  obtain ⟨whole?, ordered, -, rfl | rfl⟩ := source
  · exact fun _ impossible => nomatch impossible
  · exact ordered

/-- A member of a part of members is a source of what is read from the members. -/
theorem IsSource.ofMember {own members : List (String × Value)} {name : String}
    (part_of : IsPartOf own members) (ordered : AreOrdered (lookup? name members))
    (read : decode.optionally missing (lookup? name members) = .ok record) :
    IsSource missing decode (lookup? name own) record :=
  ⟨lookup? name members, ordered, read, part_of name⟩

/-- What is written for a part, laid over a source of it, is read as that part again. -/
def Persists (missing : Except DecodeError α) (decode : Decoder α) (describes : α → β → Prop)
    (written? : β → Option Value) : Prop :=
  ∀ ⦃base? : Option Value⦄ ⦃record : α⦄ ⦃part : β⦄, IsSource missing decode base? record →
    describes record part →
      ∃ again, decode.optionally missing (patchMember? base? (written? part)) = .ok again ∧
        describes again part

theorem persists_string (missing : Except DecodeError String) :
    Persists missing string Eq fun text => some (.string text) := by
  intro base? record part _ same
  rw [patchMember?_string]
  exact ⟨part, string_eq_ok_iff.mpr rfl, rfl⟩

theorem persists_stringVia (missing : Except DecodeError α) {read? : String → Option α}
    {write : α → String} (read_write : ∀ value, read? (write value) = some value) :
    Persists missing (stringVia read?) Eq fun value => some (.string (write value)) := by
  intro base? record part _ same
  rw [patchMember?_string]
  exact ⟨part, stringVia_eq_ok_iff.mpr ⟨_, rfl, read_write part⟩, rfl⟩

/-- A text that is left out when it is empty persists. -/
theorem persists_text : Persists (.ok "") string Eq text? := by
  rintro base? text _ source rfl
  rw [text?]
  split
  · rename_i empty
    obtain rfl := String.isEmpty_iff.mp empty
    rw [patchMember?_none]
    obtain ⟨whole?, -, read, rfl | rfl⟩ := source
    · exact ⟨"", rfl, rfl⟩
    · exact ⟨"", read, rfl⟩
  · exact persists_string (.ok "") source rfl

theorem IsSource.of_nullable
    (source : IsSource (.ok none) (Decoder.nullable decode) base? (some record)) :
    IsSource missing decode base? record := by
  obtain ⟨whole?, ordered, read, part_of⟩ := source
  cases whole? with
  | none => cases read
  | some whole => exact ⟨some whole, ordered, (nullable_eq_ok_some_iff.mp read).2, part_of⟩

/-- An optional part persists if the part does. -/
theorem Persists.nullable {written : β → Value}
    (persists : Persists missing decode describes fun part => some (written part))
    (refuses : ∀ record, decode .null ≠ .ok record) :
    Persists (.ok none) (nullable decode) (Option.Rel describes)
      fun part? => part?.map written := by
  intro base? record? part? source related
  cases related with
  | none =>
    dsimp only
    rw [Option.map_none, patchMember?_none]
    obtain ⟨whole?, -, read, rfl | rfl⟩ := source
    · exact ⟨none, rfl, .none⟩
    · exact ⟨none, read, .none⟩
  | @some record part described =>
    obtain ⟨again, read, described_again⟩ := persists source.of_nullable described
    obtain ⟨value, patched⟩ := exists_patchMember?_eq_some base? (written part)
    rw [patched] at read
    dsimp only
    rw [Option.map_some, patched]
    refine ⟨some again, nullable_eq_ok_some_iff.mpr ⟨?_, read⟩, .some described_again⟩
    rintro rfl
    rw [optionally, Value.toDocument] at read
    exact refuses again read

theorem Persists.congr {other : α → β → Prop} {written? : β → Option Value}
    (persists : Persists missing decode describes written?)
    (same : ∀ record part, describes record part ↔ other record part) :
    Persists missing decode other written? := by
  intro base? record part source described
  obtain ⟨again, read, described_again⟩ := persists source ((same record part).mpr described)
  exact ⟨again, read, (same again part).mp described_again⟩

private theorem optionRel_eq_iff (record? part? : Option α) :
    Option.Rel Eq record? part? ↔ record? = part? := by
  cases record? <;> cases part? <;> simp

theorem Persists.nullable_eq {written : α → Value}
    (persists : Persists missing decode Eq fun part => some (written part))
    (refuses : ∀ record, decode .null ≠ .ok record) :
    Persists (.ok none) (Decoder.nullable decode) Eq fun part? => part?.map written :=
  (persists.nullable refuses).congr optionRel_eq_iff

section List

variable {written : β → Value} {elements : List Value} {records : List α} {parts : List β}

/-- Every value of a list is read as the record in its place. -/
abbrev AreRead (decode : Decoder α) : List Value → List α → Prop :=
  List.Forall₂ fun element record => decode element.toDocument = .ok record

private theorem exists_areRead_written
    (persists : Persists missing decode describes fun part => some (written part))
    (ordered : ∀ element ∈ elements, element.IsOrdered) (read : AreRead decode elements records)
    (described : List.Forall₂ describes records parts) :
    ∃ again, AreRead decode (parts.map written) again ∧ List.Forall₂ describes again parts := by
  induction read generalizing parts with
  | nil =>
    cases described
    exact ⟨[], .nil, .nil⟩
  | @cons element record elements records element_read _ ih =>
    cases described with
    | @cons _ part _ parts first rest =>
      have source : IsSource missing decode none record :=
        ⟨some element, fun value same => Option.some.inj same ▸ ordered element List.mem_cons_self,
          element_read, .inl rfl⟩
      obtain ⟨again, again_read, described_again⟩ := persists source first
      obtain ⟨others, others_read, others_described⟩ :=
        ih (fun element listed => ordered element (List.mem_cons_of_mem _ listed)) rest
      exact ⟨again :: others, .cons again_read others_read, .cons described_again others_described⟩

private theorem exists_areRead_patchElements
    (persists : Persists missing decode describes fun part => some (written part))
    (ordered : ∀ element ∈ elements, element.IsOrdered) (read : AreRead decode elements records)
    (described : List.Forall₂ describes records parts) :
    ∃ again, AreRead decode (patchElements elements (parts.map written)) again ∧
      List.Forall₂ describes again parts := by
  induction read generalizing parts with
  | nil =>
    cases described
    exact ⟨[], .nil, .nil⟩
  | @cons element record elements records element_read _ ih =>
    cases described with
    | @cons _ part _ parts first rest =>
      have source : IsSource missing decode (some element) record :=
        ⟨some element, fun value same => Option.some.inj same ▸ ordered element List.mem_cons_self,
          element_read, .inr rfl⟩
      obtain ⟨again, again_read, described_again⟩ := persists source first
      obtain ⟨others, others_read, others_described⟩ :=
        ih (fun element listed => ordered element (List.mem_cons_of_mem _ listed)) rest
      exact ⟨again :: others, .cons again_read others_read, .cons described_again others_described⟩

/-- A list persists if its elements do. -/
theorem Persists.list
    (persists : Persists missing decode describes fun part => some (written part)) :
    Persists (.ok []) (list decode) (List.Forall₂ describes)
      fun parts => some (.array (parts.map written)) := by
  rintro base? records parts ⟨whole?, ordered, read, part_of⟩ described
  cases whole? with
  | none =>
    cases read
    cases described
    rw [part_of.elim id id]
    exact ⟨[], list_eq_ok_iff.mpr ⟨[], rfl, .nil⟩, .nil⟩
  | some whole =>
    obtain ⟨elements, rfl, elements_read⟩ := list_eq_ok_iff.mp read
    have elements_ordered := (ordered _ rfl).of_array
    obtain rfl | rfl := part_of
    · obtain ⟨again, again_read, described_again⟩ :=
        exists_areRead_written persists elements_ordered elements_read described
      exact ⟨again, list_eq_ok_iff.mpr ⟨_, rfl, again_read⟩, described_again⟩
    · obtain ⟨again, again_read, described_again⟩ :=
        exists_areRead_patchElements persists elements_ordered elements_read described
      have same : elements.length = (parts.map written).length := by
        rw [List.length_map, elements_read.length_eq, described.length_eq]
      rw [patchMember?, patch_array_of_length_eq same]
      exact ⟨again, list_eq_ok_iff.mpr ⟨_, rfl, again_read⟩, described_again⟩

theorem Persists.list_eq {written : α → Value}
    (persists : Persists missing decode Eq fun part => some (written part)) :
    Persists (.ok []) (Decoder.list decode) Eq fun parts => some (.array (parts.map written)) :=
  persists.list.congr fun _ _ => by rw [List.forall₂_eq_eq_eq]

end List

section Record

variable {names : List String} {fields : Fields α}

/-- The members of a source of a record are part of members from which the record is read. -/
theorem IsSource.exists_members {fault : DecodeError} (names_distinct : names.Nodup)
    (source : IsSource (.error fault) (Decoder.record names fields) base? record) :
    ∃ members, (members.map Prod.fst).Nodup ∧ (∀ name, AreOrdered (Value.lookup? name members)) ∧
      fields (toMembers members) = .ok record ∧ IsPartOf (ownMembers base?) members := by
  obtain ⟨whole?, ordered, read, part_of⟩ := source
  cases whole? with
  | none => cases read
  | some whole =>
    obtain ⟨members, members_eq, fields_ok⟩ := record_eq_ok_iff.mp read
    obtain ⟨depth, formed⟩ := ordered whole rfl
    refine ⟨members, nodup_of_recordMembers? names_distinct formed members_eq,
      fun name value found =>
        formed.isOrdered.of_recordMembers? members_eq _ (mem_of_lookup? found), fields_ok, ?_⟩
    obtain rfl | rfl := part_of
    · exact isPartOf_nil members
    · exact isPartOf_of_recordMembers? members_eq

/-- A record that is laid over anything is read from the patched members. -/
theorem record_patch_eq_ok_iff {overlay : List (String × Value)} (sorted : IsSorted overlay) :
    (Decoder.record names fields).optionally missing
        (patchMember? base? (some (.object overlay))) = .ok record ↔
      fields (toMembers (patchMembers (ownMembers base?) overlay)) = .ok record := by
  rw [patchMember?_object base? sorted, optionally, record_eq_ok_iff]
  constructor
  · rintro ⟨members, same, fields_ok⟩
    cases same
    exact fields_ok
  · exact fun fields_ok => ⟨_, rfl, fields_ok⟩

theorem nullable_patch_eq_ok_some_iff {absent : Except DecodeError (Option α)}
    {overlay : List (String × Value)} (sorted : IsSorted overlay) :
    (nullable decode).optionally absent (patchMember? base? (some (.object overlay))) =
        .ok (some record) ↔
      decode.optionally missing (patchMember? base? (some (.object overlay))) = .ok record := by
  rw [patchMember?_object base? sorted, optionally, optionally, nullable_eq_ok_some_iff]
  exact and_iff_right nofun

theorem isSorted_singleton (name : String) (value : Value) : IsSorted [(name, value)] :=
  List.pairwise_singleton _ _

/-- A record of one member that is laid over anything is read from the patched member. -/
theorem single_patch_eq_ok_iff {name : String} {absent : Except DecodeError α} {change : Value}
    (ordered : AreOrdered base?) :
    (Decoder.record [name] (Fields.member name absent decode)).optionally missing
        (patchMember? base? (some (.object [(name, change)]))) = .ok record ↔
      decode.optionally absent
        (patchMember? (Value.lookup? name (ownMembers base?)) (some change)) = .ok record := by
  have sorted := isSorted_singleton name change
  have patched_sorted := isSorted_patchMembers ordered.isSorted_ownMembers [(name, change)]
  rw [record_patch_eq_ok_iff sorted, Fields.member_eq_ok_iff patched_sorted.nodup,
    lookup?_patchMembers name sorted.nodup, lookup?_cons, if_pos rfl]

/-- A record of one member persists if the member does. -/
theorem Persists.single {name : String} {absent : Except DecodeError α} {fault : DecodeError}
    {written : β → Value}
    (persists : Persists absent decode describes fun part => some (written part)) :
    Persists (.error fault) (Decoder.record [name] (Fields.member name absent decode)) describes
      fun part => some (.object [(name, written part)]) := by
  intro base? record part source described
  obtain ⟨members, distinct, ordered, read, part_of⟩ :=
    source.exists_members (List.pairwise_singleton _ _)
  have member_source := IsSource.ofMember part_of (ordered name)
    ((Fields.member_eq_ok_iff distinct).mp read)
  obtain ⟨again, again_read, described_again⟩ := persists member_source described
  exact ⟨again, (single_patch_eq_ok_iff source.areOrdered).mpr again_read, described_again⟩

end Record

end Decoder
end Json
end Countersign
