import Countersign.Json.Decode
import Countersign.Proofs.Json.Value
import Countersign.Proofs.Outcome

/-!
# Decoding the documents of values

A record decoder accepts an object, or a short enough array, when every one of its fields is read
from the member with its name.  Where members have distinct names, a field is read from what a
lookup finds.
-/

namespace Countersign
namespace Json

variable {α β : Type}

namespace Value

/-- The members from which a record is read: those of an object, or the elements of an array under
the names of the record. -/
def recordMembers? (names : List String) : Value → Option (List (String × Value))
  | .object members => some members
  | .array elements => if elements.length ≤ names.length then some (names.zip elements) else none
  | _ => none

theorem toMembers_zip (names : List String) (elements : List Value) :
    toMembers (names.zip elements) = names.zip (toDocuments elements) := by
  rw [toMembers_eq_map, toDocuments_eq_map, List.zip_map_right]
  rfl

theorem map_fst_zip_sublist (names : List String) (elements : List α) :
    ((names.zip elements).map Prod.fst).Sublist names := by
  induction names generalizing elements with
  | nil => exact List.Sublist.refl []
  | cons name names ih =>
    cases elements with
    | nil => exact List.nil_sublist _
    | cons element elements => exact (ih elements).cons_cons name

theorem nodup_of_recordMembers? {accepts : Number → Prop} {depth : Nat} {names : List String}
    {value : Value} {members : List (String × Value)} (names_distinct : names.Nodup)
    (formed : value.IsWellFormed accepts depth) (read : value.recordMembers? names = some members) :
    (members.map Prod.fst).Nodup := by
  cases value with
  | object own =>
    cases read
    exact formed.of_object.1.nodup
  | array elements =>
    rw [recordMembers?] at read
    split at read
    · cases read
      exact (map_fst_zip_sublist names elements).nodup names_distinct
    · cases read
  | _ => cases read

mutual

theorem isJson_toDocument : ∀ value : Value, value.toDocument.isJson = true
  | .null => by simp [toDocument, Document.isJson]
  | .bool value => by simp [toDocument, Document.isJson]
  | .number denoted => by simp [toDocument, Document.isJson]
  | .string text => by simp [toDocument, Document.isJson]
  | .array elements => by
    rw [toDocument, Document.isJson]
    exact areJson_toDocuments elements
  | .object members => by
    rw [toDocument, Document.isJson]
    exact membersAreJson_toMembers members

theorem areJson_toDocuments : ∀ elements : List Value,
    Document.areJson (toDocuments elements) = true
  | [] => by rw [toDocuments, Document.areJson]
  | first :: rest => by
    rw [toDocuments, Document.areJson, isJson_toDocument first, areJson_toDocuments rest]
    rfl

theorem membersAreJson_toMembers : ∀ members : List (String × Value),
    Document.membersAreJson (toMembers members) = true
  | [] => by rw [toMembers, Document.membersAreJson]
  | (name, value) :: rest => by
    rw [toMembers, Document.membersAreJson, isJson_toDocument value, membersAreJson_toMembers rest]
    rfl

end

theorem lookup_toMembers (name : String) (members : List (String × Value)) :
    (toMembers members).lookup name = (lookup? name members).map toDocument := by
  induction members with
  | nil => rw [toMembers]; rfl
  | cons first rest ih =>
    obtain ⟨key, value⟩ := first
    rw [toMembers, List.lookup_cons, lookup?_cons]
    by_cases same : name = key
    · simp [same]
    · rw [beq_eq_false_iff_ne.mpr same, if_neg fun key_eq => same key_eq.symm]
      exact ih

theorem toDocument_ne_broken (value : Value) (fault : Fault) :
    value.toDocument ≠ .broken fault := by
  cases value <;> rw [toDocument] <;> exact nofun

end Value

namespace Decoder

/-- Decodes an optional document, for which `missing` answers when it is absent. -/
def given (missing : Except DecodeError α) (decode : Decoder α) :
    Option Document → Except DecodeError α
  | none => missing
  | some document => decode document

/-- Reads an optional value, for which `missing` answers when it is absent. -/
def optionally (missing : Except DecodeError α) (decode : Decoder α) :
    Option Value → Except DecodeError α
  | none => missing
  | some value => decode value.toDocument

theorem optionally_eq_given (missing : Except DecodeError α) (decode : Decoder α)
    (value? : Option Value) :
    decode.optionally missing value? = decode.given missing (value?.map Value.toDocument) := by
  cases value? <;> rfl

end Decoder

namespace Fields

theorem both_eq_ok_iff {first : Fields (α → β)} {second : Fields α} {members : Members}
    {result : β} :
    both first second members = .ok result ↔
      ∃ change value, first members = .ok change ∧ second members = .ok value ∧
        change value = result := by
  unfold both
  constructor
  · intro done
    split at done
    · rename_i change value first_ok second_ok
      cases done
      exact ⟨change, value, first_ok, second_ok, rfl⟩
    all_goals cases done
  · rintro ⟨change, value, first_ok, second_ok, rfl⟩
    rw [first_ok, second_ok]

theorem seq_eq_ok_iff {first : Fields (α → β)} {second : Fields α} {members : Members}
    {result : β} :
    (first <*> second) members = .ok result ↔
      ∃ change value, first members = .ok change ∧ second members = .ok value ∧
        change value = result :=
  both_eq_ok_iff

theorem map_eq_ok_iff {change : α → β} {field : Fields α} {members : Members} {result : β} :
    (change <$> field) members = .ok result ↔
      ∃ value, field members = .ok value ∧ change value = result := by
  change both (pure change) field members = _ ↔ _
  rw [both_eq_ok_iff]
  constructor
  · rintro ⟨_, value, same, value_ok, done⟩
    cases same
    exact ⟨value, value_ok, done⟩
  · rintro ⟨value, value_ok, done⟩
    exact ⟨change, value, rfl, value_ok, done⟩

theorem seqLeft_eq_ok_iff {first : Fields α} {second : Fields β} {members : Members} {result : α} :
    (first <* second) members = .ok result ↔
      first members = .ok result ∧ ∃ value, second members = .ok value := by
  change ((Function.const β <$> first) <*> second) members = _ ↔ _
  rw [seq_eq_ok_iff]
  constructor
  · rintro ⟨_, value, first_ok, second_ok, rfl⟩
    obtain ⟨found, found_ok, rfl⟩ := map_eq_ok_iff.mp first_ok
    exact ⟨found_ok, value, second_ok⟩
  · rintro ⟨first_ok, value, second_ok⟩
    exact ⟨_, value, map_eq_ok_iff.mpr ⟨result, first_ok, rfl⟩, second_ok, rfl⟩

theorem result_eq_ok_iff {found : Except (Nat × DecodeError) α} {value : α} :
    result found = .ok value ↔ found = .ok value :=
  Outcome.mapError_eq_ok_iff

/-- Members of other names never stand in the way when they spell values. -/
theorem others_isPassedOver (names : List String) (members : List (String × Value)) :
    others names isPassedOver (Value.toMembers members) = .ok () := by
  have no_failure : firstFailure? (fun member => names.contains member.1 || isPassedOver member)
      (Value.toMembers members) = none := by
    rw [firstFailure?, List.findIdx?_eq_none_iff, Value.toMembers_eq_map]
    intro member listed
    obtain ⟨own, -, rfl⟩ := List.mem_map.mp listed
    have passed : isPassedOver (own.1, own.2.toDocument) = true := by
      unfold isPassedOver
      split
      · rename_i broken
        exact absurd (Prod.mk.inj broken).2 (own.2.toDocument_ne_broken _)
      · rename_i same
        rw [← (Prod.mk.inj same).2]
        exact own.2.isJson_toDocument
    rw [passed, Bool.or_true]
    rfl
  rw [others, no_failure]

/-- A member with its position, if it has a name. -/
def occurrence (name : String) (placed : (String × Document) × Nat) : Option (Nat × Document) :=
  if placed.1.1 = name then some (placed.2, placed.1.2) else none

private theorem occurrences_from (name : String) {members : Members}
    (distinct : (members.map Prod.fst).Nodup) (start : Nat) :
    (members.lookup name = none ∧ (members.zipIdx start).filterMap (occurrence name) = []) ∨
      ∃ document position, members.lookup name = some document ∧
        (members.zipIdx start).filterMap (occurrence name) = [(position, document)] := by
  induction members generalizing start with
  | nil => exact .inl ⟨rfl, rfl⟩
  | cons first rest ih =>
    obtain ⟨key, document⟩ := first
    obtain ⟨key_absent, rest_distinct⟩ := List.nodup_cons.mp distinct
    rw [List.zipIdx_cons, List.lookup_cons]
    by_cases same : name = key
    · subst same
      have here : occurrence name ((name, document), start) = some (start, document) := if_pos rfl
      rcases ih rest_distinct (start + 1) with ⟨-, none_later⟩ | ⟨later, _, found, -⟩
      · refine .inr ⟨document, start, by simp, ?_⟩
        rw [List.filterMap_cons_some here, none_later]
      · obtain ⟨front, back, rfl, -⟩ := List.lookup_eq_some_iff.mp found
        exact absurd (by simp) key_absent
    · have elsewhere : occurrence name ((key, document), start) = none :=
        if_neg fun key_eq => same key_eq.symm
      rw [beq_eq_false_iff_ne.mpr same, List.filterMap_cons_none elsewhere]
      exact ih rest_distinct (start + 1)

theorem occurrences_eq (name : String) (members : Members) :
    occurrences name members = members.zipIdx.filterMap (occurrence name) :=
  rfl

/-- A member of a record is read from what a lookup finds. -/
theorem member_eq_ok_iff_lookup {name : String} {missing : Except DecodeError α}
    {decode : Decoder α} {members : Members} (distinct : (members.map Prod.fst).Nodup)
    {result : α} :
    member name missing decode members = .ok result ↔
      decode.given missing (members.lookup name) = .ok result := by
  rw [member, occurrences_eq]
  rcases occurrences_from name distinct 0 with ⟨absent, nowhere⟩ | ⟨value, position, found, once⟩
  · rw [nowhere, absent]
    exact Outcome.mapError_eq_ok_iff
  · rw [once, found]
    exact Outcome.mapError_eq_ok_iff

theorem member_eq_ok_iff {name : String} {missing : Except DecodeError α} {decode : Decoder α}
    {members : List (String × Value)} (distinct : (members.map Prod.fst).Nodup) {result : α} :
    member name missing decode (Value.toMembers members) = .ok result ↔
      decode.optionally missing (Value.lookup? name members) = .ok result := by
  have names_eq : (Value.toMembers members).map Prod.fst = members.map Prod.fst := by
    rw [Value.toMembers_eq_map, List.map_map]
    rfl
  rw [member_eq_ok_iff_lookup (names_eq ▸ distinct), Value.lookup_toMembers,
    Decoder.optionally_eq_given]

end Fields

namespace Decoder

theorem string_eq_ok_iff {value : Value} {text : String} :
    string value.toDocument = .ok text ↔ value = .string text := by
  cases value <;> rw [Value.toDocument] <;> simp [string]

theorem stringVia_eq_ok_iff {read? : String → Option α} {value : Value} {result : α} :
    stringVia read? value.toDocument = .ok result ↔
      ∃ text, value = .string text ∧ read? text = some result := by
  cases value <;> rw [Value.toDocument] <;> simp only [stringVia]
  case string text => cases found : read? text <;> simp [found]
  all_goals simp

theorem nullable_null (decode : Decoder α) : nullable decode Value.null.toDocument = .ok none := by
  rw [Value.toDocument, nullable]

theorem nullable_of_ne_null (decode : Decoder α) {value : Value} (present : value ≠ .null) :
    nullable decode value.toDocument = (decode value.toDocument).map some := by
  cases value with
  | null => exact absurd rfl present
  | _ => rw [Value.toDocument, nullable]; exact nofun

theorem nullable_eq_ok_none_iff {decode : Decoder α} {value : Value} :
    nullable decode value.toDocument = .ok none ↔ value = .null := by
  constructor
  · intro read
    by_contra present
    rw [nullable_of_ne_null decode present] at read
    obtain ⟨_, -, impossible⟩ := Outcome.map_eq_ok_iff.mp read
    cases impossible
  · rintro rfl
    exact nullable_null decode

theorem nullable_eq_ok_some_iff {decode : Decoder α} {value : Value} {result : α} :
    nullable decode value.toDocument = .ok (some result) ↔
      value ≠ .null ∧ decode value.toDocument = .ok result := by
  by_cases absent : value = .null
  · subst absent
    rw [nullable_null]
    simp
  · rw [nullable_of_ne_null decode absent, Outcome.map_eq_ok_iff]
    simp [absent]

theorem list_eq_ok_iff {decode : Decoder α} {value : Value} {results : List α} :
    list decode value.toDocument = .ok results ↔
      ∃ elements, value = .array elements ∧
        List.Forall₂ (fun element result => decode element.toDocument = .ok result) elements
          results := by
  cases value with
  | array elements =>
    rw [Value.toDocument, list, Outcome.mapM_eq_ok_iff, Value.toDocuments_eq_map,
      List.forall₂_map_left_iff]
    simp
  | _ =>
    rw [Value.toDocument, list]
    · simp
    · exact nofun

/-- A record is read from the members of an object, or from the elements of an array. -/
theorem record_eq_ok_iff {names : List String} {fields : Fields α} {value : Value} {result : α} :
    record names fields value.toDocument = .ok result ↔
      ∃ members, value.recordMembers? names = some members ∧
        fields (Value.toMembers members) = .ok result := by
  cases value with
  | object members =>
    rw [Value.toDocument, record, Fields.result_eq_ok_iff, Fields.seqLeft_eq_ok_iff,
      Fields.others_isPassedOver]
    simp [Value.recordMembers?]
  | array elements =>
    have length_eq : (Value.toDocuments elements).length = elements.length := by
      rw [Value.toDocuments_eq_map, List.length_map]
    rw [Value.toDocument, record, length_eq, ← Value.toMembers_zip]
    change (Fields.result _ >>= _) = _ ↔ _
    rw [Outcome.bind_eq_ok_iff]
    simp only [Fields.result_eq_ok_iff, Value.recordMembers?]
    constructor
    · rintro ⟨found, found_ok, done⟩
      split at done
      · rename_i short
        cases done
        exact ⟨_, if_pos short, found_ok⟩
      · cases done
    · rintro ⟨members, short, found_ok⟩
      split at short
      · rename_i short_enough
        cases short
        exact ⟨result, found_ok, if_pos short_enough⟩
      · cases short
  | _ =>
    rw [Value.toDocument]
    constructor
    · exact nofun
    · rintro ⟨_, impossible, -⟩
      cases impossible

end Decoder

/-- A whole text is decoded when its document is. -/
theorem Text.decode_eq_ok_iff {text : Text} {decode : Decoder α} {value : α} :
    text.decode decode = .ok value ↔ decode text.document = .ok value ∧ text.complete = true := by
  change (decode _ >>= _) = _ ↔ _
  rw [Outcome.bind_eq_ok_iff]
  constructor
  · rintro ⟨found, decoded, complete⟩
    split at complete
    · rename_i whole
      cases complete
      exact ⟨decoded, whole⟩
    · cases complete
  · rintro ⟨decoded, whole⟩
    exact ⟨value, decoded, if_pos whole⟩

end Json
end Countersign
