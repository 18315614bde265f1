import Mathlib.Data.List.Nodup
import Countersign.Proofs.Outcome
import Countersign.Trust.EntryTable

/-!
# Lookups in tables

The stored position of an identifier is the position at which it stands, and a table can be built
exactly when identifiers do not repeat.  A lookup therefore finds the one entry with the identifier.
-/

namespace Countersign
namespace EntryIndex

@[simp]
theorem position?_nil (id : String) : position? [] id = none := rfl

theorem position?_cons (id other : String) (position : Nat) (index : EntryIndex) :
    position? ((other, position) :: index) id =
      if id = other then some position else index.position? id := by
  by_cases same : id = other
  · simp [position?, same]
  · have differs : (id == other) = false := by simpa using same
    simp [position?, List.lookup_cons, differs, same]

/-- Identifiers can be stored when they neither repeat nor are stored already. -/
theorem exists_extend_iff {index : EntryIndex} {position : Nat} {ids : List String} :
    (∃ extended, index.extend position ids = .ok extended) ↔
      ids.Nodup ∧ ∀ id ∈ ids, index.position? id = none := by
  induction ids generalizing index position with
  | nil => simp [extend]
  | cons first rest ih =>
    cases stored : index.position? first with
    | some earlier => simp [extend, stored]
    | none =>
      simp only [extend, stored, ih, List.nodup_cons, List.mem_cons, forall_eq_or_imp, true_and]
      constructor
      · rintro ⟨distinct, fresh⟩
        refine ⟨⟨fun member => ?_, distinct⟩, fun id member => ?_⟩
        · simpa [position?_cons] using fresh first member
        · have absent := fresh id member
          rw [position?_cons] at absent
          split at absent
          · cases absent
          · exact absent
      · rintro ⟨⟨absent, distinct⟩, fresh⟩
        refine ⟨distinct, fun id member => ?_⟩
        rw [position?_cons, if_neg]
        · exact fresh id member
        · rintro rfl
          exact absent member

/-- The positions after identifiers were stored are the earlier ones and their own. -/
theorem position?_extend {index extended : EntryIndex} {position : Nat} {ids : List String}
    (stored : index.extend position ids = .ok extended) (id : String) (found : Nat) :
    extended.position? id = some found ↔
      index.position? id = some found ∨
        ∃ offset, ids[offset]? = some id ∧ found = position + offset := by
  induction ids generalizing index position with
  | nil =>
    cases stored
    simp
  | cons first rest ih =>
    cases earlier : index.position? first with
    | some _ => simp [extend, earlier] at stored
    | none =>
      simp only [extend, earlier] at stored
      rw [ih stored, position?_cons]
      constructor
      · rintro (here | ⟨offset, there, rfl⟩)
        · split at here
          · rename_i same
            cases here
            exact .inr ⟨0, by simp [same], rfl⟩
          · exact .inl here
        · exact .inr ⟨offset + 1, by simpa using there, by omega⟩
      · rintro (here | ⟨offset, there, rfl⟩)
        · rw [if_neg]
          · exact .inl here
          · rintro rfl
            rw [earlier] at here
            cases here
        · cases offset with
          | zero => exact .inl (by simp_all)
          | succ offset => exact .inr ⟨offset, by simpa using there, by omega⟩

/-- The stored positions of a list of identifiers are those at which they stand. -/
theorem position?_ofIds {ids : List String} {index : EntryIndex} (indexed : ofIds ids = .ok index)
    (id : String) (found : Nat) :
    index.position? id = some found ↔ ids[found]? = some id := by
  simp [position?_extend indexed id found]

theorem exists_ofIds_iff {ids : List String} : (∃ index, ofIds ids = .ok index) ↔ ids.Nodup := by
  simp [ofIds, exists_extend_iff]

/-- The first identifier that repeats an earlier one. -/
def IsFirstRepeat (ids : List String) (id : String) : Prop :=
  ∃ front back, ids = front ++ id :: back ∧ front.Nodup ∧ id ∈ front

private theorem position?_cons_eq_none {index : EntryIndex} {id first : String} {position : Nat}
    (absent : position? ((first, position) :: index) id = none) :
    id ≠ first ∧ index.position? id = none := by
  rw [position?_cons] at absent
  split at absent
  · cases absent
  · exact ⟨‹_›, absent⟩

/-- Storing fails at the first identifier that repeats an earlier one or is stored already. -/
theorem extend_eq_error {index : EntryIndex} {position : Nat} {ids : List String} {id : String}
    (failed : index.extend position ids = .error id) :
    ∃ front back, ids = front ++ id :: back ∧ front.Nodup ∧
      (∀ other ∈ front, index.position? other = none) ∧
        (id ∈ front ∨ ∃ earlier, index.position? id = some earlier) := by
  induction ids generalizing index position with
  | nil => cases failed
  | cons first rest ih =>
    cases stored : index.position? first with
    | some earlier =>
      simp only [extend, stored, Except.error.injEq] at failed
      subst failed
      exact ⟨[], rest, rfl, List.nodup_nil, by simp, .inr ⟨earlier, stored⟩⟩
    | none =>
      simp only [extend, stored] at failed
      obtain ⟨front, back, rfl, distinct, fresh, repeated⟩ := ih failed
      have first_absent : first ∉ front := fun listed =>
        (position?_cons_eq_none (fresh first listed)).1 rfl
      refine ⟨first :: front, back, rfl, List.nodup_cons.mpr ⟨first_absent, distinct⟩, ?_, ?_⟩
      · intro other listed
        rcases List.mem_cons.mp listed with rfl | later
        · exact stored
        · exact (position?_cons_eq_none (fresh other later)).2
      · rcases repeated with listed | ⟨earlier, found⟩
        · exact .inl (List.mem_cons_of_mem first listed)
        · rw [position?_cons] at found
          split at found
          · rename_i same
            exact .inl (same ▸ List.mem_cons_self)
          · exact .inr ⟨earlier, found⟩

theorem isFirstRepeat_of_ofIds {ids : List String} {id : String} (failed : ofIds ids = .error id) :
    IsFirstRepeat ids id := by
  obtain ⟨front, back, split, distinct, -, repeated⟩ := extend_eq_error failed
  have in_front : id ∈ front := by simpa using repeated
  exact ⟨front, back, split, distinct, in_front⟩

example : ofIds ["a", "b", "b", "a"] = .error "b" := by rfl

end EntryIndex

namespace EntryTable

variable {α : Type} {id : α → String}

theorem ids_nodup (table : EntryTable id) : (table.entries.map id).Nodup :=
  EntryIndex.exists_ofIds_iff.mp ⟨table.index, table.index_eq⟩

/-- A table is determined by its entries. -/
theorem ext_entries {first second : EntryTable id} (same : first.entries = second.entries) :
    first = second := by
  obtain ⟨entries, index, index_eq⟩ := first
  obtain ⟨others, other, other_eq⟩ := second
  cases same
  rw [index_eq] at other_eq
  cases other_eq
  rfl

theorem ofEntries_eq_ok_iff {entries : List α} {table : EntryTable id} :
    ofEntries id entries = .ok table ↔ table.entries = entries := by
  constructor
  · intro built
    unfold ofEntries at built
    split at built
    · cases built
      rfl
    · cases built
  · rintro rfl
    unfold ofEntries
    split
    · exact congrArg Except.ok (ext_entries rfl)
    · rename_i repeated indexed
      rw [table.index_eq] at indexed
      cases indexed

theorem ofEntries_eq_error_iff {entries : List α} {repeated : String} :
    ofEntries id entries = .error repeated ↔
      EntryIndex.ofIds (entries.map id) = .error repeated := by
  unfold ofEntries
  split <;> rename_i indexed <;> simp [indexed]

/-- Whether a table can be built depends on the identifiers alone. -/
theorem ofEntries_alike {entries others : List α} (same : entries.map id = others.map id) :
    Outcome.Alike (fun table table' => table.entries = entries ∧ table'.entries = others)
      (ofEntries id entries) (ofEntries id others) := by
  cases built : ofEntries id entries with
  | ok table =>
    have entries_eq := ofEntries_eq_ok_iff.mp built
    have index_eq : EntryIndex.ofIds (others.map id) = .ok table.index := by
      rw [← same, ← entries_eq]
      exact table.index_eq
    have built_alike : ofEntries id others = .ok ⟨others, table.index, index_eq⟩ :=
      ofEntries_eq_ok_iff.mpr rfl
    rw [built_alike]
    exact .ok ⟨entries_eq, rfl⟩
  | error repeated =>
    have failed_alike : ofEntries id others = .error repeated := by
      rw [ofEntries_eq_error_iff, ← same]
      exact ofEntries_eq_error_iff.mp built
    rw [failed_alike]
    exact .error repeated

/-- A lookup finds the entry that has the identifier. -/
theorem find?_eq_some_iff {table : EntryTable id} {key : String} {entry : α} :
    table.find? key = some entry ↔ entry ∈ table.entries ∧ id entry = key := by
  simp only [find?, Option.bind_eq_some_iff, EntryIndex.position?_ofIds table.index_eq,
    List.getElem?_map, Option.map_eq_some_iff]
  constructor
  · rintro ⟨position, ⟨other, there, key_eq⟩, here⟩
    rw [there] at here
    cases here
    exact ⟨List.mem_of_getElem? there, key_eq⟩
  · rintro ⟨member, key_eq⟩
    obtain ⟨position, here⟩ := List.mem_iff_getElem?.mp member
    exact ⟨position, ⟨entry, here, key_eq⟩, here⟩

theorem list_find?_eq_some_iff {entries : List α} (distinct : (entries.map id).Nodup) {key : String}
    {entry : α} :
    entries.find? (fun other => id other = key) = some entry ↔
      entry ∈ entries ∧ id entry = key := by
  constructor
  · intro found
    exact ⟨List.mem_of_find?_eq_some found, by simpa using List.find?_some found⟩
  · rintro ⟨member, key_eq⟩
    cases found : entries.find? fun other => id other = key with
    | none => exact absurd key_eq (by simpa using List.find?_eq_none.mp found entry member)
    | some other =>
      have other_eq : id other = key := by simpa using List.find?_some found
      have same : other = entry := List.inj_on_of_nodup_map distinct
        (List.mem_of_find?_eq_some found) member (other_eq.trans key_eq.symm)
      rw [same]

/-- What a table finds does not depend on the order of its entries. -/
theorem find?_eq_of_perm {first second : EntryTable id} (perm : first.entries.Perm second.entries)
    (key : String) : first.find? key = second.find? key := by
  apply Option.ext
  intro entry
  rw [find?_eq_some_iff, find?_eq_some_iff, perm.mem_iff]

/-- The table finds what a search through its entries finds. -/
theorem find?_eq_list_find? (table : EntryTable id) (key : String) :
    table.find? key = table.entries.find? fun entry => id entry = key := by
  apply Option.ext
  intro entry
  rw [find?_eq_some_iff, list_find?_eq_some_iff table.ids_nodup]

theorem isFirstRepeat_of_ofEntries {entries : List α} {repeated : String}
    (failed : ofEntries id entries = .error repeated) :
    EntryIndex.IsFirstRepeat (entries.map id) repeated :=
  EntryIndex.isFirstRepeat_of_ofIds (ofEntries_eq_error_iff.mp failed)

/-- The positions that a table stores lie within its list. -/
theorem position_lt (table : EntryTable id) {key : String} {position : Nat}
    (stored : table.index.position? key = some position) : position < table.entries.length := by
  rw [EntryIndex.position?_ofIds table.index_eq, List.getElem?_map,
    Option.map_eq_some_iff] at stored
  obtain ⟨entry, there, -⟩ := stored
  exact (List.getElem?_eq_some_iff.mp there).1

end EntryTable
end Countersign
