import Mathlib.Data.List.Forall2
import Mathlib.Data.List.Induction
import Mathlib.Data.String.Basic
import Countersign.Json.Value

/-!
# Sorted members

Members that are sorted by name are determined by what a lookup finds for every name.  Putting a
member keeps them sorted and changes the lookup of its own name alone.
-/

namespace Countersign
namespace Json
namespace Value

variable {members : List (String × Value)}

/-- Members in the order of their names, without repetition. -/
def IsSorted (members : List (String × Value)) : Prop :=
  members.Pairwise fun first second => first.1 < second.1

@[simp]
theorem lookup?_nil (name : String) : lookup? name [] = none := rfl

theorem lookup?_cons (name key : String) (value : Value) (rest : List (String × Value)) :
    lookup? name ((key, value) :: rest) = if key = name then some value else lookup? name rest :=
  rfl

/-- Lookups in members of the same names, whose values are related, find related values. -/
theorem lookup?_related {related : String → Value → Value → Prop}
    {others : List (String × Value)}
    (pairs : List.Forall₂ (fun first second =>
      first.1 = second.1 ∧ related first.1 first.2 second.2) members others) (name : String) :
    Option.Rel (related name) (lookup? name members) (lookup? name others) := by
  induction pairs with
  | nil => exact .none
  | @cons first second _ _ head _ ih =>
    obtain ⟨key, value⟩ := first
    obtain ⟨_, other⟩ := second
    obtain ⟨rfl, values_related⟩ := head
    rw [lookup?_cons, lookup?_cons]
    by_cases same : key = name
    · subst same
      rw [if_pos rfl, if_pos rfl]
      exact .some values_related
    · rw [if_neg same, if_neg same]
      exact ih

theorem mem_of_lookup? {name : String} {value : Value} (found : lookup? name members = some value) :
    (name, value) ∈ members := by
  induction members with
  | nil => cases found
  | cons first rest ih =>
    obtain ⟨key, own⟩ := first
    rw [lookup?_cons] at found
    split at found
    · rename_i same
      cases found
      rw [same]
      exact List.mem_cons_self
    · exact List.mem_cons_of_mem _ (ih found)

theorem lookup?_eq_none_of_lt {name : String} (after : ∀ member ∈ members, name < member.1) :
    lookup? name members = none := by
  cases found : lookup? name members with
  | none => rfl
  | some value => exact absurd (after _ (mem_of_lookup? found)) (lt_irrefl name)

theorem lookup?_put (name key : String) (value : Value) (members : List (String × Value)) :
    lookup? name (put key value members) =
      if key = name then some value else lookup? name members := by
  induction members with
  | nil => rfl
  | cons first rest ih =>
    obtain ⟨other, old⟩ := first
    rw [put]
    split
    · rename_i same
      rw [same, lookup?_cons, lookup?_cons]
      split <;> rfl
    · split
      · rw [lookup?_cons]
      · rename_i differs _
        rw [lookup?_cons, lookup?_cons, ih]
        split
        · rename_i same
          rw [if_neg fun key_eq => differs (key_eq.trans same.symm)]
        · rfl

theorem mem_put {name : String} {value : Value} {member : String × Value}
    (listed : member ∈ put name value members) : member = (name, value) ∨ member ∈ members := by
  induction members with
  | nil => exact .inl (List.mem_singleton.mp listed)
  | cons first rest ih =>
    obtain ⟨key, old⟩ := first
    rw [put] at listed
    split at listed
    · rcases List.mem_cons.mp listed with here | there
      · exact .inl here
      · exact .inr (List.mem_cons_of_mem _ there)
    · split at listed
      · exact List.mem_cons.mp listed
      · rcases List.mem_cons.mp listed with here | there
        · exact .inr (here ▸ List.mem_cons_self)
        · rcases ih there with here | there
          · exact .inl here
          · exact .inr (List.mem_cons_of_mem _ there)

theorem IsSorted.put (sorted : IsSorted members) (name : String) (value : Value) :
    IsSorted (Value.put name value members) := by
  induction members with
  | nil => exact List.pairwise_singleton _ _
  | cons first rest ih =>
    obtain ⟨key, old⟩ := first
    obtain ⟨first_lt, rest_sorted⟩ := List.pairwise_cons.mp sorted
    rw [Value.put]
    split
    · rename_i same
      subst same
      exact List.pairwise_cons.mpr ⟨first_lt, rest_sorted⟩
    · split
      · rename_i before
        refine List.pairwise_cons.mpr ⟨fun member listed => ?_, sorted⟩
        rcases List.mem_cons.mp listed with here | there
        · rw [here]
          exact before
        · exact lt_trans before (first_lt member there)
      · rename_i differs not_before
        refine List.pairwise_cons.mpr ⟨fun member listed => ?_, ih rest_sorted⟩
        rcases mem_put listed with here | there
        · rw [here]
          exact lt_of_le_of_ne (not_lt.mp not_before) (Ne.symm differs)
        · exact first_lt member there

/-- Sorted members with the same lookups are the same. -/
theorem IsSorted.ext {others : List (String × Value)} (sorted : IsSorted members)
    (others_sorted : IsSorted others)
    (same : ∀ name, lookup? name members = lookup? name others) : members = others := by
  induction members generalizing others with
  | nil =>
    cases others with
    | nil => rfl
    | cons other rest =>
      have absent := same other.1
      rw [lookup?_cons, if_pos rfl] at absent
      cases absent
  | cons first rest ih =>
    obtain ⟨key, value⟩ := first
    cases others with
    | nil =>
      have absent := same key
      rw [lookup?_cons, if_pos rfl] at absent
      cases absent
    | cons other others =>
      obtain ⟨other_key, other_value⟩ := other
      obtain ⟨first_lt, rest_sorted⟩ := List.pairwise_cons.mp sorted
      obtain ⟨other_lt, tail_sorted⟩ := List.pairwise_cons.mp others_sorted
      have key_eq : key = other_key := by
        rcases lt_trichotomy key other_key with before | key_eq | after
        · have absent : lookup? key ((other_key, other_value) :: others) = none :=
            lookup?_eq_none_of_lt fun member listed => by
              rcases List.mem_cons.mp listed with here | there
              · rw [here]
                exact before
              · exact lt_trans before (other_lt member there)
          rw [← same, lookup?_cons, if_pos rfl] at absent
          cases absent
        · exact key_eq
        · have absent : lookup? other_key ((key, value) :: rest) = none :=
            lookup?_eq_none_of_lt fun member listed => by
              rcases List.mem_cons.mp listed with here | there
              · rw [here]
                exact after
              · exact lt_trans after (first_lt member there)
          rw [same, lookup?_cons, if_pos rfl] at absent
          cases absent
      subst key_eq
      have value_eq : value = other_value := by
        have found := same key
        rw [lookup?_cons, lookup?_cons, if_pos rfl, if_pos rfl] at found
        exact Option.some.inj found
      subst value_eq
      have rest_eq : rest = others := by
        apply ih rest_sorted tail_sorted
        intro name
        have found := same name
        rw [lookup?_cons, lookup?_cons] at found
        split at found
        · rename_i name_eq
          rw [← name_eq, lookup?_eq_none_of_lt first_lt, lookup?_eq_none_of_lt other_lt]
        · exact found
      rw [rest_eq]

/-- Members in the order in which they are put. -/
def sort (members : List (String × Value)) : List (String × Value) :=
  members.foldl (fun sorted member => put member.1 member.2 sorted) []

theorem ofMembers_eq (members : List (String × Value)) :
    ofMembers members = .object (sort members) :=
  rfl

private theorem isSorted_foldl (members : List (String × Value)) {start : List (String × Value)}
    (sorted : IsSorted start) :
    IsSorted (members.foldl (fun sorted member => put member.1 member.2 sorted) start) := by
  induction members generalizing start with
  | nil => exact sorted
  | cons first rest ih => exact ih (sorted.put first.1 first.2)

theorem isSorted_sort (members : List (String × Value)) : IsSorted (sort members) :=
  isSorted_foldl members List.Pairwise.nil

private theorem mem_foldl {start : List (String × Value)} {member : String × Value}
    (listed : member ∈
      members.foldl (fun sorted member => put member.1 member.2 sorted) start) :
    member ∈ start ∨ member ∈ members := by
  induction members generalizing start with
  | nil => exact .inl listed
  | cons first rest ih =>
    rcases ih listed with put_here | there
    · rcases mem_put put_here with here | there
      · exact .inr (here ▸ List.mem_cons_self)
      · exact .inl there
    · exact .inr (List.mem_cons_of_mem _ there)

theorem mem_of_mem_sort {member : String × Value} (listed : member ∈ sort members) :
    member ∈ members := by
  rcases mem_foldl listed with impossible | there
  · cases impossible
  · exact there

private theorem put_eq_append {name : String} {value : Value}
    (last : ∀ member ∈ members, member.1 < name) :
    put name value members = members ++ [(name, value)] := by
  induction members with
  | nil => rfl
  | cons first rest ih =>
    obtain ⟨key, old⟩ := first
    have before : key < name := last _ List.mem_cons_self
    rw [put, if_neg (ne_of_gt before), if_neg (not_lt_of_gt before),
      ih fun member listed => last member (List.mem_cons_of_mem _ listed)]
    rfl

private theorem foldl_of_sorted {start : List (String × Value)}
    (sorted : IsSorted (start ++ members)) :
    members.foldl (fun sorted member => put member.1 member.2 sorted) start = start ++ members := by
  induction members generalizing start with
  | nil => exact (List.append_nil start).symm
  | cons first rest ih =>
    have last : ∀ member ∈ start, member.1 < first.1 := fun member listed =>
      (List.pairwise_append.mp sorted).2.2 member listed first List.mem_cons_self
    rw [List.foldl_cons, put_eq_append last, ih (by simpa using sorted), List.append_assoc]
    rfl

/-- Sorted members are already in order. -/
theorem sort_of_isSorted (sorted : IsSorted members) : sort members = members :=
  foldl_of_sorted sorted

theorem lookup?_eq_none_of_not_mem {name : String} (absent : name ∉ members.map Prod.fst) :
    lookup? name members = none := by
  cases found : lookup? name members with
  | none => rfl
  | some value => exact absurd (List.mem_map_of_mem (mem_of_lookup? found)) absent

theorem lookup?_eq_none_iff {name : String} :
    lookup? name members = none ↔ name ∉ members.map Prod.fst := by
  refine ⟨fun absent listed => ?_, lookup?_eq_none_of_not_mem⟩
  induction members with
  | nil => cases listed
  | cons first rest ih =>
    obtain ⟨key, value⟩ := first
    rw [lookup?_cons] at absent
    split at absent
    · cases absent
    · rename_i differs
      rcases List.mem_cons.mp listed with here | there
      · exact differs here.symm
      · exact ih absent there

theorem exists_lookup?_eq_some {name : String} (listed : name ∈ members.map Prod.fst) :
    ∃ value, lookup? name members = some value :=
  Option.ne_none_iff_exists'.mp fun absent => lookup?_eq_none_iff.mp absent listed

theorem lookup?_of_mem {name : String} {value : Value} (distinct : (members.map Prod.fst).Nodup)
    (listed : (name, value) ∈ members) : lookup? name members = some value := by
  induction members with
  | nil => cases listed
  | cons first rest ih =>
    obtain ⟨key, own⟩ := first
    obtain ⟨key_absent, rest_distinct⟩ := List.nodup_cons.mp distinct
    rw [lookup?_cons]
    rcases List.mem_cons.mp listed with here | there
    · cases here
      rw [if_pos rfl]
    · have differs : key ≠ name := by
        rintro rfl
        exact key_absent (List.mem_map.mpr ⟨_, there, rfl⟩)
      rw [if_neg differs, ih rest_distinct there]

theorem IsSorted.nodup (sorted : IsSorted members) : (members.map Prod.fst).Nodup :=
  List.pairwise_map.mpr (sorted.imp fun before => ne_of_lt before)

private theorem lookup?_foldl (name : String) {start : List (String × Value)}
    (distinct : (members.map Prod.fst).Nodup) :
    lookup? name (members.foldl (fun sorted member => put member.1 member.2 sorted) start) =
      (lookup? name members).or (lookup? name start) := by
  induction members generalizing start with
  | nil => rfl
  | cons first rest ih =>
    obtain ⟨key, value⟩ := first
    obtain ⟨key_absent, rest_distinct⟩ := List.nodup_cons.mp distinct
    rw [List.foldl_cons, ih rest_distinct, lookup?_put, lookup?_cons]
    by_cases same : key = name
    · subst same
      rw [lookup?_eq_none_of_not_mem key_absent, if_pos rfl, if_pos rfl]
      rfl
    · rw [if_neg same, if_neg same]

theorem lookup?_sort (name : String) (distinct : (members.map Prod.fst).Nodup) :
    lookup? name (sort members) = lookup? name members := by
  rw [sort, lookup?_foldl name distinct, lookup?_nil, Option.or_none]

/-- Of several members with one name the last counts. -/
theorem lookup?_sort_eq_reverse (name : String) (members : List (String × Value)) :
    lookup? name (sort members) = lookup? name members.reverse := by
  induction members using List.reverseRecOn with
  | nil => rfl
  | append_singleton front last ih =>
    rw [sort, List.foldl_append, List.foldl_cons, List.foldl_nil, lookup?_put, ← sort, ih,
      List.reverse_append, List.reverse_singleton, List.singleton_append, lookup?_cons]

theorem lookup?_eq_of_perm {others : List (String × Value)} (name : String)
    (distinct : (members.map Prod.fst).Nodup) (perm : members.Perm others) :
    lookup? name members = lookup? name others := by
  have others_distinct : (others.map Prod.fst).Nodup := (perm.map Prod.fst).nodup_iff.mp distinct
  apply Option.ext
  intro value
  constructor
  · intro found
    exact lookup?_of_mem others_distinct (perm.mem_iff.mp (mem_of_lookup? found))
  · intro found
    exact lookup?_of_mem distinct (perm.mem_iff.mpr (mem_of_lookup? found))

/-- Members with distinct names are sorted alike in whatever order they stand. -/
theorem sort_eq_of_perm {others : List (String × Value)}
    (distinct : (members.map Prod.fst).Nodup) (perm : members.Perm others) :
    sort members = sort others := by
  refine (isSorted_sort members).ext (isSorted_sort others) fun name => ?_
  rw [lookup?_sort name distinct, lookup?_sort name ((perm.map Prod.fst).nodup_iff.mp distinct),
    lookup?_eq_of_perm name distinct perm]

end Value
end Json
end Countersign
