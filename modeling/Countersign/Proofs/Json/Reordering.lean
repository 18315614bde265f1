import Mathlib.Data.List.Perm.Basic
import Countersign.Proofs.Json.Value

/-!
# The order of members

Documents that differ in the order of the members of their objects have the same value, as long as
no object repeats a name.
-/

namespace Countersign
namespace Json

open Value

namespace Document

/-- A document in which no object repeats the name of a member. -/
inductive HasDistinctMembers : Document → Prop
  | null : HasDistinctMembers .null
  | bool (value : Bool) : HasDistinctMembers (.bool value)
  | number (numeral : Numeral) : HasDistinctMembers (.number numeral)
  | string (text : String) : HasDistinctMembers (.string text)
  | array {elements : List Document}
    (distinct : ∀ element ∈ elements, HasDistinctMembers element) :
    HasDistinctMembers (.array elements)
  | object {members : Members} (names : (members.map Prod.fst).Nodup)
    (distinct : ∀ member ∈ members, HasDistinctMembers member.2) :
    HasDistinctMembers (.object members)
  | broken (fault : Fault) : HasDistinctMembers (.broken fault)

/-- Documents that differ in the order of the members of objects, at any depth. -/
inductive Reordered : Document → Document → Prop
  | refl (document : Document) : Reordered document document
  | members {members others : Members} (perm : members.Perm others) :
    Reordered (.object members) (.object others)
  | element (front : List Document) {first second : Document} (back : List Document)
    (inside : Reordered first second) :
    Reordered (.array (front ++ first :: back)) (.array (front ++ second :: back))
  | member (front : Members) (name : String) {first second : Document} (back : Members)
    (inside : Reordered first second) :
    Reordered (.object (front ++ (name, first) :: back)) (.object (front ++ (name, second) :: back))
  | trans {first second third : Document} (there : Reordered first second)
    (onward : Reordered second third) : Reordered first third

variable {first second : Document}

theorem HasDistinctMembers.of_array {elements : List Document}
    (distinct : (Document.array elements).HasDistinctMembers) :
    ∀ element ∈ elements, element.HasDistinctMembers := by
  cases distinct with
  | array distinct => exact distinct

theorem HasDistinctMembers.of_object {members : Members}
    (distinct : (Document.object members).HasDistinctMembers) :
    (members.map Prod.fst).Nodup ∧ ∀ member ∈ members, member.2.HasDistinctMembers := by
  cases distinct with
  | object names distinct => exact ⟨names, distinct⟩

theorem HasDistinctMembers.replace_element {front back : List Document}
    (distinct : (Document.array (front ++ first :: back)).HasDistinctMembers)
    (replaced : first.HasDistinctMembers → second.HasDistinctMembers) :
    (Document.array (front ++ second :: back)).HasDistinctMembers := by
  have inside := distinct.of_array
  rw [List.forall_mem_append, List.forall_mem_cons] at inside
  refine .array ?_
  rw [List.forall_mem_append, List.forall_mem_cons]
  exact ⟨inside.1, replaced inside.2.1, inside.2.2⟩

theorem HasDistinctMembers.replace_member {front back : Members} {name : String}
    (distinct : (Document.object (front ++ (name, first) :: back)).HasDistinctMembers)
    (replaced : first.HasDistinctMembers → second.HasDistinctMembers) :
    (Document.object (front ++ (name, second) :: back)).HasDistinctMembers := by
  obtain ⟨names, inside⟩ := distinct.of_object
  rw [List.map_append, List.map_cons] at names
  rw [List.forall_mem_append, List.forall_mem_cons] at inside
  refine .object ?_ ?_
  · rw [List.map_append, List.map_cons]
    exact names
  · rw [List.forall_mem_append, List.forall_mem_cons]
    exact ⟨inside.1, replaced inside.2.1, inside.2.2⟩

theorem Reordered.symm (reordered : first.Reordered second) : second.Reordered first := by
  induction reordered with
  | refl document => exact .refl document
  | members perm => exact .members perm.symm
  | element front back _ ih => exact .element front back ih
  | member front name back _ ih => exact .member front name back ih
  | trans _ _ there onward => exact onward.trans there

theorem Reordered.hasDistinctMembers (reordered : first.Reordered second)
    (distinct : first.HasDistinctMembers) : second.HasDistinctMembers := by
  induction reordered with
  | refl document => exact distinct
  | members perm =>
    obtain ⟨names, inside⟩ := distinct.of_object
    exact .object ((perm.map Prod.fst).nodup_iff.mp names) fun member listed =>
      inside member (perm.mem_iff.mpr listed)
  | element front back _ ih => exact distinct.replace_element ih
  | member front name back _ ih => exact distinct.replace_member ih
  | trans _ _ there onward => exact onward (there distinct)

/-- Nothing but arrays and objects can be reordered. -/
theorem Reordered.eq_of_atom (reordered : first.Reordered second)
    (no_array : ∀ elements, first ≠ .array elements)
    (no_object : ∀ members, first ≠ .object members) : second = first := by
  induction reordered with
  | refl document => rfl
  | members perm => exact absurd rfl (no_object _)
  | element front back _ _ => exact absurd rfl (no_array _)
  | member front name back _ _ => exact absurd rfl (no_object _)
  | trans _ _ there_ih onward_ih =>
    obtain rfl := there_ih no_array no_object
    exact onward_ih no_array no_object

private theorem forall₂_trans {α : Type} {related : α → α → Prop}
    (related_trans : ∀ {first second third}, related first second → related second third →
      related first third)
    {firsts seconds thirds : List α} (there : List.Forall₂ related firsts seconds)
    (onward : List.Forall₂ related seconds thirds) : List.Forall₂ related firsts thirds := by
  induction there generalizing thirds with
  | nil =>
    cases onward
    exact .nil
  | cons head _ ih =>
    cases onward with
    | cons head_onward rest_onward => exact .cons (related_trans head head_onward) (ih rest_onward)

/-- What is reordered from an array is an array whose elements are reordered in their places. -/
theorem Reordered.of_array {elements : List Document} {other : Document}
    (reordered : (Document.array elements).Reordered other) :
    ∃ others, other = .array others ∧ List.Forall₂ Reordered elements others := by
  generalize array_eq : Document.array elements = document at reordered
  have unchanged (part : List Document) : List.Forall₂ Reordered part part :=
    List.forall₂_same.mpr fun _ _ => .refl _
  induction reordered generalizing elements with
  | refl document => exact ⟨elements, array_eq.symm, unchanged elements⟩
  | members perm => cases array_eq
  | element front back inside _ =>
    cases array_eq
    exact ⟨_, rfl, List.rel_append (unchanged front) (.cons inside (unchanged back))⟩
  | member front name back inside _ => cases array_eq
  | trans _ _ there_ih onward_ih =>
    obtain ⟨between, rfl, there⟩ := there_ih array_eq
    obtain ⟨others, rfl, onward⟩ := onward_ih rfl
    exact ⟨others, rfl, forall₂_trans .trans there onward⟩

/-- Members of the same name whose documents are reordered. -/
def ReorderedMember (first second : String × Document) : Prop :=
  first.1 = second.1 ∧ first.2.Reordered second.2

/-- What is reordered from an object is an object: first its members are reordered in their places,
and then they change places. -/
theorem Reordered.of_object {members : Members} {other : Document}
    (reordered : (Document.object members).Reordered other) :
    ∃ between others, other = .object others ∧ List.Forall₂ ReorderedMember members between ∧
      between.Perm others := by
  generalize object_eq : Document.object members = document at reordered
  have unchanged (part : Members) : List.Forall₂ ReorderedMember part part :=
    List.forall₂_same.mpr fun _ _ => ⟨rfl, .refl _⟩
  induction reordered generalizing members with
  | refl document => exact ⟨members, members, object_eq.symm, unchanged members, .refl _⟩
  | members perm =>
    cases object_eq
    exact ⟨_, _, rfl, unchanged _, perm⟩
  | element front back inside _ => cases object_eq
  | @member front name _ second back inside _ =>
    cases object_eq
    exact ⟨front ++ (name, second) :: back, _, rfl,
      List.rel_append (unchanged front) (.cons ⟨rfl, inside⟩ (unchanged back)), .refl _⟩
  | trans _ _ there_ih onward_ih =>
    obtain ⟨between, others, rfl, there, there_perm⟩ := there_ih object_eq
    obtain ⟨between', others', rfl, onward, onward_perm⟩ := onward_ih rfl
    -- The first exchange of places is moved behind the second change inside members.
    obtain ⟨middle, inside, perm⟩ := List.perm_comp_forall₂ there_perm onward
    exact ⟨middle, others', rfl,
      forall₂_trans (fun head next => ⟨head.1.trans next.1, head.2.trans next.2⟩) there inside,
      perm.trans onward_perm⟩

/-- Every member of what is reordered from an object comes from a member of that object. -/
theorem Reordered.exists_member {members others : Members}
    (reordered : (Document.object members).Reordered (.object others))
    {other : String × Document} (listed : other ∈ others) :
    ∃ member ∈ members, ReorderedMember member other := by
  obtain ⟨between, _, same, pairs, perm⟩ := reordered.of_object
  cases same
  obtain ⟨position, bound, rfl⟩ := List.getElem_of_mem (perm.mem_iff.mpr listed)
  have in_members : position < members.length := pairs.length_eq ▸ bound
  exact ⟨members[position], List.getElem_mem _, pairs.get in_members bound⟩

theorem Reordered.isJson (reordered : first.Reordered second) (json : first.isJson = true) :
    second.isJson = true := by
  induction reordered with
  | refl document => exact json
  | members perm =>
    rw [Document.isJson, membersAreJson_iff] at json ⊢
    exact fun member listed => json member (perm.mem_iff.mpr listed)
  | element front back _ ih =>
    rw [Document.isJson, areJson_iff, List.forall_mem_append, List.forall_mem_cons] at json ⊢
    exact ⟨json.1, ih json.2.1, json.2.2⟩
  | member front name back _ ih =>
    rw [Document.isJson, membersAreJson_iff, List.forall_mem_append, List.forall_mem_cons]
      at json ⊢
    exact ⟨json.1, ih json.2.1, json.2.2⟩
  | trans _ _ there_ih onward_ih => exact onward_ih (there_ih json)

theorem Reordered.isKept {depth : Nat} (reordered : first.Reordered second)
    (kept : first.isKept depth = true) : second.isKept depth = true := by
  induction reordered generalizing depth with
  | refl document => exact kept
  | members perm =>
    cases depth with
    | zero => simp [Document.isKept] at kept
    | succ depth =>
      rw [Document.isKept, membersAreKept_iff] at kept ⊢
      exact fun member listed => kept member (perm.mem_iff.mpr listed)
  | element front back _ ih =>
    cases depth with
    | zero => simp [Document.isKept] at kept
    | succ depth =>
      rw [Document.isKept, areKept_iff, List.forall_mem_append, List.forall_mem_cons] at kept ⊢
      exact ⟨kept.1, ih kept.2.1, kept.2.2⟩
  | member front name back _ ih =>
    cases depth with
    | zero => simp [Document.isKept] at kept
    | succ depth =>
      rw [Document.isKept, membersAreKept_iff, List.forall_mem_append, List.forall_mem_cons]
        at kept ⊢
      exact ⟨kept.1, ih kept.2.1, kept.2.2⟩
  | trans _ _ there_ih onward_ih => exact onward_ih (there_ih kept)

/-- The order of members does not show in the value of a document. -/
theorem Reordered.ofDocument_eq (reordered : first.Reordered second)
    (distinct : first.HasDistinctMembers) : ofDocument first = ofDocument second := by
  induction reordered with
  | refl document => rfl
  | members perm =>
    rw [ofDocument, ofDocument, ofMembers_eq, ofMembers_eq]
    refine congrArg Value.object (sort_eq_of_perm ?_ ?_)
    · rw [map_fst_ofPairs]
      exact distinct.of_object.1
    · rw [ofPairs_eq_map, ofPairs_eq_map]
      exact perm.map _
  | element front back _ ih =>
    have inside := distinct.of_array _ List.mem_append_cons_self
    rw [ofDocument, ofDocument, ofDocuments_eq_map, ofDocuments_eq_map, List.map_append,
      List.map_append, List.map_cons, List.map_cons, ih inside]
  | member front name back _ ih =>
    have inside := distinct.of_object.2 _ List.mem_append_cons_self
    rw [ofDocument, ofDocument, ofPairs_eq_map, ofPairs_eq_map, List.map_append, List.map_append,
      List.map_cons, List.map_cons, ih inside]
  | trans there _ there_eq onward_eq =>
    rw [there_eq distinct, onward_eq (there.hasDistinctMembers distinct)]

end Document
end Json
end Countersign
