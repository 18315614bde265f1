import Countersign.Json.Encode
import Countersign.Proofs.Json.Value

/-!
# The values of written records

A lookup in a written record finds what stands in the slot of that name, and nothing where the slot
is empty.
-/

namespace Countersign
namespace Json
namespace Slot

/-- What stands in a slot under a name. -/
def value? (name : String) (slot : Slot) : Option Value :=
  slot.bind fun member => if member.1 = name then some (Value.ofDocument member.2) else none

@[simp]
theorem value?_always (name key : String) (document : Document) :
    value? name (always key document) =
      if key = name then some (Value.ofDocument document) else none :=
  rfl

@[simp]
theorem value?_unlessEmpty (name key : String) (empty : Bool) (document : Document) :
    value? name (unlessEmpty empty key document) =
      if key = name then (if empty then none else some (Value.ofDocument document)) else none := by
  cases empty <;> simp [unlessEmpty, value?]

@[simp]
theorem value?_of? {α : Type} (name key : String) (value? : Option α) (toDocument : α → Document) :
    Slot.value? name (of? key value? toDocument) =
      if key = name then value?.map fun value => Value.ofDocument (toDocument value) else none := by
  cases value? <;> simp [of?, Slot.value?]

/-- A slot that is empty or holds a well-formed value. -/
def IsWellFormed (accepts : Number → Prop) (depth : Nat) (slot : Slot) : Prop :=
  ∀ member, slot = some member → (Value.ofDocument member.2).IsWellFormed accepts depth

section WellFormed

variable {accepts : Number → Prop} {depth : Nat} {key : String}

theorem isWellFormed_always {document : Document}
    (formed : (Value.ofDocument document).IsWellFormed accepts depth) :
    IsWellFormed accepts depth (always key document) := by
  intro member same
  cases same
  exact formed

theorem isWellFormed_unlessEmpty {empty : Bool} {document : Document}
    (formed : (Value.ofDocument document).IsWellFormed accepts depth) :
    IsWellFormed accepts depth (unlessEmpty empty key document) := by
  intro member same
  cases empty <;> cases same
  exact formed

theorem isWellFormed_of? {α : Type} {value? : Option α} {toDocument : α → Document}
    (formed : ∀ value, (Value.ofDocument (toDocument value)).IsWellFormed accepts depth) :
    IsWellFormed accepts depth (of? key value? toDocument) := by
  intro member same
  cases value? <;> cases same
  exact formed _

end WellFormed

end Slot

namespace Value

/-- The value of a text that is left out when it is empty. -/
def text? (text : String) : Option Value :=
  if text.isEmpty then none else some (.string text)

/-- The members of a written record. -/
def ofSlots (slots : List Slot) : List (String × Value) :=
  sort (ofPairs (slots.filterMap id))

theorem ofDocument_record (slots : List Slot) :
    ofDocument (.record slots) = .object (ofSlots slots) := by
  rw [Document.record, ofDocument, ofMembers_eq, ofSlots]

theorem ofDocument_list {α : Type} (toDocument : α → Document) (values : List α) :
    ofDocument (.list toDocument values) =
      .array (values.map fun value => ofDocument (toDocument value)) := by
  rw [Document.list, ofDocument, ofDocuments_eq_map, List.map_map]
  rfl

/-- The value of a record with one member. -/
theorem ofDocument_record_always (name : String) (document : Document) :
    ofDocument (.record [.always name document]) = .object [(name, ofDocument document)] := by
  have filled : [Slot.always name document].filterMap id = [(name, document)] := rfl
  rw [ofDocument_record, ofSlots, filled, ofPairs, ofPairs]
  rfl

theorem isSorted_ofSlots (slots : List Slot) : IsSorted (ofSlots slots) :=
  isSorted_sort _

theorem isWellFormed_ofSlots {accepts : Number → Prop} {depth : Nat} {slots : List Slot}
    (formed : ∀ slot ∈ slots, slot.IsWellFormed accepts depth) :
    (Value.object (ofSlots slots)).IsWellFormed accepts (depth + 1) := by
  refine .object (isSorted_ofSlots slots) fun member listed => ?_
  have pair_listed := mem_of_mem_sort listed
  rw [ofPairs_eq_map] at pair_listed
  obtain ⟨filled, filled_listed, rfl⟩ := List.mem_map.mp pair_listed
  obtain ⟨slot, slot_listed, slot_eq⟩ := List.mem_filterMap.mp filled_listed
  exact formed slot slot_listed filled slot_eq

private theorem lookup?_foldl_put (name : String) (slots : List Slot)
    (start : List (String × Value)) :
    lookup? name ((ofPairs (slots.filterMap id)).foldl
      (fun sorted member => put member.1 member.2 sorted) start) =
      slots.foldl (fun found slot => (slot.value? name).or found) (lookup? name start) := by
  induction slots generalizing start with
  | nil => rw [List.filterMap_nil, ofPairs]; rfl
  | cons slot rest ih =>
    cases slot with
    | none => exact ih start
    | some member =>
      obtain ⟨key, document⟩ := member
      have present : (some (key, document) :: rest).filterMap id =
          (key, document) :: rest.filterMap id := rfl
      rw [present, ofPairs, List.foldl_cons, ih, lookup?_put, List.foldl_cons, Slot.value?]
      by_cases same : key = name <;> simp [same]

/-- A lookup finds what the slots hold under a name. -/
theorem lookup?_ofSlots (name : String) (slots : List Slot) :
    lookup? name (ofSlots slots) =
      slots.foldl (fun found slot => (slot.value? name).or found) none :=
  lookup?_foldl_put name slots []

end Value
end Json
end Countersign
