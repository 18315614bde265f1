import Countersign.Json.Patch
import Countersign.Proofs.Json.Value

/-!
# What a patch does

A lookup in patched members finds the patched value, the old one where the patch says nothing, or
the one that the patch brings along.  A patch keeps values well-formed, changes nothing when it is
laid over itself, and nothing more when it is laid over the same value again.
-/

namespace Countersign
namespace Json
namespace Value

/-- What becomes of an optional member under an optional change. -/
def patchMember? : (base? change? : Option Value) → Option Value
  | base?, none => base?
  | none, some change => some change
  | some base, some change => some (base.patch change)

@[simp]
theorem patchMember?_none (base? : Option Value) : patchMember? base? none = base? := by
  cases base? <;> rfl

theorem lookup?_patchMembers (name : String) {overlay : List (String × Value)}
    (distinct : (overlay.map Prod.fst).Nodup) (base : List (String × Value)) :
    lookup? name (patchMembers base overlay) =
      patchMember? (lookup? name base) (lookup? name overlay) := by
  induction overlay generalizing base with
  | nil => rw [patchMembers, lookup?_nil, patchMember?_none]
  | cons first rest ih =>
    obtain ⟨key, change⟩ := first
    obtain ⟨key_absent, rest_distinct⟩ := List.nodup_cons.mp distinct
    rw [patchMembers, ih rest_distinct, lookup?_put, lookup?_cons]
    split
    · rename_i same
      subst same
      rw [lookup?_eq_none_of_not_mem key_absent, patchMember?_none]
      cases lookup? key base <;> rfl
    · rfl

theorem isSorted_patchMembers {base : List (String × Value)} (sorted : IsSorted base)
    (overlay : List (String × Value)) : IsSorted (patchMembers base overlay) := by
  induction overlay generalizing base with
  | nil => rwa [patchMembers]
  | cons first rest ih =>
    obtain ⟨key, change⟩ := first
    rw [patchMembers]
    exact ih (sorted.put key _)

theorem length_patchElements {base overlay : List Value} (same : base.length = overlay.length) :
    (patchElements base overlay).length = overlay.length := by
  induction base generalizing overlay with
  | nil =>
    cases overlay with
    | nil => rfl
    | cons change rest => cases same
  | cons first base ih =>
    cases overlay with
    | nil => cases same
    | cons change rest =>
      rw [patchElements, List.length_cons, List.length_cons, ih (Nat.succ.inj same)]

theorem mem_patchElements {base overlay : List Value} {element : Value}
    (listed : element ∈ patchElements base overlay) :
    ∃ first ∈ base, ∃ change ∈ overlay, element = first.patch change := by
  induction base generalizing overlay with
  | nil => simp [patchElements] at listed
  | cons first base ih =>
    cases overlay with
    | nil => simp [patchElements] at listed
    | cons change rest =>
      rw [patchElements] at listed
      rcases List.mem_cons.mp listed with here | there
      · exact ⟨first, List.mem_cons_self, change, List.mem_cons_self, here⟩
      · obtain ⟨first, first_listed, change, change_listed, same⟩ := ih there
        exact ⟨first, List.mem_cons_of_mem _ first_listed, change,
          List.mem_cons_of_mem _ change_listed, same⟩

/-- Whether a value is an object. -/
def isObject : Value → Bool
  | .object _ => true
  | _ => false

theorem exists_eq_object {value : Value} (kind : value.isObject = true) :
    ∃ members, value = .object members := by
  cases value with
  | object members => exact ⟨members, rfl⟩
  | _ => cases kind

theorem patch_object_of_not_object {base : Value} (other : base.isObject = false)
    (overlay : List (String × Value)) : base.patch (.object overlay) = .object overlay := by
  cases base with
  | object members => cases other
  | _ => rw [patch]; all_goals simp

theorem patch_array_of_length_eq {base overlay : List Value} (same : base.length = overlay.length) :
    (Value.array base).patch (.array overlay) = .array (patchElements base overlay) := by
  rw [patch, if_pos same]

theorem patch_array_of_other {base : Value} {overlay : List Value}
    (other : ¬ ∃ elements, base = .array elements ∧ elements.length = overlay.length) :
    base.patch (.array overlay) = .array overlay := by
  cases base with
  | array elements => rw [patch, if_neg fun same => other ⟨elements, rfl, same⟩]
  | _ => rw [patch]; all_goals simp

@[simp]
theorem patch_string (base : Value) (text : String) : base.patch (.string text) = .string text := by
  cases base <;> rw [patch] <;> simp

variable {accepts : Number → Prop} {depth : Nat}

/-- A well-formed value stays well-formed under a well-formed patch. -/
theorem IsWellFormed.patch {base overlay : Value} (base_formed : base.IsWellFormed accepts depth)
    (overlay_formed : overlay.IsWellFormed accepts depth) :
    (base.patch overlay).IsWellFormed accepts depth := by
  induction overlay_formed generalizing base with
  | null => cases base <;> exact .null
  | bool value => cases base <;> exact .bool value
  | number accepted => cases base <;> exact .number accepted
  | string text =>
    rw [patch_string]
    exact .string text
  | @array depth overlay overlay_formed ih =>
    by_cases same : ∃ elements, base = .array elements ∧ elements.length = overlay.length
    · obtain ⟨elements, rfl, same⟩ := same
      cases base_formed with
      | array elements_formed =>
        rw [patch_array_of_length_eq same]
        refine .array fun element listed => ?_
        obtain ⟨first, first_listed, change, change_listed, rfl⟩ := mem_patchElements listed
        exact ih change change_listed (elements_formed first first_listed)
    · rw [patch_array_of_other same]
      exact .array overlay_formed
  | @object depth overlay sorted overlay_formed ih =>
    cases base_formed with
    | @object _ members members_sorted members_formed =>
      have patched_sorted := isSorted_patchMembers members_sorted overlay
      rw [Value.patch]
      refine .object patched_sorted fun member listed => ?_
      have found := lookup?_of_mem patched_sorted.nodup listed
      rw [lookup?_patchMembers member.1 sorted.nodup] at found
      cases changed : lookup? member.1 overlay with
      | none =>
        rw [changed, patchMember?_none] at found
        exact members_formed _ (mem_of_lookup? found)
      | some change =>
        have change_listed := mem_of_lookup? changed
        cases kept : lookup? member.1 members with
        | none =>
          rw [changed, kept] at found
          cases found
          exact overlay_formed _ change_listed
        | some old =>
          rw [changed, kept] at found
          have patched : old.patch change = member.2 := Option.some.inj found
          rw [← patched]
          exact ih _ change_listed (members_formed _ (mem_of_lookup? kept))
    | _ =>
      rw [patch_object_of_not_object rfl]
      exact .object sorted overlay_formed

private theorem patchElements_self {elements : List Value}
    (self : ∀ element ∈ elements, element.patch element = element) :
    patchElements elements elements = elements := by
  induction elements with
  | nil => rfl
  | cons first rest ih =>
    rw [patchElements, self first List.mem_cons_self,
      ih fun element listed => self element (List.mem_cons_of_mem _ listed)]

/-- A patch laid over itself changes nothing. -/
theorem IsWellFormed.patch_self {value : Value} (formed : value.IsWellFormed accepts depth) :
    value.patch value = value := by
  induction formed with
  | null => rfl
  | bool value => rfl
  | number accepted => rfl
  | string text => rfl
  | array _ ih => rw [patch_array_of_length_eq rfl, patchElements_self ih]
  | @object depth members sorted _ ih =>
    rw [Value.patch]
    refine congrArg Value.object ((isSorted_patchMembers sorted members).ext sorted fun name => ?_)
    rw [lookup?_patchMembers name sorted.nodup]
    cases found : lookup? name members with
    | none => rfl
    | some value => exact congrArg some (ih _ (mem_of_lookup? found))

private theorem patchElements_patchElements {base overlay : List Value}
    (same : base.length = overlay.length)
    (again : ∀ change ∈ overlay, ∀ first ∈ base,
      (first.patch change).patch change = first.patch change) :
    patchElements (patchElements base overlay) overlay = patchElements base overlay := by
  induction base generalizing overlay with
  | nil =>
    cases overlay with
    | nil => rfl
    | cons change rest => cases same
  | cons first base ih =>
    cases overlay with
    | nil => cases same
    | cons change rest =>
      rw [patchElements, patchElements, again change List.mem_cons_self first List.mem_cons_self,
        ih (Nat.succ.inj same) fun change listed first first_listed =>
          again change (List.mem_cons_of_mem _ listed) first (List.mem_cons_of_mem _ first_listed)]

/-- A patch that is laid over a value again changes nothing more. -/
theorem IsWellFormed.patch_patch {permits : Number → Prop} {height : Nat} {base overlay : Value}
    (base_formed : base.IsWellFormed permits height)
    (overlay_formed : overlay.IsWellFormed accepts depth) :
    (base.patch overlay).patch overlay = base.patch overlay := by
  induction overlay_formed generalizing base height with
  | null => cases base <;> rfl
  | bool value => cases base <;> rfl
  | number accepted => cases base <;> rfl
  | string text => rw [patch_string, patch_string]
  | @array depth overlay overlay_formed ih =>
    by_cases same : ∃ elements, base = .array elements ∧ elements.length = overlay.length
    · obtain ⟨elements, rfl, same⟩ := same
      cases base_formed with
      | array elements_formed =>
        rw [patch_array_of_length_eq same, patch_array_of_length_eq (length_patchElements same),
          patchElements_patchElements same fun change listed first first_listed =>
            ih change listed (elements_formed first first_listed)]
    · rw [patch_array_of_other same]
      exact (IsWellFormed.array overlay_formed).patch_self
  | @object depth overlay sorted overlay_formed ih =>
    cases kind : base.isObject with
    | false =>
      rw [patch_object_of_not_object kind overlay]
      exact (IsWellFormed.object sorted overlay_formed).patch_self
    | true =>
      obtain ⟨members, rfl⟩ := exists_eq_object kind
      obtain ⟨members_sorted, members_formed⟩ := base_formed.of_object
      have patched_sorted := isSorted_patchMembers members_sorted overlay
      rw [Value.patch, Value.patch]
      refine congrArg Value.object
        ((isSorted_patchMembers patched_sorted overlay).ext patched_sorted fun name => ?_)
      rw [lookup?_patchMembers name sorted.nodup, lookup?_patchMembers name sorted.nodup]
      cases changed : lookup? name overlay with
      | none => rw [patchMember?_none]
      | some change =>
        have change_listed := mem_of_lookup? changed
        cases kept : lookup? name members with
        | none => exact congrArg some (overlay_formed _ change_listed).patch_self
        | some old =>
          exact congrArg some (ih _ change_listed (members_formed _ (mem_of_lookup? kept)))

end Value
end Json
end Countersign
