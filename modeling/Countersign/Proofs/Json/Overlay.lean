import Countersign.Proofs.Json.Persistence

/-!
# What stands where after a patch

A path leads from a value through members and elements to one of its parts.  After a patch it leads
through the base and the patch together, as long as both have objects or arrays of one length there,
and then to what the patch has in that place, or the base where the patch says nothing.  This
determines the patched value.
-/

namespace Countersign
namespace Json
namespace Value

/-- A step from a value to one of its parts. -/
inductive Step where
  /-- To the member with a name. -/
  | member (name : String)
  /-- To the element at a position. -/
  | element (position : Nat)

/-- The part of a value that a step leads to. -/
def part? : Value → Step → Option Value
  | .object members, .member name => lookup? name members
  | .array elements, .element position => elements[position]?
  | _, _ => none

/-- What stands at the end of a path. -/
def find? : List Step → Value → Option Value
  | [], value => some value
  | step :: path, value => (value.part? step).bind (find? path)

/-- Whether two values are patched part by part: two objects, or two arrays of one length. -/
def merges : (base overlay : Value) → Bool
  | .object _, .object _ => true
  | .array base, .array overlay => base.length = overlay.length
  | _, _ => false

/-- What stands at the end of a path when an overlay lies over a base, either of which may be
absent.  The path goes on in both of them as long as they are patched part by part.  Where they are
not it goes on in the overlay, and where one of them is absent in the other. -/
def findOver? : List Step → (base? overlay? : Option Value) → Option Value
  | [], base?, overlay? => patchMember? base? overlay?
  | path, base?, none => base?.bind (find? path)
  | path, none, some overlay => overlay.find? path
  | step :: path, some base, some overlay =>
    if base.merges overlay then findOver? path (base.part? step) (overlay.part? step)
    else overlay.find? (step :: path)

/-- The result of laying an overlay over a base. -/
inductive IsOverlaid : (base overlay result : Value) → Prop
  /-- Over an object lies an object: the names are those of both, a member of only one of them stays
  as it is, and the members of both with one name are laid over each other. -/
  | object {base overlay result : List (String × Value)}
    (names : ∀ name, name ∈ result.map Prod.fst ↔
      name ∈ base.map Prod.fst ∨ name ∈ overlay.map Prod.fst)
    (kept : ∀ name, name ∉ overlay.map Prod.fst → lookup? name result = lookup? name base)
    (added : ∀ name, name ∉ base.map Prod.fst → lookup? name result = lookup? name overlay)
    (merged : ∀ name old change value, lookup? name base = some old →
      lookup? name overlay = some change → lookup? name result = some value →
      IsOverlaid old change value) :
    IsOverlaid (.object base) (.object overlay) (.object result)
  /-- Over an array lies an array of the same length: so is the result, and the elements are laid
  over each other. -/
  | array {base overlay result : List Value} (base_length : base.length = result.length)
    (overlay_length : overlay.length = result.length)
    (merged : ∀ (position : Nat) old change value, base[position]? = some old →
      overlay[position]? = some change → result[position]? = some value →
      IsOverlaid old change value) :
    IsOverlaid (.array base) (.array overlay) (.array result)
  /-- In all other cases the overlay stands. -/
  | replaced {base overlay : Value} (apart : base.merges overlay = false) :
    IsOverlaid base overlay overlay

/-- A path on which an overlay has nothing to say: it follows members of the overlay, and elements
where the base has an array of the same length, until it comes to a member that the overlay does not
mention. -/
inductive LeavesOut : (base? : Option Value) → (overlay : Value) → List Step → Prop
  | unmentioned {members : List (String × Value)} {name : String} (base? : Option Value)
    (absent : name ∉ members.map Prod.fst) (path : List Step) :
    LeavesOut base? (.object members) (.member name :: path)
  | member {members : List (String × Value)} {name : String} {base? : Option Value} {change : Value}
    {path : List Step} (mentioned : lookup? name members = some change)
    (inside : LeavesOut (lookup? name (ownMembers base?)) change path) :
    LeavesOut base? (.object members) (.member name :: path)
  | element {elements others : List Value} {position : Nat} {change : Value} {path : List Step}
    (same : elements.length = others.length) (mentioned : others[position]? = some change)
    (inside : LeavesOut elements[position]? change path) :
    LeavesOut (some (.array elements)) (.array others) (.element position :: path)

/-! ## Ordered values -/

theorem IsOrdered.patch {base overlay : Value} (base_ordered : base.IsOrdered)
    (overlay_ordered : overlay.IsOrdered) : (base.patch overlay).IsOrdered := by
  obtain ⟨depth, base_formed⟩ := base_ordered
  obtain ⟨height, overlay_formed⟩ := overlay_ordered
  exact ⟨max depth height, (base_formed.mono (le_max_left depth height)).patch
    (overlay_formed.mono (le_max_right depth height))⟩

theorem IsOrdered.patch_self {value : Value} (ordered : value.IsOrdered) :
    value.patch value = value := by
  obtain ⟨depth, formed⟩ := ordered
  exact formed.patch_self

theorem IsOrdered.patch_patch {base overlay : Value} (base_ordered : base.IsOrdered)
    (overlay_ordered : overlay.IsOrdered) :
    (base.patch overlay).patch overlay = base.patch overlay := by
  obtain ⟨depth, base_formed⟩ := base_ordered
  obtain ⟨height, overlay_formed⟩ := overlay_ordered
  exact base_formed.patch_patch overlay_formed

theorem IsOrdered.isSorted {members : List (String × Value)}
    (ordered : (Value.object members).IsOrdered) : IsSorted members := by
  obtain ⟨depth, formed⟩ := ordered
  exact formed.of_object.1

theorem IsOrdered.part? {value part : Value} (ordered : value.IsOrdered) (step : Step)
    (found : value.part? step = some part) : part.IsOrdered := by
  unfold Value.part? at found
  split at found
  · obtain ⟨depth, formed⟩ := ordered
    exact ⟨_, formed.of_object.2 _ (mem_of_lookup? found)⟩
  · exact ordered.of_array _ (List.mem_of_getElem? found)
  · cases found

/-! ## One step after a patch -/

theorem patch_of_not_merges {base overlay : Value} (apart : base.merges overlay = false) :
    base.patch overlay = overlay := by
  cases overlay with
  | object members =>
    refine patch_object_of_not_object ?_ members
    cases base with
    | object own => cases apart
    | _ => rfl
  | array elements =>
    refine patch_array_of_other ?_
    rintro ⟨own, rfl, same⟩
    rw [merges, decide_eq_false_iff_not] at apart
    exact apart same
  | _ => cases base <;> rfl

theorem getElem?_patchElements {base overlay : List Value} (same : base.length = overlay.length)
    (position : Nat) :
    (patchElements base overlay)[position]? = patchMember? base[position]? overlay[position]? := by
  induction base generalizing overlay position with
  | nil =>
    cases overlay with
    | nil => rfl
    | cons change rest => cases same
  | cons first base ih =>
    cases overlay with
    | nil => cases same
    | cons change rest =>
      rw [patchElements]
      cases position with
      | zero => rfl
      | succ position => exact ih (Nat.succ.inj same) position

/-- A step after a patch leads through the base and the overlay together. -/
theorem part?_patch {base overlay : Value} (overlay_ordered : overlay.IsOrdered)
    (together : base.merges overlay = true) (step : Step) :
    (base.patch overlay).part? step = patchMember? (base.part? step) (overlay.part? step) := by
  cases base with
  | object members =>
    cases overlay with
    | object changes =>
      rw [Value.patch]
      cases step with
      | member name => exact lookup?_patchMembers name overlay_ordered.isSorted.nodup members
      | element position => rfl
    | _ => cases together
  | array elements =>
    cases overlay with
    | array changes =>
      rw [merges, decide_eq_true_iff] at together
      rw [patch_array_of_length_eq together]
      cases step with
      | member name => rfl
      | element position => exact getElem?_patchElements together position
    | _ => cases together
  | _ => cases together

/-! ## Paths -/

theorem find?_patchMember? {base? overlay? : Option Value} (base_ordered : AreOrdered base?)
    (overlay_ordered : AreOrdered overlay?) (path : List Step) :
    (patchMember? base? overlay?).bind (find? path) = findOver? path base? overlay? := by
  induction path generalizing base? overlay? with
  | nil =>
    rw [findOver?]
    cases patchMember? base? overlay? <;> rfl
  | cons step path ih =>
    cases overlay? with
    | none =>
      rw [patchMember?_none, findOver?]
      simp
    | some overlay =>
      cases base? with
      | none => rfl
      | some base =>
        have base_own := base_ordered base rfl
        have overlay_own := overlay_ordered overlay rfl
        rw [patchMember?, Option.bind_some, findOver?, find?]
        split
        · rename_i together
          rw [part?_patch overlay_own together]
          exact ih (fun _ => base_own.part? step) fun _ => overlay_own.part? step
        · rename_i apart
          rw [patch_of_not_merges (Bool.eq_false_iff.mpr apart)]
          rfl

/-- What an overlay leaves out stays as it stands in the base. -/
theorem LeavesOut.find?_eq {base? : Option Value} {overlay : Value} {path : List Step}
    (leaves : LeavesOut base? overlay path) (base_ordered : AreOrdered base?)
    (overlay_ordered : overlay.IsOrdered) :
    (patchMember? base? (some overlay)).bind (find? path) = base?.bind (find? path) := by
  have through {members : List (String × Value)} (ordered : (Value.object members).IsOrdered)
      (base? : Option Value) (name : String) (path : List Step) :
      (patchMember? base? (some (.object members))).bind (find? (.member name :: path)) =
        (patchMember? (lookup? name (ownMembers base?)) (lookup? name members)).bind
          (find? path) := by
    rw [patchMember?_object base? ordered.isSorted, Option.bind_some, find?, part?,
      lookup?_patchMembers name ordered.isSorted.nodup]
  have own (base? : Option Value) (name : String) (path : List Step) :
      base?.bind (find? (.member name :: path)) =
        (lookup? name (ownMembers base?)).bind (find? path) := by
    rcases base? with _ | _ | _ | _ | _ | _ | _ <;> rfl
  induction leaves with
  | unmentioned base? absent path =>
    rw [through overlay_ordered, own, lookup?_eq_none_of_not_mem absent, patchMember?_none]
  | @member members name base? change path mentioned inside ih =>
    rw [through overlay_ordered, own, mentioned]
    exact ih (base_ordered.lookup? name) (overlay_ordered.part? (.member name) mentioned)
  | @element elements others position change path same mentioned inside ih =>
    rw [patchMember?, patch_array_of_length_eq same, Option.bind_some, Option.bind_some, find?,
      part?, getElem?_patchElements same, mentioned]
    exact ih (fun _ found => (base_ordered _ rfl).part? (.element position) found)
      (overlay_ordered.part? (.element position) mentioned)

/-! ## The result as a whole -/

theorem mem_map_fst_patchMembers {name : String} {base overlay : List (String × Value)}
    (distinct : (overlay.map Prod.fst).Nodup) :
    name ∈ (patchMembers base overlay).map Prod.fst ↔
      name ∈ base.map Prod.fst ∨ name ∈ overlay.map Prod.fst := by
  rw [← not_iff_not, not_or, ← lookup?_eq_none_iff, ← lookup?_eq_none_iff, ← lookup?_eq_none_iff,
    lookup?_patchMembers name distinct]
  cases lookup? name base <;> cases lookup? name overlay <;> simp [patchMember?]

theorem isOverlaid_of_not_merges {base overlay : Value} (apart : base.merges overlay = false) :
    IsOverlaid base overlay (base.patch overlay) := by
  rw [patch_of_not_merges apart]
  exact .replaced apart

/-- What a patch makes of a base is the patch laid over it. -/
theorem isOverlaid_patch (base : Value) {overlay : Value} (overlay_ordered : overlay.IsOrdered) :
    IsOverlaid base overlay (base.patch overlay) := by
  obtain ⟨depth, formed⟩ := overlay_ordered
  induction formed generalizing base with
  | null | bool | number | string => exact isOverlaid_of_not_merges (by cases base <;> rfl)
  | @array depth changes _ ih =>
    cases together : base.merges (.array changes) with
    | false => exact isOverlaid_of_not_merges together
    | true =>
      cases base with
      | array elements =>
        rw [merges, decide_eq_true_iff] at together
        rw [patch_array_of_length_eq together]
        have length_eq := length_patchElements together
        refine .array (together.trans length_eq.symm) length_eq.symm ?_
        intro position old change value old_found change_found found
        rw [getElem?_patchElements together, old_found, change_found] at found
        cases found
        exact ih change (List.mem_of_getElem? change_found) old
      | _ => cases together
  | @object depth changes sorted _ ih =>
    cases together : base.merges (.object changes) with
    | false => exact isOverlaid_of_not_merges together
    | true =>
      cases base with
      | object members =>
        have found_over (name : String) := lookup?_patchMembers name sorted.nodup members
        rw [Value.patch]
        refine .object (fun name => mem_map_fst_patchMembers sorted.nodup) ?kept ?added ?merged
        case kept =>
          intro name absent
          rw [found_over, lookup?_eq_none_of_not_mem absent, patchMember?_none]
        case added =>
          intro name absent
          rw [found_over, lookup?_eq_none_of_not_mem absent]
          cases lookup? name changes <;> rfl
        case merged =>
          intro name old change value old_found change_found found
          rw [found_over, old_found, change_found] at found
          cases found
          exact ih _ (mem_of_lookup? change_found) old
      | _ => cases together

/-- What it is to lie over a base determines the result. -/
theorem IsOverlaid.eq_patch {base overlay result : Value}
    (overlaid : IsOverlaid base overlay result) (base_ordered : base.IsOrdered)
    (overlay_ordered : overlay.IsOrdered) (result_ordered : result.IsOrdered) :
    result = base.patch overlay := by
  induction overlaid with
  | @object base overlay result names kept added _ ih =>
    have patched_sorted := isSorted_patchMembers base_ordered.isSorted overlay
    rw [Value.patch]
    refine congrArg Value.object (result_ordered.isSorted.ext patched_sorted fun name => ?_)
    rw [lookup?_patchMembers name overlay_ordered.isSorted.nodup]
    cases change_found : lookup? name overlay with
    | none => rw [kept name (lookup?_eq_none_iff.mp change_found), patchMember?_none]
    | some change =>
      cases old_found : lookup? name base with
      | none =>
        rw [added name (lookup?_eq_none_iff.mp old_found), change_found]
        rfl
      | some old =>
        have listed : name ∈ result.map Prod.fst :=
          (names name).mpr (.inr (List.mem_map_of_mem (mem_of_lookup? change_found)))
        obtain ⟨value, found⟩ := exists_lookup?_eq_some listed
        rw [found, patchMember?]
        exact congrArg some (ih name old change value old_found change_found found
          (base_ordered.part? (.member name) old_found)
          (overlay_ordered.part? (.member name) change_found)
          (result_ordered.part? (.member name) found))
  | @array base overlay result base_length overlay_length _ ih =>
    have together : base.length = overlay.length := base_length.trans overlay_length.symm
    rw [patch_array_of_length_eq together]
    refine congrArg Value.array (List.ext_getElem? fun position => ?_)
    rw [getElem?_patchElements together]
    rcases Nat.lt_or_ge position result.length with within | beyond
    · have old_found := List.getElem?_eq_getElem (base_length ▸ within : position < base.length)
      have change_found :=
        List.getElem?_eq_getElem (overlay_length ▸ within : position < overlay.length)
      have found := List.getElem?_eq_getElem within
      rw [old_found, change_found, found, patchMember?]
      exact congrArg some (ih position _ _ _ old_found change_found found
        (base_ordered.part? (.element position) old_found)
        (overlay_ordered.part? (.element position) change_found)
        (result_ordered.part? (.element position) found))
    · rw [List.getElem?_eq_none beyond, List.getElem?_eq_none (base_length ▸ beyond),
        List.getElem?_eq_none (overlay_length ▸ beyond)]
      rfl
  | replaced apart => rw [patch_of_not_merges apart]

theorem isOverlaid_iff {base overlay result : Value} (base_ordered : base.IsOrdered)
    (overlay_ordered : overlay.IsOrdered) (result_ordered : result.IsOrdered) :
    IsOverlaid base overlay result ↔ result = base.patch overlay := by
  constructor
  · exact fun overlaid => overlaid.eq_patch base_ordered overlay_ordered result_ordered
  · rintro rfl
    exact isOverlaid_patch base overlay_ordered

/-- A patch goes as deep as base and overlay are alike.  It makes of them what it is for the one to
lie over the other, and a path through the result leads where it leads in both of them; what the
overlay leaves out stays.  To patch again with the same overlay changes nothing, and neither does it
to patch the overlay with itself. -/
theorem patch_in_depth {base overlay : Value} (base_ordered : base.IsOrdered)
    (overlay_ordered : overlay.IsOrdered) :
    (base.patch overlay).IsOrdered ∧
    (∀ result : Value, result.IsOrdered →
      (IsOverlaid base overlay result ↔ result = base.patch overlay)) ∧
    (∀ path, (base.patch overlay).find? path = findOver? path (some base) (some overlay)) ∧
    (∀ path, LeavesOut (some base) overlay path →
      (base.patch overlay).find? path = base.find? path) ∧
    (base.patch overlay).patch overlay = base.patch overlay ∧
    overlay.patch overlay = overlay := by
  have base_ordered? : AreOrdered (some base) := fun _ same => Option.some.inj same ▸ base_ordered
  have overlay_ordered? : AreOrdered (some overlay) :=
    fun _ same => Option.some.inj same ▸ overlay_ordered
  exact ⟨base_ordered.patch overlay_ordered,
    fun _ => isOverlaid_iff base_ordered overlay_ordered,
    find?_patchMember? base_ordered? overlay_ordered?,
    fun _ leaves => leaves.find?_eq base_ordered? overlay_ordered,
    base_ordered.patch_patch overlay_ordered, overlay_ordered.patch_self⟩

section Sample

private def one : Value := .number (.natural 1)

private def listed : Value :=
  .object [("list", .array [.object [("keep", one), ("v", .string "old")], .null]), ("x", one)]

private def relisted : Value :=
  .object [("added", one), ("list", .array [.object [("v", .string "new")], .string "y"])]

private def merged : Value :=
  .object [("added", one),
    ("list", .array [.object [("keep", one), ("v", .string "new")], .string "y"]), ("x", one)]

private theorem listed_ordered : listed.IsOrdered := by
  refine ⟨3, .object (by unfold IsSorted; decide) ?_⟩
  simp only [List.forall_mem_cons]
  refine ⟨.array ?_, .number trivial, nofun⟩
  simp only [List.forall_mem_cons]
  refine ⟨.object (by unfold IsSorted; decide) ?_, .null, nofun⟩
  simp only [List.forall_mem_cons]
  exact ⟨.number trivial, .string _, nofun⟩

private theorem relisted_ordered : relisted.IsOrdered := by
  refine ⟨3, .object (by unfold IsSorted; decide) ?_⟩
  simp only [List.forall_mem_cons]
  refine ⟨.number trivial, .array ?_, nofun⟩
  simp only [List.forall_mem_cons]
  refine ⟨.object (List.pairwise_singleton _ _) ?_, .string _, nofun⟩
  exact List.forall_mem_singleton.mpr (.string _)

/-- Over a list lies one of the same length, whose first element leaves a member out and whose
second is of another kind. -/
theorem patch_in_depth_sample :
    let path : List Step := [.member "list", .element 0, .member "keep"]
    listed.IsOrdered ∧ relisted.IsOrdered ∧ LeavesOut (some listed) relisted path ∧
      listed.patch relisted = merged ∧ merged.IsOrdered ∧ IsOverlaid listed relisted merged ∧
      merged.find? path = some one ∧ merged.patch relisted = merged := by
  intro path
  have leaves : LeavesOut (some listed) relisted path :=
    .member rfl (.element rfl rfl (.unmentioned _ (by decide) []))
  have patched : listed.patch relisted = merged := rfl
  obtain ⟨ordered, overlaid, -, kept, again, -⟩ := patch_in_depth listed_ordered relisted_ordered
  rw [patched] at ordered overlaid kept again
  exact ⟨listed_ordered, relisted_ordered, leaves, patched, ordered,
    (overlaid merged ordered).mpr rfl, kept path leaves, again⟩

end Sample

end Value
end Json
end Countersign
