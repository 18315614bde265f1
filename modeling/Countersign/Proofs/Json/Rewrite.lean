import Countersign.Proofs.Json.Persistence

/-!
# Patches that rewrite a value

Laid over the value it was read from, what is written for a part changes only the members that are
written otherwise than they stand there.  Such a patch is a rewriting: it changes members and
elements in place and fills in absent members, and nothing else.
-/

namespace Countersign
namespace Json

/-- Which parts of a value are messages.  Members without a schema of their own hold no message. -/
inductive Schema where
  | any
  | message (fields : List (String × Schema))
  | list (element : Schema)

/-- Every message of a value is null or an object. -/
inductive Schema.Fits : Schema → Value → Prop
  | any (value : Value) : Fits .any value
  | null (fields : List (String × Schema)) : Fits (.message fields) .null
  | object {fields : List (String × Schema)} {members : List (String × Value)}
    (inside : ∀ name schema, (name, schema) ∈ fields →
      ∀ value, Value.lookup? name members = some value → Fits schema value) :
    Fits (.message fields) (.object members)
  | array {element : Schema} {elements : List Value}
    (inside : ∀ value ∈ elements, Fits element value) : Fits (.list element) (.array elements)
  | other {element : Schema} {value : Value} (kind : ∀ elements, value ≠ .array elements) :
    Fits (.list element) value

namespace Value

variable {members : List (String × Value)}

/-- The value of the member with a name, if there is an object that has one. -/
def member? (name : String) (value? : Option Value) : Option Value :=
  lookup? name (ownMembers value?)

/-- The members with the member of one name changed. -/
def changeMembers (name : String) (change : Value → Value) (members : List (String × Value)) :
    List (String × Value) :=
  members.map fun member => if member.1 = name then (member.1, change member.2) else member

/-- An object with the member of one name changed; anything else stays. -/
def changeMember (name : String) (change : Value → Value) : Value → Value
  | .object members => .object (changeMembers name change members)
  | value => value

/-- An array with every element changed; anything else stays. -/
def changeElements (change : Value → Value) : Value → Value
  | .array elements => .array (elements.map change)
  | value => value

/-- The members with a filling put in, unless the member of its name counts as present. -/
def fillMembers (isPresent : Value → Bool) (name : String) (filling : Value)
    (members : List (String × Value)) : List (String × Value) :=
  if (lookup? name members).any isPresent then members else put name filling members

/-- An object with a filling put in, unless the member of its name counts as present; anything else
stays. -/
def fillMember (isPresent : Value → Bool) (name : String) (filling : Value) : Value → Value
  | .object members => .object (fillMembers isPresent name filling members)
  | value => value

theorem IsSorted.changeMembers (sorted : IsSorted members) (name : String)
    (change : Value → Value) : IsSorted (changeMembers name change members) := by
  have name_kept (member : String × Value) :
      (if member.1 = name then (member.1, change member.2) else member).1 = member.1 := by
    split <;> rfl
  refine List.pairwise_map.mpr (sorted.imp fun before => ?_)
  rw [name_kept, name_kept]
  exact before

theorem changeMembers_cons (key name : String) (change : Value → Value) (value : Value)
    (rest : List (String × Value)) :
    changeMembers key change ((name, value) :: rest) =
      (name, if name = key then change value else value) :: changeMembers key change rest := by
  rw [changeMembers, List.map_cons]
  split <;> rfl

theorem lookup?_changeMembers (name key : String) (change : Value → Value)
    (members : List (String × Value)) :
    lookup? name (changeMembers key change members) =
      if key = name then (lookup? name members).map change else lookup? name members := by
  induction members with
  | nil =>
    rw [changeMembers, List.map_nil, lookup?_nil]
    split <;> rfl
  | cons first rest ih =>
    obtain ⟨own, value⟩ := first
    rw [changeMembers_cons, lookup?_cons, lookup?_cons, ih]
    by_cases here : own = name
    · subst here
      by_cases changed : own = key
      · simp [changed]
      · simp [changed, Ne.symm changed]
    · simp [here]

theorem IsSorted.fillMembers (sorted : IsSorted members) (isPresent : Value → Bool) (name : String)
    (filling : Value) : IsSorted (fillMembers isPresent name filling members) := by
  rw [Value.fillMembers]
  split
  · exact sorted
  · exact sorted.put name filling

theorem lookup?_fillMembers (isPresent : Value → Bool) (name key : String) (filling : Value)
    (members : List (String × Value)) :
    lookup? name (fillMembers isPresent key filling members) =
      if key = name then
        if (lookup? name members).any isPresent then lookup? name members else some filling
      else lookup? name members := by
  rw [fillMembers]
  by_cases here : key = name
  · subst here
    rw [if_pos rfl]
    split
    · rfl
    · rw [lookup?_put, if_pos rfl]
  · rw [if_neg here]
    split
    · rfl
    · rw [lookup?_put, if_neg here]

/-- A patch of an object is known from what a lookup finds for every name. -/
theorem patch_object_eq {base overlay target : List (String × Value)} (base_sorted : IsSorted base)
    (overlay_sorted : IsSorted overlay) (target_sorted : IsSorted target)
    (same : ∀ name, patchMember? (lookup? name base) (lookup? name overlay) = lookup? name target) :
    (Value.object base).patch (.object overlay) = .object target := by
  rw [patch]
  refine congrArg Value.object
    ((isSorted_patchMembers base_sorted overlay).ext target_sorted fun name => ?_)
  rw [lookup?_patchMembers name overlay_sorted.nodup, same name]

end Value

namespace Decoder

open Value

variable {α β : Type} {schema : Schema} {decode : Decoder α} {describes : α → β → Prop}
  {written : β → Value} {rewrite : Value → Value} {base? : Option Value}

/-- What is written for a part, laid over the value it was read from, is a rewriting of that value.
-/
def Rewrites (schema : Schema) (decode : Decoder α) (describes : α → β → Prop)
    (written : β → Value) (rewrite : Value → Value) : Prop :=
  ∀ ⦃base : Value⦄ ⦃record : α⦄ ⦃part : β⦄, base.IsOrdered → schema.Fits base →
    decode base.toDocument = .ok record → describes record part →
      base.patch (written part) = rewrite base

/-- An optional value that is ordered and fits a schema, if it is there. -/
def IsRegular (schema : Schema) (base? : Option Value) : Prop :=
  ∀ base, base? = some base → base.IsOrdered ∧ schema.Fits base

theorem isRegular_member {members : List (String × Value)} {fields : List (String × Schema)}
    (ordered : (Value.object members).IsOrdered)
    (fits : (Schema.message fields).Fits (.object members)) {name : String}
    (listed : (name, schema) ∈ fields) : IsRegular schema (lookup? name members) := by
  intro value found
  obtain ⟨_, formed⟩ := ordered
  cases fits with
  | object inside =>
    exact ⟨⟨_, formed.of_object.2 _ (mem_of_lookup? found)⟩, inside name schema listed value found⟩

theorem isRegular_any {members : List (String × Value)} (ordered : (Value.object members).IsOrdered)
    (name : String) : IsRegular .any (lookup? name members) := by
  intro value found
  obtain ⟨_, formed⟩ := ordered
  exact ⟨⟨_, formed.of_object.2 _ (mem_of_lookup? found)⟩, .any value⟩

/-- A string is written as it stands. -/
theorem rewrites_string : Rewrites .any string Eq .string id := by
  rintro base text _ - - read rfl
  rw [string_eq_ok_iff.mp read, patch_string, id]

/-- A text that is left out when it is empty is written as it stands, or left out as it was. -/
theorem patchMember?_text {text part : String}
    (read : string.optionally (.ok "") base? = .ok text) (same : text = part) :
    patchMember? base? (text? part) = base? := by
  subst same
  rw [text?]
  split
  · exact patchMember?_none base?
  · rename_i nonempty
    cases base? with
    | none =>
      cases read
      exact absurd rfl nonempty
    | some base => rw [string_eq_ok_iff.mp read, patchMember?_string]

theorem Rewrites.required {fault : DecodeError} {record : α} {part : β}
    (rewrites : Rewrites schema decode describes written rewrite)
    (regular : IsRegular schema base?)
    (read : decode.optionally (.error fault) base? = .ok record)
    (described : describes record part) :
    patchMember? base? (some (written part)) = base?.map rewrite := by
  cases base? with
  | none => cases read
  | some base =>
    obtain ⟨ordered, fits⟩ := regular base rfl
    exact congrArg some (rewrites ordered fits read described)

theorem Rewrites.nullable {record? : Option α} {part? : Option β}
    (rewrites : Rewrites schema decode describes written rewrite)
    (null_kept : rewrite .null = .null) (regular : IsRegular schema base?)
    (read : (Decoder.nullable decode).optionally (.ok none) base? = .ok record?)
    (described : Option.Rel describes record? part?) :
    patchMember? base? (part?.map written) = base?.map rewrite := by
  cases base? with
  | none =>
    cases read
    cases described
    rfl
  | some base =>
    cases described with
    | none =>
      rw [nullable_eq_ok_none_iff.mp read, Option.map_none, patchMember?_none, Option.map_some,
        null_kept]
    | some described =>
      obtain ⟨ordered, fits⟩ := regular base rfl
      exact congrArg some (rewrites ordered fits (nullable_eq_ok_some_iff.mp read).2 described)

/-- An optional part that is written as it stands keeps the value it was read from. -/
theorem Rewrites.nullable_kept {written : α → Value} {record? part? : Option α}
    (rewrites : Rewrites schema decode Eq written id) (regular : IsRegular schema base?)
    (read : (Decoder.nullable decode).optionally (.ok none) base? = .ok record?)
    (same : record? = part?) : patchMember? base? (part?.map written) = base? := by
  have described : Option.Rel Eq record? part? := by
    subst same
    cases record? <;> simp
  rw [rewrites.nullable rfl regular read described, Option.map_id, id]

private theorem patchElements_eq_map {elements : List Value} {records : List α} {parts : List β}
    (rewrites : Rewrites schema decode describes written rewrite)
    (ordered : ∀ element ∈ elements, element.IsOrdered)
    (fits : ∀ element ∈ elements, schema.Fits element) (read : AreRead decode elements records)
    (described : List.Forall₂ describes records parts) :
    patchElements elements (parts.map written) = elements.map rewrite := by
  induction read generalizing parts with
  | nil =>
    cases described
    rfl
  | @cons element record elements records element_read _ ih =>
    cases described with
    | @cons _ part _ parts first rest =>
      rw [List.map_cons, patchElements, List.map_cons,
        rewrites (ordered _ List.mem_cons_self) (fits _ List.mem_cons_self) element_read first,
        ih (fun element listed => ordered element (List.mem_cons_of_mem _ listed))
          (fun element listed => fits element (List.mem_cons_of_mem _ listed)) rest]

/-- The elements of a list are rewritten in place; an absent list is written as an empty one. -/
theorem Rewrites.list {records : List α} {parts : List β}
    (rewrites : Rewrites schema decode describes written rewrite)
    (regular : IsRegular (.list schema) base?)
    (read : (Decoder.list decode).optionally (.ok []) base? = .ok records)
    (described : List.Forall₂ describes records parts) :
    patchMember? base? (some (.array (parts.map written))) =
      some ((base?.map (changeElements rewrite)).getD (.array [])) := by
  cases base? with
  | none =>
    cases read
    cases described
    rfl
  | some base =>
    obtain ⟨elements, rfl, elements_read⟩ := list_eq_ok_iff.mp read
    obtain ⟨ordered, fits⟩ := regular _ rfl
    have elements_fit : ∀ element ∈ elements, schema.Fits element := by
      cases fits with
      | array inside => exact inside
      | other kind => exact absurd rfl (kind elements)
    have same : elements.length = (parts.map written).length := by
      rw [List.length_map, elements_read.length_eq, described.length_eq]
    rw [patchMember?, patch_array_of_length_eq same,
      patchElements_eq_map rewrites ordered.of_array elements_fit elements_read described]
    rfl

/-- A list that is not empty and whose elements are written as they stand keeps the value it was
read from. -/
theorem Rewrites.list_kept {written : α → Value} {records : List α}
    (rewrites : Rewrites schema decode Eq written id) (regular : IsRegular (.list schema) base?)
    (read : (Decoder.list decode).optionally (.ok []) base? = .ok records)
    (nonempty : records ≠ []) :
    patchMember? base? (some (.array (records.map written))) = base? := by
  have described : List.Forall₂ Eq records records := List.forall₂_refl records
  rw [rewrites.list regular read described]
  cases base? with
  | none =>
    cases read
    exact absurd rfl nonempty
  | some base =>
    obtain ⟨elements, rfl, -⟩ := list_eq_ok_iff.mp read
    rw [Option.map_some, Option.getD_some, changeElements, List.map_id]

/-- A record that is not null is read from the members of an object. -/
theorem exists_object {names : List String} {record_fields : Fields α}
    {fields : List (String × Schema)} {base : Value} {record : α}
    (ordered : base.IsOrdered) (fits : (Schema.message fields).Fits base)
    (read : Decoder.record names record_fields base.toDocument = .ok record) :
    ∃ members, base = .object members ∧ IsSorted members ∧
      record_fields (toMembers members) = .ok record := by
  obtain ⟨members, members_eq, fields_ok⟩ := record_eq_ok_iff.mp read
  cases fits with
  | null => cases members_eq
  | object =>
    cases members_eq
    obtain ⟨_, formed⟩ := ordered
    exact ⟨members, rfl, formed.of_object.1, fields_ok⟩

/-- A record of one member is written as it stands if the member is. -/
theorem rewrites_single {name : String} {absent : Except DecodeError α}
    (kept : ∀ {base? : Option Value} {record : α} {part : β}, IsRegular schema base? →
      decode.optionally absent base? = .ok record → describes record part →
        patchMember? base? (some (written part)) = base?) :
    Rewrites (.message [(name, schema)]) (Decoder.record [name] (Fields.member name absent decode))
      describes (fun part => .object [(name, written part)]) id := by
  intro base record part ordered fits read described
  obtain ⟨members, rfl, sorted, fields_ok⟩ := exists_object ordered fits read
  rw [Fields.member_eq_ok_iff sorted.nodup] at fields_ok
  refine patch_object_eq sorted (isSorted_singleton _ _) sorted fun other => ?_
  rw [lookup?_cons]
  split
  · rename_i same
    subst same
    exact kept (isRegular_member ordered fits List.mem_cons_self) fields_ok described
  · rw [lookup?_nil, patchMember?_none]

end Decoder
end Json
end Countersign
