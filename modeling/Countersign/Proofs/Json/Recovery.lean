import Countersign.Json.Encode
import Countersign.Proofs.Json.Decode
import Countersign.Proofs.Json.Text

/-!
# Written documents are decoded

A decoder recovers values if it gives back each of them from the document that is written for it.
The decoder of a record does, when its fields do, whichever members are left out.
-/

namespace Countersign
namespace Json

variable {α β : Type}

/-- A document of nothing but texts that nests at most `depth` deep. -/
inductive Document.IsTextual : (depth : Nat) → Document → Prop
  | string {depth : Nat} (text : String) : IsTextual depth (.string text)
  | array {depth : Nat} {elements : List Document}
    (textual : ∀ element ∈ elements, IsTextual depth element) :
    IsTextual (depth + 1) (.array elements)
  | object {depth : Nat} {members : Members}
    (textual : ∀ member ∈ members, IsTextual depth member.2) :
    IsTextual (depth + 1) (.object members)

namespace Document.IsTextual

variable {depth : Nat} {document : Document}

theorem mono (textual : document.IsTextual depth) {more : Nat} (le : depth ≤ more) :
    document.IsTextual more := by
  induction textual generalizing more with
  | string text => exact .string text
  | array _ ih =>
    obtain ⟨deeper, rfl⟩ := Nat.exists_eq_add_of_le' (Nat.lt_of_lt_of_le (Nat.succ_pos _) le)
    exact .array fun element listed => ih element listed (Nat.le_of_succ_le_succ le)
  | object _ ih =>
    obtain ⟨deeper, rfl⟩ := Nat.exists_eq_add_of_le' (Nat.lt_of_lt_of_le (Nat.succ_pos _) le)
    exact .object fun member listed => ih member listed (Nat.le_of_succ_le_succ le)

theorem isSpelled (textual : document.IsTextual depth) : document.IsSpelled := by
  induction textual with
  | string text => exact .string text
  | array _ ih => exact .array ih
  | object _ ih => exact .object ih

theorem isKept (textual : document.IsTextual depth) : document.isKept depth = true := by
  induction textual with
  | string text => simp [Document.isKept]
  | array _ ih =>
    rw [Document.isKept, areKept_iff]
    exact ih
  | object _ ih =>
    rw [Document.isKept, membersAreKept_iff]
    exact ih

theorem ne_null (textual : document.IsTextual depth) : document ≠ .null := by
  rintro rfl
  cases textual

end Document.IsTextual

namespace Slot

variable {depth : Nat} {name : String} {names : List String} {slots : List Slot}

/-- A slot that is empty or holds a textual member with the name. -/
def Holds (depth : Nat) (name : String) (slot : Slot) : Prop :=
  ∀ member, slot = some member → member.1 = name ∧ member.2.IsTextual depth

theorem Holds.always {document : Document} (textual : document.IsTextual depth) :
    Holds depth name (always name document) := by
  intro member same
  cases same
  exact ⟨rfl, textual⟩

theorem Holds.unlessEmpty {document : Document} (textual : document.IsTextual depth)
    (empty : Bool) : Holds depth name (unlessEmpty empty name document) := by
  intro member same
  cases empty <;> cases same
  exact ⟨rfl, textual⟩

theorem Holds.of? {toDocument : α → Document}
    (textual : ∀ value, (toDocument value).IsTextual depth) (value? : Option α) :
    Holds depth name (of? name value? toDocument) := by
  intro member same
  cases value? <;> cases same
  exact ⟨rfl, textual _⟩

/-- The members in slots have some of the names, in their order. -/
theorem names_sublist (holds : List.Forall₂ (Holds depth) names slots) :
    ((slots.filterMap id).map Prod.fst).Sublist names := by
  induction holds with
  | nil => exact .slnil
  | @cons name slot names slots here _ ih =>
    cases slot with
    | none => exact ih.cons name
    | some member =>
      rw [← (here member rfl).1]
      exact ih.cons_cons member.1

theorem isTextual_of_mem (holds : List.Forall₂ (Holds depth) names slots)
    {member : String × Document} (listed : member ∈ slots.filterMap id) :
    member.2.IsTextual depth := by
  obtain ⟨slot, in_slots, filled⟩ := List.mem_filterMap.mp listed
  obtain ⟨position, bound, rfl⟩ := List.getElem_of_mem in_slots
  have here := holds.get (holds.length_eq ▸ bound) bound
  exact (here member filled).2

theorem isTextual_record (holds : List.Forall₂ (Holds depth) names slots) :
    (Document.record slots).IsTextual (depth + 1) :=
  .object fun _ => isTextual_of_mem holds

/-- A lookup finds what stands in the slot of a name. -/
theorem lookup_eq (holds : List.Forall₂ (Holds depth) names slots) (distinct : names.Nodup)
    {slot : Slot} (placed : (name, slot) ∈ names.zip slots) :
    (slots.filterMap id).lookup name = slot.map Prod.snd := by
  induction names generalizing slots with
  | nil => cases placed
  | cons first names ih =>
    cases holds with
    | @cons _ head _ slots here later =>
      obtain ⟨first_absent, rest_distinct⟩ := List.nodup_cons.mp distinct
      have present : (head :: slots).filterMap id = head.toList ++ slots.filterMap id := by
        cases head <;> rfl
      rw [present, List.lookup_append]
      rcases List.mem_cons.mp placed with same | elsewhere
      · cases same
        have nowhere_later : (slots.filterMap id).lookup name = none := by
          rw [List.lookup_eq_none_iff]
          intro member listed
          rw [bne_iff_ne]
          rintro rfl
          exact first_absent ((names_sublist later).subset (List.mem_map_of_mem listed))
        cases slot with
        | none => simpa using nowhere_later
        | some member =>
          obtain ⟨key, document⟩ := member
          cases (here _ rfl).1
          simp
      · have differs : name ≠ first := by
          rintro rfl
          exact first_absent (List.of_mem_zip elsewhere).1
        have not_here : head.toList.lookup name = none := by
          cases head with
          | none => rfl
          | some member =>
            rw [List.lookup_eq_none_iff]
            intro other listed
            cases List.mem_singleton.mp listed
            rw [(here _ rfl).1]
            exact bne_iff_ne.mpr differs
        rw [not_here]
        exact ih later rest_distinct elsewhere

/-- Slots for names, among whose members a name finds what stands in its slot. -/
structure Finds (names : List String) (slots : List Slot) : Prop where
  distinct : ((slots.filterMap id).map Prod.fst).Nodup
  lookup_eq {name : String} {slot : Slot} (placed : (name, slot) ∈ names.zip slots) :
    (slots.filterMap id).lookup name = slot.map Prod.snd

theorem finds (holds : List.Forall₂ (Holds depth) names slots) (distinct : names.Nodup) :
    Finds names slots :=
  ⟨(names_sublist holds).nodup distinct, lookup_eq holds distinct⟩

end Slot

namespace Fields

variable {members : Members}

theorem map_eq_ok {change : α → β} {field : Fields α} {value : α}
    (read : field members = .ok value) : (change <$> field) members = .ok (change value) :=
  map_eq_ok_iff.mpr ⟨value, read, rfl⟩

theorem seq_eq_ok {first : Fields (α → β)} {second : Fields α} {change : α → β} {value : α}
    (first_read : first members = .ok change) (second_read : second members = .ok value) :
    (first <*> second) members = .ok (change value) :=
  seq_eq_ok_iff.mpr ⟨change, value, first_read, second_read, rfl⟩

/-- Members that have a known name or pass the test never stand in the way. -/
theorem others_eq_ok {names : List String} {test : String × Document → Bool}
    (passed : ∀ member ∈ members, member.1 ∈ names ∨ test member = true) :
    others names test members = .ok () := by
  have no_failure : firstFailure? (fun member => names.contains member.1 || test member)
      members = none := by
    rw [firstFailure?, List.findIdx?_eq_none_iff]
    intro member listed
    rcases passed member listed with known | tested
    · simp [known]
    · simp [tested]
  rw [others, no_failure]

end Fields

namespace Decoder

/-- A record is read from slots from which its fields are read. -/
theorem record_slots_eq_ok {names : List String} {slots : List Slot} {depth : Nat}
    {fields : Fields α} {value : α} (holds : List.Forall₂ (Slot.Holds depth) names slots)
    (read : fields (slots.filterMap id) = .ok value) :
    Decoder.record names fields (.record slots) = .ok value := by
  rw [Document.record, Decoder.record, Fields.result_eq_ok_iff, Fields.seqLeft_eq_ok_iff]
  refine ⟨read, (), Fields.others_eq_ok fun member listed => .inl ?_⟩
  exact (Slot.names_sublist holds).subset (List.mem_map_of_mem listed)

/-- A decoder that gives back every value from the document that is written for it, which is
textual and nests at most `depth` deep. -/
structure Recovers (decode : Decoder α) (toDocument : α → Document) (depth : Nat) : Prop where
  decode_eq (value : α) : decode (toDocument value) = .ok value
  isTextual (value : α) : (toDocument value).IsTextual depth

namespace Recovers

variable {decode : Decoder α} {toDocument : α → Document} {depth : Nat}

theorem string : Recovers Decoder.string .string 0 :=
  ⟨fun _ => rfl, .string⟩

theorem stringVia {read? : String → Option α} {write : α → String}
    (read_write : ∀ value, read? (write value) = some value) :
    Recovers (Decoder.stringVia read?) (fun value => .string (write value)) 0 := by
  refine ⟨fun value => ?_, fun value => .string _⟩
  rw [Decoder.stringVia, read_write]

theorem list (recovers : Recovers decode toDocument depth) :
    Recovers (Decoder.list decode) (Document.list toDocument) (depth + 1) := by
  constructor
  case decode_eq =>
    intro values
    rw [Document.list, Decoder.list, Outcome.mapM_eq_ok_iff, List.forall₂_map_left_iff,
      List.forall₂_same]
    exact fun value _ => recovers.decode_eq value
  case isTextual =>
    intro values
    refine .array fun element listed => ?_
    obtain ⟨value, -, rfl⟩ := List.mem_map.mp listed
    exact recovers.isTextual value

theorem orDefault (recovers : Recovers decode toDocument depth) (default : α) :
    Recovers (Decoder.orDefault default decode) toDocument depth := by
  refine ⟨fun value => ?_, recovers.isTextual⟩
  rw [Decoder.orDefault]
  · exact recovers.decode_eq value
  · exact (recovers.isTextual value).ne_null

theorem nullable_eq (recovers : Recovers decode toDocument depth) (value : α) :
    Decoder.nullable decode (toDocument value) = .ok (some value) := by
  rw [Decoder.nullable, recovers.decode_eq]
  · rfl
  · exact (recovers.isTextual value).ne_null

section Record

variable {names : List String} {slots : List Slot} {name : String}

/-- A record is recovered when its fields find their values in its slots. -/
theorem record {fields : Fields α} {slots : α → List Slot} (distinct : names.Nodup)
    (holds : ∀ value, List.Forall₂ (Slot.Holds depth) names (slots value))
    (read : ∀ value, Slot.Finds names (slots value) →
      fields ((slots value).filterMap id) = .ok value) :
    Recovers (Decoder.record names fields) (fun value => .record (slots value)) (depth + 1) := by
  refine ⟨fun value => ?_, fun value => Slot.isTextual_record (holds value)⟩
  exact record_slots_eq_ok (holds value) (read value (Slot.finds (holds value) distinct))

theorem member_always (recovers : Recovers decode toDocument depth)
    (finds : Slot.Finds names slots) {missing : Except DecodeError α} {value : α}
    (placed : (name, Slot.always name (toDocument value)) ∈ names.zip slots) :
    Fields.member name missing decode (slots.filterMap id) = .ok value := by
  rw [Fields.member_eq_ok_iff_lookup finds.distinct, finds.lookup_eq placed]
  exact recovers.decode_eq value

theorem member_unlessEmpty (recovers : Recovers decode toDocument depth)
    (finds : Slot.Finds names slots) {default value : α} {empty : Bool}
    (eq_default : empty = true → value = default)
    (placed : (name, Slot.unlessEmpty empty name (toDocument value)) ∈ names.zip slots) :
    Fields.optional name default decode (slots.filterMap id) = .ok value := by
  rw [Fields.optional, Fields.member_eq_ok_iff_lookup finds.distinct, finds.lookup_eq placed]
  cases empty with
  | true => rw [eq_default rfl]; rfl
  | false => exact recovers.decode_eq value

theorem nullable_of? (recovers : Recovers decode toDocument depth)
    (finds : Slot.Finds names slots) {value? : Option α}
    (placed : (name, Slot.of? name value? toDocument) ∈ names.zip slots) :
    Fields.nullable name decode (slots.filterMap id) = .ok value? := by
  rw [Fields.nullable, Fields.member_eq_ok_iff_lookup finds.distinct, finds.lookup_eq placed]
  cases value? with
  | none => rfl
  | some value => exact recovers.nullable_eq value

/-- A record of one member that is always written. -/
theorem single (recovers : Recovers decode toDocument depth) (name : String)
    (missing : Except DecodeError α) :
    Recovers (Decoder.record [name] (Fields.member name missing decode))
      (fun value => .record [.always name (toDocument value)]) (depth + 1) := by
  refine .record (List.pairwise_singleton _ name) (fun value => ?_) fun value finds => ?_
  · exact .cons (.always (recovers.isTextual value)) .nil
  · exact recovers.member_always finds List.mem_cons_self

end Record

/-- Both written forms of a value are read back. -/
theorem decode_text (recovers : Recovers decode toDocument depth) (value : α) :
    (Text.read (toDocument value).compact).decode decode = .ok value ∧
      (Text.read (toDocument value).indented).decode decode = .ok value := by
  have spelled := (recovers.isTextual value).isSpelled
  rw [Text.read_compact spelled, Text.read_indented spelled, Text.decode,
    recovers.decode_eq]
  exact ⟨rfl, rfl⟩

end Recovers
end Decoder
end Json
end Countersign
