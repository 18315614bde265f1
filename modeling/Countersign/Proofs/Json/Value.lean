import Countersign.Proofs.Json.Members
import Countersign.Proofs.Json.Text

/-!
# Values and the documents that spell them

The value of a document has sorted objects, nests no deeper than the document, and holds only
numbers that a numeral denotes.  Such a value is the value of the document that spells it, once its
numbers are restored by their spelling.
-/

namespace Countersign
namespace Json
namespace Value

/-- A value whose objects are sorted, that nests at most `depth` deep, and whose numbers are all
accepted. -/
inductive IsWellFormed (accepts : Number → Prop) : (depth : Nat) → Value → Prop
  | null {depth : Nat} : IsWellFormed accepts depth .null
  | bool {depth : Nat} (value : Bool) : IsWellFormed accepts depth (.bool value)
  | number {depth : Nat} {number : Number} (accepted : accepts number) :
    IsWellFormed accepts depth (.number number)
  | string {depth : Nat} (text : String) : IsWellFormed accepts depth (.string text)
  | array {depth : Nat} {elements : List Value}
    (wellFormed : ∀ element ∈ elements, IsWellFormed accepts depth element) :
    IsWellFormed accepts (depth + 1) (.array elements)
  | object {depth : Nat} {members : List (String × Value)} (sorted : IsSorted members)
    (wellFormed : ∀ member ∈ members, IsWellFormed accepts depth member.2) :
    IsWellFormed accepts (depth + 1) (.object members)

/-- A number occurs in a value. -/
inductive HasNumber (number : Number) : Value → Prop
  | number : HasNumber number (.number number)
  | array {elements : List Value} {element : Value} (listed : element ∈ elements)
    (inside : HasNumber number element) : HasNumber number (.array elements)
  | object {members : List (String × Value)} {member : String × Value} (listed : member ∈ members)
    (inside : HasNumber number member.2) : HasNumber number (.object members)

variable {accepts : Number → Prop} {depth : Nat} {value : Value}

theorem IsWellFormed.imp {permits : Number → Prop} (wellFormed : value.IsWellFormed accepts depth)
    (implied : ∀ number, value.HasNumber number → accepts number → permits number) :
    value.IsWellFormed permits depth := by
  induction wellFormed with
  | null => exact .null
  | bool value => exact .bool value
  | number accepted => exact .number (implied _ .number accepted)
  | string text => exact .string text
  | array _ ih =>
    exact .array fun element listed =>
      ih element listed fun number inside => implied number (.array listed inside)
  | object sorted _ ih =>
    exact .object sorted fun member listed =>
      ih member listed fun number inside => implied number (.object listed inside)

theorem IsWellFormed.mono (wellFormed : value.IsWellFormed accepts depth) {more : Nat}
    (le : depth ≤ more) : value.IsWellFormed accepts more := by
  induction wellFormed generalizing more with
  | null => exact .null
  | bool value => exact .bool value
  | number accepted => exact .number accepted
  | string text => exact .string text
  | array _ ih =>
    obtain ⟨deeper, rfl⟩ := Nat.exists_eq_add_of_le' (Nat.lt_of_lt_of_le (Nat.succ_pos _) le)
    exact .array fun element listed => ih element listed (Nat.le_of_succ_le_succ le)
  | object sorted _ ih =>
    obtain ⟨deeper, rfl⟩ := Nat.exists_eq_add_of_le' (Nat.lt_of_lt_of_le (Nat.succ_pos _) le)
    exact .object sorted fun member listed => ih member listed (Nat.le_of_succ_le_succ le)

theorem IsWellFormed.accepts_of_hasNumber {number : Number}
    (wellFormed : value.IsWellFormed accepts depth) (inside : value.HasNumber number) :
    accepts number := by
  induction wellFormed with
  | null => cases inside
  | bool value => cases inside
  | number accepted =>
    cases inside
    exact accepted
  | string text => cases inside
  | array _ ih =>
    cases inside with
    | array listed inside => exact ih _ listed inside
  | object _ _ ih =>
    cases inside with
    | object listed inside => exact ih _ listed inside

theorem IsWellFormed.of_object {members : List (String × Value)}
    (wellFormed : (Value.object members).IsWellFormed accepts depth) :
    IsSorted members ∧
      ∀ member ∈ members, member.2.IsWellFormed accepts (depth - 1) := by
  cases wellFormed with
  | object sorted members_formed => exact ⟨sorted, members_formed⟩

theorem toDocuments_eq_map (elements : List Value) :
    toDocuments elements = elements.map toDocument := by
  induction elements with
  | nil => rw [toDocuments, List.map_nil]
  | cons first rest ih => rw [toDocuments, ih, List.map_cons]

theorem toMembers_eq_map (members : List (String × Value)) :
    toMembers members = members.map fun member => (member.1, member.2.toDocument) := by
  induction members with
  | nil => rw [toMembers, List.map_nil]
  | cons first rest ih => rw [toMembers, ih, List.map_cons]

theorem ofDocuments_eq_map (elements : List Document) :
    ofDocuments elements = elements.map ofDocument := by
  induction elements with
  | nil => rw [ofDocuments, List.map_nil]
  | cons first rest ih => rw [ofDocuments, ih, List.map_cons]

theorem ofPairs_eq_map (members : Members) :
    ofPairs members = members.map fun member => (member.1, ofDocument member.2) := by
  induction members with
  | nil => rw [ofPairs, List.map_nil]
  | cons first rest ih => rw [ofPairs, ih, List.map_cons]

theorem map_fst_ofPairs (members : Members) :
    (ofPairs members).map Prod.fst = members.map Prod.fst := by
  rw [ofPairs_eq_map, List.map_map]
  rfl

end Value

namespace Document

theorem areKept_iff {depth : Nat} {elements : List Document} :
    areKept depth elements = true ↔ ∀ element ∈ elements, element.isKept depth = true := by
  induction elements with
  | nil => simp [areKept]
  | cons first rest ih => simp [areKept, ih]

theorem membersAreKept_iff {depth : Nat} {members : Members} :
    membersAreKept depth members = true ↔ ∀ member ∈ members, member.2.isKept depth = true := by
  induction members with
  | nil => simp [membersAreKept]
  | cons first rest ih => simp [membersAreKept, ih]

theorem areJson_iff {elements : List Document} :
    areJson elements = true ↔ ∀ element ∈ elements, element.isJson = true := by
  induction elements with
  | nil => simp [areJson]
  | cons first rest ih => simp [areJson, ih]

theorem membersAreJson_iff {members : Members} :
    membersAreJson members = true ↔ ∀ member ∈ members, member.2.isJson = true := by
  induction members with
  | nil => simp [membersAreJson]
  | cons first rest ih => simp [membersAreJson, ih]

end Document

/-- A number that some numeral denotes. -/
def Number.IsDenoted (number : Number) : Prop :=
  ∃ numeral : Numeral, numeral.denotation? = some number

/-- A number whose spelling is a numeral that denotes it. -/
def Number.IsRestored (number : Number) : Prop :=
  (Numeral.ofNumber number).IsSpelled ∧ (Numeral.ofNumber number).denotation? = some number

namespace Numeral

theorem denotation?_eq_some_natural {numeral : Numeral} {value : Nat}
    (denoted : numeral.denotation? = some (.natural value)) : value ≤ maxNatural := by
  simp only [denotation?] at denoted
  split at denoted
  · rename_i integer _
    split at denoted
    · rename_i bounds
      cases denoted
      omega
    · split at denoted <;> simp at denoted
  · simp at denoted

theorem denotation?_eq_some_negative {numeral : Numeral} {value : Int}
    (denoted : numeral.denotation? = some (.negative value)) : minInt64 ≤ value ∧ value < 0 := by
  simp only [denotation?] at denoted
  split at denoted
  · split at denoted
    · cases denoted
    · split at denoted
      · rename_i bounds
        cases denoted
        exact bounds
      · simp at denoted
  · simp at denoted

end Numeral

/-- Integers are restored; binary numbers have to be shown to be. -/
theorem Number.IsDenoted.isRestored {number : Number} (denoted : number.IsDenoted)
    (real : ∀ value, number = .real value → number.IsRestored) : number.IsRestored := by
  obtain ⟨numeral, denotes⟩ := denoted
  cases number with
  | natural value =>
    exact ⟨Numeral.isSpelled_ofInt value, Numeral.denotation?_ofInt_natural
      (Numeral.denotation?_eq_some_natural denotes)⟩
  | negative value =>
    obtain ⟨least, below⟩ := Numeral.denotation?_eq_some_negative denotes
    exact ⟨Numeral.isSpelled_ofInt value, Numeral.denotation?_ofInt_negative least below⟩
  | real value => exact real value rfl

namespace Value

variable {depth : Nat} {value : Value}

mutual

/-- The value of a document that can be kept is well-formed. -/
theorem isWellFormed_ofDocument : ∀ {depth : Nat} {document : Document},
    document.isKept depth = true → (ofDocument document).IsWellFormed Number.IsDenoted depth
  | _, .null, _ => by
    rw [ofDocument]
    exact .null
  | _, .bool value, _ => by
    rw [ofDocument]
    exact .bool value
  | _, .number numeral, kept => by
    rw [Document.isKept] at kept
    obtain ⟨number, denoted⟩ := Option.isSome_iff_exists.mp kept
    rw [ofDocument, denoted]
    exact .number ⟨numeral, denoted⟩
  | _, .string text, _ => by
    rw [ofDocument]
    exact .string text
  | 0, .array elements, kept => by simp [Document.isKept] at kept
  | depth + 1, .array elements, kept => by
    rw [Document.isKept] at kept
    rw [ofDocument]
    exact .array (isWellFormed_ofDocuments kept)
  | 0, .object members, kept => by simp [Document.isKept] at kept
  | depth + 1, .object members, kept => by
    rw [Document.isKept] at kept
    rw [ofDocument, ofMembers_eq]
    exact .object (isSorted_sort _) fun member listed =>
      isWellFormed_ofPairs kept member (mem_of_mem_sort listed)
  | _, .broken _, kept => by simp [Document.isKept] at kept

theorem isWellFormed_ofDocuments : ∀ {depth : Nat} {elements : List Document},
    Document.areKept depth elements = true →
      ∀ value ∈ ofDocuments elements, value.IsWellFormed Number.IsDenoted depth
  | _, [], _ => by
    rw [ofDocuments]
    exact fun _ impossible => nomatch impossible
  | depth, first :: rest, kept => by
    rw [Document.areKept, Bool.and_eq_true] at kept
    rw [ofDocuments]
    intro value listed
    rcases List.mem_cons.mp listed with here | there
    · rw [here]
      exact isWellFormed_ofDocument kept.1
    · exact isWellFormed_ofDocuments kept.2 value there

theorem isWellFormed_ofPairs : ∀ {depth : Nat} {members : Members},
    Document.membersAreKept depth members = true →
      ∀ member ∈ ofPairs members, member.2.IsWellFormed Number.IsDenoted depth
  | _, [], _ => by
    rw [ofPairs]
    exact fun _ impossible => nomatch impossible
  | depth, (name, document) :: rest, kept => by
    rw [Document.membersAreKept, Bool.and_eq_true] at kept
    rw [ofPairs]
    intro member listed
    rcases List.mem_cons.mp listed with here | there
    · rw [here]
      exact isWellFormed_ofDocument kept.1
    · exact isWellFormed_ofPairs kept.2 member there

end

/-- A value is the value of the document that spells it. -/
theorem ofDocument_toDocument (wellFormed : value.IsWellFormed Number.IsRestored depth) :
    ofDocument value.toDocument = value := by
  induction wellFormed with
  | null => rw [toDocument, ofDocument]
  | bool value => rw [toDocument, ofDocument]
  | number restored =>
    rw [toDocument, ofDocument, restored.2]
    rfl
  | string text => rw [toDocument, ofDocument]
  | array _ ih =>
    rw [toDocument, ofDocument, toDocuments_eq_map, ofDocuments_eq_map, List.map_map]
    exact congrArg Value.array ((List.map_congr_left ih).trans (List.map_id _))
  | @object depth members sorted _ ih =>
    have same : ofPairs (toMembers members) = members := by
      have unchanged (member) (listed : member ∈ members) :
          (member.1, ofDocument member.2.toDocument) = member := by
        rw [ih member listed]
      rw [toMembers_eq_map, ofPairs_eq_map, List.map_map]
      exact (List.map_congr_left unchanged).trans (List.map_id members)
    rw [toDocument, ofDocument, same, ofMembers_eq, sort_of_isSorted sorted]

theorem isKept_toDocument (wellFormed : value.IsWellFormed Number.IsRestored depth) :
    value.toDocument.isKept depth = true := by
  induction wellFormed with
  | null => simp [toDocument, Document.isKept]
  | bool value => simp [toDocument, Document.isKept]
  | number restored =>
    rw [toDocument, Document.isKept, restored.2]
    rfl
  | string text => simp [toDocument, Document.isKept]
  | array _ ih =>
    rw [toDocument, Document.isKept, toDocuments_eq_map, Document.areKept_iff]
    simpa using ih
  | object _ _ ih =>
    rw [toDocument, Document.isKept, toMembers_eq_map, Document.membersAreKept_iff]
    intro member listed
    obtain ⟨own, own_listed, rfl⟩ := List.mem_map.mp listed
    exact ih own own_listed

theorem isSpelled_toDocument (wellFormed : value.IsWellFormed Number.IsRestored depth) :
    value.toDocument.IsSpelled := by
  induction wellFormed with
  | null =>
    rw [toDocument]
    exact .null
  | bool value =>
    rw [toDocument]
    exact .bool value
  | number restored =>
    rw [toDocument]
    exact .number restored.1
  | string text =>
    rw [toDocument]
    exact .string text
  | array _ ih =>
    rw [toDocument, toDocuments_eq_map]
    apply Document.IsSpelled.array
    simpa using ih
  | object _ _ ih =>
    rw [toDocument, toMembers_eq_map]
    apply Document.IsSpelled.object
    intro member listed
    obtain ⟨own, own_listed, rfl⟩ := List.mem_map.mp listed
    exact ih own own_listed

end Value
end Json
end Countersign
