import Mathlib.Data.List.Forall2
import Countersign.Proofs.Json.Correspondence

/-!
# Mended documents

Where the bytes of a text encode no character, a part of its document is broken.  When characters
are put in their place the part is mended: it becomes a text, or a member gets a name.  Nothing else
of the document changes, and a decoder that takes the broken parts for nothing, because it passes
over them, decodes the same value.
-/

namespace Countersign
namespace Json
namespace Document

mutual

/-- A document and what becomes of it when characters are put where the text has none. -/
inductive Mended : Document → Document → Prop
  | same (document : Document) : Mended document document
  | text (text : String) : Mended (.broken .notText) (.string text)
  | array {elements others : List Document} (pairs : List.Forall₂ Mended elements others) :
    Mended (.array elements) (.array others)
  | object {members others : Members} (pairs : List.Forall₂ MendedMember members others) :
    Mended (.object members) (.object others)

/-- A member and what becomes of it.  It keeps its name; one without a name may get any, with a
value that is JSON if its own was. -/
inductive MendedMember : String × Document → String × Document → Prop
  | named (name : String) {document other : Document} (mended : Mended document other) :
    MendedMember (name, document) (name, other)
  | nameless (name : String) {other : Document} (json : other.isJson = true) :
    MendedMember ("", .broken .namelessMember) (name, other)
  | lost (other : String × Document) : MendedMember ("", .broken .notJson) other

end

mutual

/-- What could be passed over can still be. -/
theorem Mended.isJson : ∀ {document other : Document}, document.Mended other →
    document.isJson = true → other.isJson = true
  | _, _, .same _, json => json
  | _, _, .text _, _ => rfl
  | _, _, .array pairs, json => by
    rw [Document.isJson] at json ⊢
    exact areJson_of_mended pairs json
  | _, _, .object pairs, json => by
    rw [Document.isJson] at json ⊢
    exact membersAreJson_of_mended pairs json

theorem areJson_of_mended : ∀ {elements others : List Document},
    List.Forall₂ Mended elements others → areJson elements = true → areJson others = true
  | _, _, .nil, _ => by rw [areJson]
  | _, _, .cons head rest, json => by
    rw [areJson, Bool.and_eq_true] at json ⊢
    exact ⟨head.isJson json.1, areJson_of_mended rest json.2⟩

theorem membersAreJson_of_mended : ∀ {members others : Members},
    List.Forall₂ MendedMember members others → membersAreJson members = true →
      membersAreJson others = true
  | _, _, .nil, _ => by rw [membersAreJson]
  | _, _, .cons (.named _ mended) rest, json => by
    rw [membersAreJson, Bool.and_eq_true] at json ⊢
    exact ⟨mended.isJson json.1, membersAreJson_of_mended rest json.2⟩
  | _, _, .cons (.nameless _ other_json) rest, json => by
    rw [membersAreJson, Bool.and_eq_true] at json ⊢
    exact ⟨other_json, membersAreJson_of_mended rest json.2⟩
  | _, _, .cons (.lost _) rest, json => by
    simp [membersAreJson, Document.isJson] at json

end

mutual

/-- Whether nothing in a document is broken. -/
def isWhole : Document → Bool
  | .broken _ => false
  | .array elements => areWhole elements
  | .object members => membersAreWhole members
  | _ => true

/-- Whether nothing in any of the elements is broken. -/
def areWhole : List Document → Bool
  | [] => true
  | element :: rest => isWhole element && areWhole rest

/-- Whether nothing in the values of the members is broken. -/
def membersAreWhole : List (String × Document) → Bool
  | [] => true
  | (_, value) :: rest => isWhole value && membersAreWhole rest

end

/-- A member that a record uses or passes over has a name, so it keeps that, and it is still used or
passed over. -/
theorem MendedMember.of_passed {names : List String} (unnamed : "" ∉ names)
    {member other : String × Document} (mended : MendedMember member other)
    (passed : member.1 ∈ names ∨ Fields.isPassedOver member = true) :
    member.1 = other.1 ∧ member.2.Mended other.2 ∧
      (other.1 ∈ names ∨ Fields.isPassedOver other = true) := by
  cases mended with
  | @named name document other mended =>
    refine ⟨rfl, mended, passed.imp id fun passed => ?_⟩
    rw [Fields.isPassedOver_iff] at passed ⊢
    refine ⟨fun broken => passed.1 ?_, mended.isJson passed.2⟩
    dsimp only at broken
    rw [broken] at mended
    cases mended
    rfl
  | nameless name json =>
    rcases passed with listed | passed
    · exact absurd listed unnamed
    · cases passed
  | lost other =>
    rcases passed with listed | passed
    · exact absurd listed unnamed
    · simp [Fields.isPassedOver, Document.isJson] at passed

theorem forall₂_of_passed {names : List String} (unnamed : "" ∉ names) {members others : Members}
    (pairs : List.Forall₂ MendedMember members others)
    (passed : ∀ member ∈ members, member.1 ∈ names ∨ Fields.isPassedOver member = true) :
    List.Forall₂ (fun member other => member.1 = other.1 ∧ member.2.Mended other.2)
        members others ∧
      ∀ other ∈ others, other.1 ∈ names ∨ Fields.isPassedOver other = true := by
  induction pairs with
  | nil => exact ⟨.nil, nofun⟩
  | cons head _ ih =>
    rw [List.forall_mem_cons] at passed
    obtain ⟨same_name, mended, head_passed⟩ := head.of_passed unnamed passed.1
    obtain ⟨rest_pairs, rest_passed⟩ := ih passed.2
    exact ⟨.cons ⟨same_name, mended⟩ rest_pairs,
      List.forall_mem_cons.mpr ⟨head_passed, rest_passed⟩⟩

end Document

namespace Decoder.Respects

open Document Members

variable {α : Type} {decode : Decoder α}

theorem string_mended : Decoder.string.Respects Mended := by
  intro document other value mended read
  cases mended with
  | same => exact read
  | _ => cases read

theorem stringVia_mended (read? : String → Option α) :
    (Decoder.stringVia read?).Respects Mended := by
  intro document other value mended read
  cases mended with
  | same => exact read
  | _ => cases read

theorem list_mended (respects : decode.Respects Mended) :
    (Decoder.list decode).Respects Mended := by
  intro document other values mended read
  cases mended with
  | same => exact read
  | array pairs => exact respects.mapM pairs read
  | _ => cases read

/-- The members without a name are refused where they stand in a record, so the fields of a record
meet the same names in a mended document. -/
theorem record_mended {names : List String} (unnamed : "" ∉ names) {fields : Fields α}
    (follows : ∀ {members others : Members}, Correspond Mended members others →
      fields.Follows members others) :
    (Decoder.record names fields).Respects Mended := by
  intro document other value mended read
  rw [record_eq_ok_iff_isPassedOver] at read ⊢
  obtain ⟨members, given, fields_read, passed⟩ := read
  cases mended with
  | same => exact ⟨members, given, fields_read, passed⟩
  | text => cases given
  | array pairs =>
    rw [Document.recordMembers?] at given ⊢
    split at given
    case isTrue short =>
      cases given
      refine ⟨_, if_pos (pairs.length_eq ▸ short), follows (correspond_zip names pairs) fields_read,
        fun _ listed => .inl (List.of_mem_zip listed).1⟩
    case isFalse => cases given
  | object pairs =>
    cases given
    obtain ⟨named_pairs, others_passed⟩ := forall₂_of_passed unnamed pairs passed
    exact ⟨_, rfl, follows (correspond_of_perm named_pairs (.refl _)) fields_read, others_passed⟩

end Decoder.Respects

end Json
end Countersign
