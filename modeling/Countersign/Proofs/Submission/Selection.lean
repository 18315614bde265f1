import Countersign.Proofs.Outcome
import Countersign.Submission.Course

/-!
# The new entry in an answer

An answer whose identifiers are distinct tells which entry is new or leaves it open.  What it tells
does not depend on the order of its entries.
-/

namespace Countersign

open Json

namespace CreatedEntries

variable {answer : CreatedEntries} {entry : LogEntry}

/-- An entry is told to be new: it has the identifier that is given, or no entry has and it is the
only one. -/
def Identifies (answer : CreatedEntries) (entry : LogEntry) : Prop :=
  (∃ id, answer.etag? = some id ∧ (id, entry) ∈ answer.entries) ∨
    (∀ id, answer.etag? = some id → id ∉ answer.entries.map Prod.fst) ∧
      ∃ id, answer.entries = [(id, entry)]

theorem lookup_eq_some_iff (map : answer.IsMap) {id : String} :
    answer.entries.lookup id = some entry ↔ (id, entry) ∈ answer.entries := by
  rw [List.lookup_eq_some_iff]
  constructor
  · rintro ⟨front, back, split, -⟩
    simp [split]
  · intro listed
    obtain ⟨front, back, split⟩ := List.append_of_mem listed
    refine ⟨front, back, split, fun earlier in_front => ?_⟩
    rw [IsMap, split, List.map_append, List.nodup_append] at map
    have differs := map.2.2 earlier.1 (List.mem_map_of_mem in_front) id (by simp)
    exact bne_iff_ne.mpr differs.symm

theorem lookup_eq_none_iff {id : String} :
    answer.entries.lookup id = none ↔ id ∉ answer.entries.map Prod.fst := by
  rw [List.lookup_eq_none_iff, List.mem_map, not_exists]
  constructor
  · rintro absent member ⟨listed, rfl⟩
    exact bne_iff_ne.mp (absent member listed) rfl
  · intro absent member listed
    exact bne_iff_ne.mpr fun same => absent member ⟨listed, same.symm⟩

/-- The order of the entries does not matter. -/
theorem Identifies.perm {other : CreatedEntries} (same_etag : other.etag? = answer.etag?)
    (reordered : other.entries.Perm answer.entries) (identified : answer.Identifies entry) :
    other.Identifies entry := by
  rcases identified with ⟨id, is_etag, listed⟩ | ⟨unnamed, id, alone⟩
  · exact .inl ⟨id, same_etag.trans is_etag, reordered.mem_iff.mpr listed⟩
  · refine .inr ⟨fun id is_etag listed => ?_, id, ?_⟩
    · exact unnamed id (same_etag ▸ is_etag) ((reordered.map Prod.fst).mem_iff.mp listed)
    · exact List.perm_singleton.mp (alone ▸ reordered)

end CreatedEntries

namespace LogEntries

theorem mem_map_fst_put {id name : String} {entry : LogEntry} {entries : LogEntries} :
    name ∈ (put id entry entries).map Prod.fst ↔ name = id ∨ name ∈ entries.map Prod.fst := by
  induction entries with
  | nil => simp [put]
  | cons first rest ih =>
    rw [put]
    by_cases same : first.1 = id
    · simp [same]
    · rw [if_neg same, List.map_cons, List.mem_cons, ih, List.map_cons, List.mem_cons]
      exact or_left_comm

theorem nodup_put {id : String} {entry : LogEntry} {entries : LogEntries}
    (distinct : (entries.map Prod.fst).Nodup) : ((put id entry entries).map Prod.fst).Nodup := by
  induction entries with
  | nil => exact List.pairwise_singleton _ _
  | cons first rest ih =>
    rw [List.map_cons, List.nodup_cons] at distinct
    rw [put]
    by_cases same : first.1 = id
    · rw [if_pos same, List.map_cons, List.nodup_cons]
      exact distinct
    · rw [if_neg same, List.map_cons, List.nodup_cons, mem_map_fst_put]
      exact ⟨not_or.mpr ⟨same, distinct.1⟩, ih distinct.2⟩

private theorem nodup_of_foldlM {members : Members} {entries decoded : LogEntries}
    (distinct : (entries.map Prod.fst).Nodup)
    (done : members.foldlM (fun entries (member : String × Document) =>
      (LogEntry.decoder member.2).map fun entry => put member.1 entry entries) entries =
        .ok decoded) :
    (decoded.map Prod.fst).Nodup := by
  induction members generalizing entries with
  | nil =>
    cases done
    exact distinct
  | cons first rest ih =>
    rw [List.foldlM_cons] at done
    obtain ⟨next, next_done, rest_done⟩ := Outcome.bind_eq_ok_iff.mp done
    obtain ⟨entry, -, rfl⟩ := Outcome.map_eq_ok_iff.mp next_done
    exact ih (nodup_put distinct) rest_done

theorem nodup_of_decoder {document : Document} {entries : LogEntries}
    (decoded : decoder document = .ok entries) : (entries.map Prod.fst).Nodup := by
  cases document with
  | object members =>
    have nothing_repeated : (([] : LogEntries).map Prod.fst).Nodup := List.nodup_nil
    exact nodup_of_foldlM nothing_repeated decoded
  | _ => cases decoded

end LogEntries

/-- The client that is built for a log answers with distinct identifiers. -/
theorem LogClient.isMap_of_createEntry {client : LogClient} {userAgent : String}
    {request : EntryRequest} {attempts : Nat → Retry.Attempt} {cancelAt? : Option Nat}
    {answer : CreatedEntries}
    (answered : client.createEntry userAgent request attempts cancelAt? = .ok answer) :
    answer.IsMap := by
  unfold createEntry call at answered
  split at answered
  · obtain ⟨response, -, read⟩ := Outcome.bind_eq_ok_iff.mp answered
    unfold created at read
    split at read
    · rename_i entries decoded
      cases read
      obtain ⟨_, of_document, done⟩ := Outcome.bind_eq_ok_iff.mp decoded
      split at done
      · cases done
        exact LogEntries.nodup_of_decoder of_document
      · cases done
    · cases read
  · cases answered

end Countersign
