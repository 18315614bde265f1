import Mathlib.Data.List.Forall2

/-!
# Outcomes

When a computation that may fail succeeds, and where a failure comes from: for one step after
another, for renamed failures, and for a list that is worked through in order.
-/

namespace Countersign
namespace Outcome

variable {ε δ α β : Type}

theorem bind_eq_ok_iff {first : Except ε α} {next : α → Except ε β} {result : β} :
    first >>= next = .ok result ↔ ∃ value, first = .ok value ∧ next value = .ok result := by
  cases first with
  | ok value =>
    constructor
    · exact fun done => ⟨value, rfl, done⟩
    · rintro ⟨_, same, done⟩
      cases same
      exact done
  | error fault =>
    constructor
    · exact fun done => nomatch done
    · exact fun ⟨_, same, _⟩ => nomatch same

theorem bind_eq_error_iff {first : Except ε α} {next : α → Except ε β} {fault : ε} :
    first >>= next = .error fault ↔
      first = .error fault ∨ ∃ value, first = .ok value ∧ next value = .error fault := by
  cases first with
  | ok value =>
    constructor
    · exact fun failed => .inr ⟨value, rfl, failed⟩
    · rintro (failed | ⟨_, same, failed⟩)
      · cases failed
      · cases same
        exact failed
  | error other =>
    constructor
    · intro failed
      cases failed
      exact .inl rfl
    · rintro (failed | ⟨_, same, _⟩)
      · cases failed
        rfl
      · cases same

theorem map_eq_ok_iff {outcome : Except ε α} {change : α → β} {result : β} :
    outcome.map change = .ok result ↔ ∃ value, outcome = .ok value ∧ change value = result := by
  cases outcome <;> simp [Except.map]

theorem map_eq_error_iff {outcome : Except ε α} {change : α → β} {fault : ε} :
    outcome.map change = .error fault ↔ outcome = .error fault := by
  cases outcome <;> simp [Except.map]

theorem mapError_eq_ok_iff {outcome : Except ε α} {change : ε → δ} {result : α} :
    outcome.mapError change = .ok result ↔ outcome = .ok result := by
  cases outcome <;> simp [Except.mapError]

theorem mapError_eq_error_iff {outcome : Except ε α} {change : ε → δ} {fault : δ} :
    outcome.mapError change = .error fault ↔
      ∃ cause, outcome = .error cause ∧ change cause = fault := by
  cases outcome <;> simp [Except.mapError]

/-- A list is worked through successfully when each element is. -/
theorem mapM_eq_ok_iff {work : α → Except ε β} {elements : List α} {results : List β} :
    elements.mapM work = .ok results ↔
      List.Forall₂ (fun element result => work element = .ok result) elements results := by
  induction elements generalizing results with
  | nil => cases results <;> simp [pure, Except.pure]
  | cons first rest ih =>
    rw [List.mapM_cons, bind_eq_ok_iff]
    constructor
    · rintro ⟨value, first_ok, more⟩
      obtain ⟨values, rest_ok, same⟩ := bind_eq_ok_iff.mp more
      cases same
      exact .cons first_ok (ih.mp rest_ok)
    · intro related
      cases related with
      | cons first_ok rest_ok =>
        exact ⟨_, first_ok, bind_eq_ok_iff.mpr ⟨_, ih.mpr rest_ok, rfl⟩⟩

/-- A failure on a list is the failure on the first of its elements that fails. -/
theorem mapM_eq_error_iff {work : α → Except ε β} {elements : List α} {fault : ε} :
    elements.mapM work = .error fault ↔
      ∃ front element back, elements = front ++ element :: back ∧
        (∀ earlier ∈ front, ∃ result, work earlier = .ok result) ∧
        work element = .error fault := by
  constructor
  · intro failed
    induction elements with
    | nil => cases failed
    | cons first rest ih =>
      rw [List.mapM_cons] at failed
      rcases bind_eq_error_iff.mp failed with first_failed | ⟨value, first_ok, more⟩
      · exact ⟨[], first, rest, rfl, List.forall_mem_nil _, first_failed⟩
      · rcases bind_eq_error_iff.mp more with rest_failed | ⟨_, -, impossible⟩
        · obtain ⟨front, element, back, rfl, front_ok, element_failed⟩ := ih rest_failed
          exact ⟨first :: front, element, back, rfl,
            List.forall_mem_cons.mpr ⟨⟨value, first_ok⟩, front_ok⟩, element_failed⟩
        · cases impossible
  · rintro ⟨front, element, back, rfl, front_ok, element_failed⟩
    induction front with
    | nil =>
      rw [List.nil_append, List.mapM_cons, element_failed]
      rfl
    | cons first front ih =>
      obtain ⟨⟨value, first_ok⟩, front_ok⟩ := List.forall_mem_cons.mp front_ok
      rw [List.cons_append, List.mapM_cons, first_ok]
      exact bind_eq_error_iff.mpr
        (.inr ⟨value, rfl, bind_eq_error_iff.mpr (.inl (ih front_ok))⟩)

/-- A failure on a list is a failure on one of its elements. -/
theorem mapM_eq_error {work : α → Except ε β} {elements : List α} {fault : ε}
    (failed : elements.mapM work = .error fault) :
    ∃ element ∈ elements, work element = .error fault := by
  obtain ⟨front, element, back, rfl, -, element_failed⟩ := mapM_eq_error_iff.mp failed
  exact ⟨element, by simp, element_failed⟩

/-- A list can be worked through when each of its elements can. -/
theorem exists_mapM_eq_ok_iff {work : α → Except ε β} {elements : List α} :
    (∃ results, elements.mapM work = .ok results) ↔
      ∀ element ∈ elements, ∃ result, work element = .ok result := by
  constructor
  · rintro ⟨results, done⟩ element member
    rw [mapM_eq_ok_iff] at done
    obtain ⟨position, here⟩ := List.mem_iff_getElem?.mp member
    obtain ⟨in_elements, rfl⟩ := List.getElem?_eq_some_iff.mp here
    have in_results : position < results.length := done.length_eq ▸ in_elements
    exact ⟨results[position], done.get in_elements in_results⟩
  · intro possible
    cases outcome : elements.mapM work with
    | ok results => exact ⟨results, rfl⟩
    | error fault =>
      obtain ⟨element, member, failed⟩ := mapM_eq_error outcome
      obtain ⟨result, done⟩ := possible element member
      rw [failed] at done
      cases done

/-- What follows a step that may be refused is done unless it is. -/
theorem elim_bind (refusal? : Option ε) (value : α) (next : α → Except ε β) :
    (refusal?.elim (.ok value) .error : Except ε α) >>= next =
      refusal?.elim (next value) .error := by
  cases refusal? <;> rfl

theorem map_elim (refusal? : Option ε) (outcome : Except ε α) (change : α → β) :
    (refusal?.elim outcome .error).map change = refusal?.elim (outcome.map change) .error := by
  cases refusal? <;> rfl

theorem elim_or (first? second? : Option ε) (outcome : Except ε α) :
    (first?.or second?).elim outcome .error =
      first?.elim (second?.elim outcome .error) .error := by
  cases first? <;> rfl

/-- If each element is refused or changed, a list is refused for the first element that is, and
otherwise all of its elements are changed. -/
theorem mapM_eq_elim {work : α → Except ε β} {refusal? : α → Option ε} {change : α → β}
    {elements : List α}
    (each : ∀ element ∈ elements,
      work element = (refusal? element).elim (.ok (change element)) .error) :
    elements.mapM work =
      (elements.findSome? refusal?).elim (.ok (elements.map change)) .error := by
  induction elements with
  | nil => rfl
  | cons first rest ih =>
    obtain ⟨first_work, rest_work⟩ := List.forall_mem_cons.mp each
    rw [List.mapM_cons, first_work, ih rest_work, elim_bind, elim_bind, List.findSome?_cons]
    cases refusal? first <;> rfl

/-- A computation that returns where a rule is kept, and fails where it is broken, returns nowhere
else and fails for no other reason. -/
theorem decided {outcome : Except ε α} {kept : Prop} {broken : ε → Prop}
    (either : kept ∨ ∃ fault, broken fault) (returns : kept → ∃ value, outcome = .ok value)
    (fails : ∀ fault, broken fault → outcome = .error fault) :
    ((∃ value, outcome = .ok value) ↔ kept) ∧ ∀ fault, outcome = .error fault ↔ broken fault := by
  refine ⟨⟨fun ⟨value, returned⟩ => ?_, returns⟩, fun fault => ⟨fun failed => ?_, fails fault⟩⟩
  · rcases either with holds | ⟨fault, breaks⟩
    · exact holds
    · cases returned.symm.trans (fails fault breaks)
  · rcases either with holds | ⟨other, breaks⟩
    · obtain ⟨value, returned⟩ := returns holds
      cases failed.symm.trans returned
    · cases failed.symm.trans (fails other breaks)
      exact breaks

/-- Outcomes of two computations that fail alike or whose results are related. -/
inductive Alike (related : α → β → Prop) : Except ε α → Except ε β → Prop
  | ok {first : α} {second : β} (results : related first second) :
    Alike related (.ok first) (.ok second)
  | error (fault : ε) : Alike related (.error fault) (.error fault)

theorem alike_self (outcome : Except ε α) : Alike Eq outcome outcome := by
  cases outcome with
  | ok result => exact .ok rfl
  | error fault => exact .error fault

namespace Alike

variable {γ δ : Type} {related : α → β → Prop} {related' : γ → δ → Prop}

theorem bind {first : Except ε α} {second : Except ε β} {next : α → Except ε γ}
    {next' : β → Except ε δ} (alike : Alike related first second)
    (go_on : ∀ result other, related result other → Alike related' (next result) (next' other)) :
    Alike related' (first >>= next) (second >>= next') := by
  cases alike with
  | ok results => exact go_on _ _ results
  | error fault => exact .error fault

theorem map {first : Except ε α} {second : Except ε β} {change : α → γ} {change' : β → δ}
    (alike : Alike related first second)
    (changed : ∀ result other, related result other → related' (change result) (change' other)) :
    Alike related' (first.map change) (second.map change') := by
  cases alike with
  | ok results => exact .ok (changed _ _ results)
  | error fault => exact .error fault

theorem mapError {first : Except ε α} {second : Except ε β} (alike : Alike related first second)
    (change : ε → δ) : Alike related (first.mapError change) (second.mapError change) := by
  cases alike with
  | ok results => exact .ok results
  | error fault => exact .error (change fault)

/-- Lists are worked through alike when their elements are. -/
theorem mapM {work : α → Except ε γ} {work' : β → Except ε δ} {elements : List α}
    {others : List β}
    (alike : List.Forall₂ (fun element other => Alike related' (work element) (work' other))
      elements others) :
    Alike (List.Forall₂ related') (elements.mapM work) (others.mapM work') := by
  induction alike with
  | nil => exact .ok .nil
  | cons first _ ih =>
    rw [List.mapM_cons, List.mapM_cons]
    exact first.bind fun _ _ head => ih.bind fun _ _ tail => .ok (.cons head tail)

end Alike

end Outcome
end Countersign
