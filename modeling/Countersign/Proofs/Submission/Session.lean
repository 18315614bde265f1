import Countersign.Proofs.Submission.Course

/-!
# Sessions of submissions

Submissions are made one after another on one bundle, each through events of its own.  Every bundle
on the way has grown from the first one, so all of them propose the same entry.
-/

namespace Countersign

namespace Course

variable {submitter : Submitter} {before : Bundle} {course : Course}

/-- A submission is under way and has left the bundle alone, or it has ended. -/
theorem IsAccounted.underWay_or_finished (accounted : course.IsAccounted submitter before) :
    ((∀ result, course.stage ≠ .finished result) ∧ course.bundle = before ∧
      (course.requests = [] ∨
        ∃ request, submitter.request before = .ok request ∧ course.requests = [request])) ∨
    ∃ result, course.stage = .finished result ∧
      Ending submitter before course.bundle course.requests course.taken? result := by
  unfold IsAccounted at accounted
  split at accounted
  case h_1 here =>
    obtain ⟨bundle_eq, requests_eq, -⟩ := accounted
    exact .inl ⟨by simp [here], bundle_eq, .inl requests_eq⟩
  case h_2 here =>
    obtain ⟨-, bundle_eq, requests_eq, -⟩ := accounted
    exact .inl ⟨by simp [here], bundle_eq, .inl requests_eq⟩
  case h_3 here =>
    obtain ⟨request, prepared, bundle_eq, requests_eq, -⟩ := accounted
    exact .inl ⟨by simp [here], bundle_eq, .inr ⟨request, prepared, requests_eq⟩⟩
  case h_4 here =>
    obtain ⟨request, prepared, bundle_eq, requests_eq, -⟩ := accounted
    exact .inl ⟨by simp [here], bundle_eq, .inr ⟨request, prepared, requests_eq⟩⟩
  case h_5 here =>
    obtain ⟨request, -, prepared, ⟨bundle_eq, requests_eq, -⟩, -⟩ := accounted
    exact .inl ⟨by simp [here], bundle_eq, .inr ⟨request, prepared, requests_eq⟩⟩
  case h_6 here =>
    obtain ⟨request, -, prepared, ⟨bundle_eq, requests_eq, -⟩, -⟩ := accounted
    exact .inl ⟨by simp [here], bundle_eq, .inr ⟨request, prepared, requests_eq⟩⟩
  case h_7 result here => exact .inr ⟨result, here, accounted⟩

end Course

namespace Ending

variable {submitter : Submitter} {before after : Bundle} {requests : List EntryRequest}
  {taken? : Option CreatedEntries} {result : Except SubmissionError Unit}

theorem requests_eq (ending : Ending submitter before after requests taken? result) :
    requests = [] ∨ ∃ request, submitter.request before = .ok request ∧ requests = [request] := by
  cases ending with
  | refused => exact .inl rfl
  | withdrawn => exact .inl rfl
  | unanswered prepared => exact .inr ⟨_, prepared, rfl⟩
  | unusable prepared => exact .inr ⟨_, prepared, rfl⟩
  | appended prepared => exact .inr ⟨_, prepared, rfl⟩

theorem bundle_eq {error : SubmissionError}
    (ending : Ending submitter before after requests taken? (.error error)) : after = before := by
  cases ending <;> rfl

/-- An answer that was taken decides the result. -/
theorem result_eq {answer : CreatedEntries}
    (ending : Ending submitter before after requests (some answer) result) :
    result = answer.logged.map fun _ => () := by
  cases ending with
  | unusable _ failed => rw [failed]; rfl
  | appended _ recorded => rw [recorded]; rfl

end Ending

namespace Course

variable {submitter : Submitter} {before : Bundle} {course : Course}

theorem IsAccounted.bundle_eq (accounted : course.IsAccounted submitter before)
    (unsuccessful : course.stage ≠ .finished (.ok ())) : course.bundle = before := by
  rcases accounted.underWay_or_finished with ⟨-, unchanged, -⟩ | ⟨result, finished, ending⟩
  · exact unchanged
  · cases result with
    | ok _ => exact absurd finished unsuccessful
    | error error => exact ending.bundle_eq

theorem IsAccounted.requests_eq (accounted : course.IsAccounted submitter before) :
    course.requests = [] ∨
      ∃ request, submitter.request before = .ok request ∧ course.requests = [request] := by
  rcases accounted.underWay_or_finished with ⟨-, -, requests_eq⟩ | ⟨result, -, ending⟩
  · exact requests_eq
  · exact ending.requests_eq

theorem IsAccounted.ending (accounted : course.IsAccounted submitter before)
    {result : Except SubmissionError Unit} (finished : course.stage = .finished result) :
    Ending submitter before course.bundle course.requests course.taken? result := by
  rcases accounted.underWay_or_finished with ⟨underWay, -⟩ | ⟨other, finished_other, ending⟩
  · exact absurd finished (underWay result)
  · cases finished.symm.trans finished_other
    exact ending

end Course

namespace Session

end Session

end Countersign
