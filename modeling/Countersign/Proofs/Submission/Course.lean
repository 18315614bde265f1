import Countersign.Proofs.Submission.Selection

/-!
# Submissions append or leave the bundle alone

Whatever happens in whatever order, a submission is untouched until it has everything that it
appends.  The invariant says for each stage what has been found out, and for a submission that is
over in which way it ended.
-/

namespace Countersign

namespace Bundle

variable {origin middle later : Bundle}

/-- A later bundle has everything of an earlier one, and perhaps further log entries. -/
structure GrowsTo (origin later : Bundle) : Prop where
  mediaType_eq : later.mediaType = origin.mediaType
  content_eq : later.content? = origin.content?
  signer_eq : later.material.signer = origin.material.signer
  timestamps_eq : later.material.timestamps = origin.material.timestamps
  isPrefix : origin.material.entries <+: later.material.entries

theorem GrowsTo.refl (bundle : Bundle) : bundle.GrowsTo bundle :=
  ⟨rfl, rfl, rfl, rfl, List.prefix_rfl⟩

theorem GrowsTo.trans (first : origin.GrowsTo middle) (second : middle.GrowsTo later) :
    origin.GrowsTo later where
  mediaType_eq := second.mediaType_eq.trans first.mediaType_eq
  content_eq := second.content_eq.trans first.content_eq
  signer_eq := second.signer_eq.trans first.signer_eq
  timestamps_eq := second.timestamps_eq.trans first.timestamps_eq
  isPrefix := first.isPrefix.trans second.isPrefix

end Bundle

namespace Submitter

variable {submitter : Submitter} {bundle : Bundle} {request : EntryRequest}

end Submitter

/-- What an answer adds to a bundle. -/
def CreatedEntries.logged (answer : CreatedEntries) : Except SubmissionError LoggedEntry :=
  answer.created.bind LogEntry.toLoggedEntry

/-- The ways in which a submission ends: the bundle, the requests, the answer that was taken and the
result. -/
inductive Ending (submitter : Submitter) (before : Bundle) :
    Bundle → List EntryRequest → Option CreatedEntries → Except SubmissionError Unit → Prop
  | refused {error : SubmissionError} (refused : submitter.request before = .error error) :
    Ending submitter before before [] none (.error error)
  | withdrawn {request : EntryRequest} (prepared : submitter.request before = .ok request) :
    Ending submitter before before [] none (.error (.cancelled .byCaller))
  | unanswered {request : EntryRequest} (prepared : submitter.request before = .ok request)
    {callEnd : CallEnd submitter.options.deadline?} {error : SubmissionError}
    (ended : Submission.answer callEnd = .error error) :
    Ending submitter before before [request] none (.error error)
  | unusable {request : EntryRequest} (prepared : submitter.request before = .ok request)
    {answer : CreatedEntries} {error : SubmissionError} (failed : answer.logged = .error error) :
    Ending submitter before before [request] (some answer) (.error error)
  | appended {request : EntryRequest} (prepared : submitter.request before = .ok request)
    {answer : CreatedEntries} {logged : LoggedEntry} (recorded : answer.logged = .ok logged) :
    Ending submitter before (before.addEntry logged) [request] (some answer) (.ok ())

namespace Course

variable {submitter : Submitter} {before : Bundle} {course : Course}

/-- A submission that has left the bundle alone so far. -/
def IsAt (course : Course) (before : Bundle) (requests : List EntryRequest)
    (taken? : Option CreatedEntries) : Prop :=
  course.bundle = before ∧ course.requests = requests ∧ course.taken? = taken?

/-- What has been found out at each stage. -/
def IsAccounted (submitter : Submitter) (before : Bundle) (course : Course) : Prop :=
  match course.stage with
  | .begun => course.IsAt before [] none
  | .prepared request => submitter.request before = .ok request ∧ course.IsAt before [] none
  | .asked =>
    ∃ request, submitter.request before = .ok request ∧ course.IsAt before [request] none
  | .answered answer =>
    ∃ request, submitter.request before = .ok request ∧ course.IsAt before [request] (some answer)
  | .selected entry =>
    ∃ request answer, submitter.request before = .ok request ∧
      course.IsAt before [request] (some answer) ∧ answer.created = .ok entry
  | .decoded logged =>
    ∃ request answer, submitter.request before = .ok request ∧
      course.IsAt before [request] (some answer) ∧ answer.logged = .ok logged
  | .finished result => Ending submitter before course.bundle course.requests course.taken? result

/-- What every submission maintains. -/
structure IsSound (submitter : Submitter) (before : Bundle) (course : Course) : Prop where
  answer_isMap (answer : CreatedEntries) : course.answer? = some (.ok answer) → answer.IsMap
  taken_isMap (answer : CreatedEntries) : course.taken? = some answer → answer.IsMap
  isAccounted : course.IsAccounted submitter before

/-- A waiting submission goes on waiting, fails as a call can fail, or takes the answer. -/
theorem await_cases (deadline? : Option Duration) (course : Course) (notice : Notice) :
    course.await deadline? notice = course ∨
      (∃ (callEnd : CallEnd deadline?) (error : SubmissionError),
        Submission.answer callEnd = .error error ∧
          course.await deadline? notice = course.fail error) ∨
      ∃ answer, course.answer? = some (.ok answer) ∧
        course.await deadline? notice =
          { course with stage := .answered answer, taken? := some answer } := by
  cases notice with
  | cancellation =>
    simp only [Course.await]
    split
    · exact .inr (.inl ⟨.cancelled, _, rfl, rfl⟩)
    · exact .inl rfl
  | deadline =>
    simp only [Course.await]
    split
    · split
      · exact .inr (.inl ⟨.expired _ rfl, _, rfl, rfl⟩)
      · exact .inl rfl
    · exact .inl rfl
  | answer =>
    simp only [Course.await]
    split
    · rename_i answer answered
      exact .inr (.inr ⟨answer, answered, rfl⟩)
    · exact .inr (.inl ⟨.answered (.error _), _, rfl, rfl⟩)
    · exact .inl rfl

/-- Whichever of the things that it waits for a submission notices, it keeps the account. -/
theorem IsAccounted.await (waiting : course.stage = .asked)
    (accounted : course.IsAccounted submitter before) (notice : Notice) :
    (course.await submitter.options.deadline? notice).IsAccounted submitter before := by
  obtain ⟨request, prepared, here⟩ :
      ∃ request, submitter.request before = .ok request ∧ course.IsAt before [request] none := by
    rw [IsAccounted, waiting] at accounted
    exact accounted
  obtain ⟨bundle, requests, stage, isCancelled, isExpired, answer?, taken?⟩ := course
  obtain ⟨rfl, rfl, rfl⟩ := here
  rcases await_cases submitter.options.deadline? _ notice with
    same | ⟨callEnd, error, ended, failed⟩ | ⟨answer, -, taken⟩
  · rw [same]
    exact accounted
  · rw [failed]
    exact Ending.unanswered prepared ended
  · rw [taken]
    exact ⟨request, prepared, rfl, rfl, rfl⟩

/-- Going on keeps the account, from whichever stage. -/
theorem IsAccounted.proceed (accounted : course.IsAccounted submitter before) (notice : Notice) :
    (course.proceed submitter notice).IsAccounted submitter before := by
  obtain ⟨bundle, requests, stage, isCancelled, isExpired, answer?, taken?⟩ := course
  cases stage with
  | begun =>
    obtain ⟨rfl, rfl, rfl⟩ := accounted
    rw [Course.proceed]
    dsimp only
    cases outcome : submitter.request bundle with
    | ok request => exact ⟨outcome, rfl, rfl, rfl⟩
    | error error => exact Ending.refused outcome
  | prepared request =>
    obtain ⟨prepared, rfl, rfl, rfl⟩ := accounted
    rw [Course.proceed]
    dsimp only
    split
    · exact Ending.withdrawn prepared
    · exact ⟨request, prepared, rfl, rfl, rfl⟩
  | asked => exact IsAccounted.await rfl accounted notice
  | answered answer =>
    obtain ⟨request, prepared, rfl, rfl, rfl⟩ := accounted
    rw [Course.proceed]
    dsimp only
    cases outcome : answer.created with
    | ok entry => exact ⟨request, answer, prepared, ⟨rfl, rfl, rfl⟩, outcome⟩
    | error error =>
      exact Ending.unusable prepared (Outcome.bind_eq_error_iff.mpr (.inl outcome))
  | selected entry =>
    obtain ⟨request, answer, prepared, ⟨rfl, rfl, rfl⟩, created⟩ := accounted
    rw [Course.proceed]
    dsimp only
    have logged_eq : answer.logged = entry.toLoggedEntry := by
      rw [CreatedEntries.logged, created]
      rfl
    cases outcome : entry.toLoggedEntry with
    | ok logged =>
      exact ⟨request, answer, prepared, ⟨rfl, rfl, rfl⟩, logged_eq.trans outcome⟩
    | error error => exact Ending.unusable prepared (logged_eq.trans outcome)
  | decoded logged =>
    obtain ⟨request, answer, prepared, ⟨rfl, rfl, rfl⟩, recorded⟩ := accounted
    exact Ending.appended prepared recorded
  | finished result => exact accounted

/-- Going on changes no answer, and takes none but the one that was given. -/
theorem answers_proceed (submitter : Submitter) (course : Course) (notice : Notice) :
    (course.proceed submitter notice).answer? = course.answer? ∧
      ∀ answer, (course.proceed submitter notice).taken? = some answer →
        course.taken? = some answer ∨ course.answer? = some (.ok answer) := by
  have attempt_keeps {α : Type} (outcome : Except SubmissionError α) (next : α → Stage) :
      (course.attempt outcome next).answer? = course.answer? ∧
        ∀ answer, (course.attempt outcome next).taken? = some answer →
          course.taken? = some answer ∨ course.answer? = some (.ok answer) := by
    cases outcome <;> exact ⟨rfl, fun _ => .inl⟩
  unfold Course.proceed
  split
  · exact attempt_keeps _ _
  · split <;> exact ⟨rfl, fun _ => .inl⟩
  · rcases await_cases submitter.options.deadline? course notice with
      same | ⟨callEnd, error, ended, failed⟩ | ⟨answer, answered, taken⟩
    · rw [same]
      exact ⟨rfl, fun _ => .inl⟩
    · rw [failed]
      exact ⟨rfl, fun _ => .inl⟩
    · rw [taken]
      exact ⟨rfl, fun _ same => .inr (Option.some.inj same ▸ answered)⟩
  · exact attempt_keeps _ _
  · exact attempt_keeps _ _
  · exact ⟨rfl, fun _ => .inl⟩
  · exact ⟨rfl, fun _ => .inl⟩

/-- An event keeps what every submission maintains. -/
theorem IsSound.step (sound : course.IsSound submitter before) (event : Event) :
    (course.step submitter event).IsSound submitter before := by
  obtain ⟨answer_isMap, taken_isMap, accounted⟩ := sound
  cases event with
  | cancel => exact ⟨answer_isMap, taken_isMap, accounted⟩
  | expire => exact ⟨answer_isMap, taken_isMap, accounted⟩
  | reply answer are_maps =>
    rw [Course.step]
    split
    · exact ⟨fun given same => are_maps given (Option.some.inj same), taken_isMap, accounted⟩
    · exact ⟨answer_isMap, taken_isMap, accounted⟩
  | proceed notice =>
    obtain ⟨same_answer, taken_given⟩ := answers_proceed submitter course notice
    refine ⟨fun answer given => ?_, fun answer taken => ?_, accounted.proceed notice⟩
    · exact answer_isMap answer (same_answer ▸ given)
    · rcases taken_given answer taken with earlier | given
      · exact taken_isMap answer earlier
      · exact answer_isMap answer given

theorem IsSound.foldl (sound : course.IsSound submitter before) (events : List Event) :
    (events.foldl (Course.step submitter) course).IsSound submitter before := by
  induction events generalizing course with
  | nil => exact sound
  | cons event rest ih => exact ih (sound.step event)

/-- The events with which a client comes to be asked. -/
def asking : List Event :=
  [.proceed .answer, .proceed .answer]

theorem run_asking {request : EntryRequest} (prepared : submitter.request before = .ok request)
    (events : List Event) :
    run submitter before (asking ++ events) =
      events.foldl (Course.step submitter)
        { bundle := before, requests := [request], stage := .asked } := by
  simp [asking, run, Course.step, Course.proceed, attempt, prepared, ask]

/-- Every ending is reached: a submission ends before the client is asked, or while the client is at
work the caller gives up, the deadline passes or the answer comes. -/
theorem exists_run_of_ending {after : Bundle} {requests : List EntryRequest}
    {taken? : Option CreatedEntries} {result : Except SubmissionError Unit}
    (ending : Ending submitter before after requests taken? result)
    (are_maps : ∀ answer, taken? = some answer → answer.IsMap) :
    ∃ events, (run submitter before events).IsAt after requests taken? ∧
      (run submitter before events).stage = .finished result := by
  cases ending with
  | refused refused =>
    refine ⟨[.proceed .answer], ?_⟩
    simp [run, Course.step, Course.proceed, attempt, refused, fail, IsAt]
  | withdrawn prepared =>
    refine ⟨[.cancel, .proceed .answer, .proceed .cancellation], ?_⟩
    simp [run, Course.step, Course.proceed, attempt, prepared, fail, IsAt]
  | @unanswered _ prepared callEnd error ended =>
    cases callEnd with
    | answered answer =>
      cases ended
      refine ⟨asking ++ [.reply (.error error) nofun, .proceed .answer], ?_⟩
      rw [run_asking prepared]
      simp [Course.step, Course.proceed, Course.await, fail, IsAt]
    | expired deadline is_deadline =>
      cases ended
      refine ⟨asking ++ [.expire, .proceed .deadline], ?_⟩
      rw [run_asking prepared]
      simp [Course.step, Course.proceed, Course.await, is_deadline, fail, IsAt]
    | cancelled =>
      cases ended
      refine ⟨asking ++ [.cancel, .proceed .cancellation], ?_⟩
      rw [run_asking prepared]
      simp [Course.step, Course.proceed, Course.await, fail, IsAt]
  | @unusable _ prepared answer error failed =>
    have isMap := are_maps answer rfl
    refine ⟨asking ++ [.reply (.ok answer) (by simpa using isMap), .proceed .answer,
      .proceed .answer, .proceed .answer], ?_⟩
    rw [run_asking prepared]
    rcases Outcome.bind_eq_error_iff.mp failed with unselected | ⟨entry, selected, undecoded⟩
    · simp [Course.step, Course.proceed, Course.await, attempt, unselected, fail, IsAt]
    · simp [Course.step, Course.proceed, Course.await, attempt, selected, undecoded, fail, IsAt]
  | @appended _ prepared answer logged recorded =>
    have isMap := are_maps answer rfl
    obtain ⟨entry, selected, decoded⟩ := Outcome.bind_eq_ok_iff.mp recorded
    refine ⟨asking ++ [.reply (.ok answer) (by simpa using isMap), .proceed .answer,
      .proceed .answer, .proceed .answer, .proceed .answer], ?_⟩
    rw [run_asking prepared]
    simp [Course.step, Course.proceed, Course.await, attempt, selected, decoded, IsAt]

end Course

end Countersign
