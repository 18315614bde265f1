import Countersign.Proofs.Submission.Retry
import Countersign.Submission.Call

/-!
# Giving up a call

A call keeps to its number of repetitions whether or not its caller gives up.  Once the caller has
given up, what the call may still do shrinks with every step: at most one more request is sent, a
new pause is left as soon as it begins, and the call returns.
-/

namespace Countersign
namespace Retry

variable {posting : Posting} {retries : Nat} {call next last : Call} {event : Event}
  {events earlier later : List Event}

/-- How many requests are sent. -/
def requests (events : List Event) : Nat :=
  events.countP Event.sends

/-- How attempts end, in order. -/
def outcomes (events : List Event) : List Outcome :=
  events.filterMap Event.outcome?

namespace Path

/-- A path through two lists of events passes a call between them. -/
theorem split (path : Path posting retries call (earlier ++ later) last) :
    ∃ middle, Path posting retries call earlier middle ∧
      Path posting retries middle later last := by
  induction earlier generalizing call with
  | nil => exact ⟨call, .nil call, path⟩
  | cons event rest ih =>
    cases path with
    | cons step rest_path =>
      obtain ⟨middle, front, back⟩ := ih rest_path
      exact ⟨middle, .cons step front, back⟩

end Path

/-! ## What the events tell about a call -/

/-- Where a call stands after a number of requests, of which attempts have ended as told. -/
def Phase.Agrees (retries sent : Nat) (isCancelled : Bool) (ended : List Outcome) : Phase → Prop
  | requesting => sent ≤ retries + 1 ∧ ended.length + 1 = sent
  | ready | failed | resting | asleep => sent ≤ retries ∧ ended.length = sent
  | answered response =>
    sent ≤ retries + 1 ∧ ended.length = sent ∧
      ∃ outcome, ended.getLast? = some outcome ∧ outcome.Yields (LogClient.created response)
  | returned result =>
    sent ≤ retries + 1 ∧
      (result = .error cancelled ∧ isCancelled = true ∨
        ended.length = sent ∧ ∃ outcome, ended.getLast? = some outcome ∧ outcome.Yields result)

theorem Phase.Agrees.cancel {sent : Nat} {isCancelled : Bool} {ended : List Outcome} {phase : Phase}
    (agrees : phase.Agrees retries sent isCancelled ended) :
    phase.Agrees retries sent true ended := by
  cases phase with
  | returned result =>
    refine ⟨agrees.1, agrees.2.imp_left fun given => ?_⟩
    exact ⟨given.1, rfl⟩
  | _ => exact agrees

theorem Phase.Agrees.sent_le {sent : Nat} {isCancelled : Bool} {ended : List Outcome}
    {phase : Phase} (agrees : phase.Agrees retries sent isCancelled ended) :
    sent ≤ retries + 1 := by
  cases phase <;> exact Nat.le_trans agrees.1 (by omega)

/-- What a call and its events have to do with each other. -/
structure Call.IsAccounted (retries : Nat) (events : List Event) (call : Call) : Prop where
  sent_eq : requests events = call.sent
  isCancelled_iff : call.isCancelled = true ↔ .cancel ∈ events
  agrees : call.phase.Agrees retries call.sent call.isCancelled (outcomes events)

theorem isAccounted_start : Call.start.IsAccounted retries [] where
  sent_eq := rfl
  isCancelled_iff := by simp [Call.start]
  agrees := ⟨Nat.zero_le retries, rfl⟩

theorem Step.sent_eq (step : Step posting retries call event next) :
    next.sent = call.sent + if event.sends then 1 else 0 := by
  cases step <;> rfl

theorem Step.isCancelled_iff (step : Step posting retries call event next) :
    next.isCancelled = true ↔ call.isCancelled = true ∨ event = .cancel := by
  cases step <;> simp

theorem Call.IsAccounted.step (accounted : call.IsAccounted retries events)
    (step : Step posting retries call event next) :
    next.IsAccounted retries (events ++ [event]) where
  sent_eq := by
    rw [step.sent_eq, ← accounted.sent_eq]
    simp [requests]
  isCancelled_iff := by
    rw [step.isCancelled_iff, accounted.isCancelled_iff, List.mem_append, List.mem_singleton]
    exact or_congr_right eq_comm
  agrees := by
    have agrees := accounted.agrees
    have silent (unended : event.outcome? = none) :
        outcomes (events ++ [event]) = outcomes events := by
      simp [outcomes, unended]
    have told {outcome : Outcome} (ended : event.outcome? = some outcome) :
        outcomes (events ++ [event]) = outcomes events ++ [outcome] := by
      simp [outcomes, ended]
    cases step with
    | cancel sent phase =>
      rw [silent rfl]
      exact agrees.cancel
    | post sent given =>
      rw [silent rfl]
      exact ⟨Nat.succ_le_succ agrees.1, congrArg (· + 1) agrees.2⟩
    | succeed sent given outcome response judged =>
      have verdict := judge_spec outcome
      rw [judged] at verdict
      rw [told rfl]
      exact ⟨agrees.1, by rw [List.length_append]; exact agrees.2, outcome,
        List.getLast?_concat, verdict.2.2⟩
    | fail sent given outcome error judged =>
      have yields : outcome.Yields (.error error) := by
        have verdict := judge_spec outcome
        rcases judged with judged | ⟨judged, -⟩ <;> rw [judged] at verdict <;> exact verdict.2
      rw [told rfl]
      exact ⟨agrees.1, .inr ⟨by rw [List.length_append]; exact agrees.2, outcome,
        List.getLast?_concat, yields⟩⟩
    | miss sent given outcome error judged left =>
      rw [told rfl]
      exact ⟨left, by rw [List.length_append]; exact agrees.2⟩
    | pause | sleep | wake =>
      rw [silent rfl]
      exact agrees
    | read sent given response =>
      rw [silent rfl]
      exact ⟨agrees.1, .inr agrees.2⟩
    | leave sent phase waits =>
      exact ⟨agrees.sent_le, .inl ⟨rfl, rfl⟩⟩

theorem Call.IsAccounted.path (accounted : call.IsAccounted retries earlier)
    (path : Path posting retries call events last) :
    last.IsAccounted retries (earlier ++ events) := by
  induction path generalizing earlier with
  | nil =>
    rw [List.append_nil]
    exact accounted
  | cons step _ ih =>
    rw [List.append_cons]
    exact ih (accounted.step step)

/-! ## After the caller has given up -/

/-- How many more events there may be. -/
def Phase.remaining : Phase → Nat
  | asleep => 5
  | ready => 4
  | requesting => 3
  | failed => 2
  | resting | answered _ => 1
  | returned _ => 0

/-- How many more requests there may be. -/
def Phase.further : Phase → Nat
  | asleep | ready => 1
  | _ => 0

/-- Every step of a call that has been given up takes it closer to its end. -/
theorem Step.of_isCancelled (step : Step posting retries call event next)
    (given : call.isCancelled = true) :
    next.isCancelled = true ∧ next.phase.remaining + 1 ≤ call.phase.remaining ∧
      next.phase.further + (if event.sends then 1 else 0) ≤ call.phase.further := by
  cases step with
  | leave sent phase waits =>
    refine ⟨rfl, ?_, ?_⟩ <;> cases phase <;> cases waits <;>
      simp [Phase.remaining, Phase.further, Event.sends]
  | cancel | sleep => cases given
  | _ => exact ⟨given, by simp [Phase.remaining], by simp [Phase.further, Event.sends]⟩

theorem Path.of_isCancelled (path : Path posting retries call events last)
    (given : call.isCancelled = true) :
    last.isCancelled = true ∧ last.phase.remaining + events.length ≤ call.phase.remaining ∧
      last.phase.further + requests events ≤ call.phase.further := by
  induction path with
  | nil => exact ⟨given, Nat.le_refl _, Nat.le_refl _⟩
  | cons step _ ih =>
    obtain ⟨next_given, fewer, fewer_requests⟩ := step.of_isCancelled given
    obtain ⟨last_given, fewer', fewer_requests'⟩ := ih next_given
    refine ⟨last_given, ?_, ?_⟩
    · rw [List.length_cons]
      omega
    · rw [requests, List.countP_cons]
      rw [requests] at fewer_requests'
      omega

/-- What follows when the caller gives up is a path of a call that has been given up. -/
theorem Path.split_cancel
    (path : Path posting retries call (earlier ++ .cancel :: later) last) :
    ∃ middle : Call, middle.isCancelled = true ∧ Path posting retries middle later last := by
  obtain ⟨before, -, after⟩ := path.split
  cases after with
  | @cons _ middle _ _ _ step rest =>
    exact ⟨middle, step.isCancelled_iff.mpr (.inr rfl), rest⟩

theorem Path.requests_after_cancel_le
    (path : Path posting retries call (earlier ++ .cancel :: later) last) : requests later ≤ 1 := by
  obtain ⟨middle, given, rest⟩ := path.split_cancel
  have few := (rest.of_isCancelled given).2.2
  have at_most_one : middle.phase.further ≤ 1 := by cases middle.phase <;> simp [Phase.further]
  omega

theorem Path.length_after_cancel_le
    (path : Path posting retries call (earlier ++ .cancel :: later) last) : later.length ≤ 5 := by
  obtain ⟨middle, given, rest⟩ := path.split_cancel
  have few := (rest.of_isCancelled given).2.1
  have at_most_five : middle.phase.remaining ≤ 5 := by
    cases middle.phase <;> simp [Phase.remaining]
  omega

/-- A pause that begins when the caller has given up is never over. -/
theorem Path.wake_not_mem {between : List Event} {delay : Duration}
    (path : Path posting retries call
      (earlier ++ .cancel :: between ++ .act (.pause delay) :: later) last) : .wake ∉ later := by
  rw [List.append_assoc, List.cons_append] at path
  obtain ⟨middle, given, from_cancel⟩ := path.split_cancel
  obtain ⟨failing, to_pause, from_pause⟩ := from_cancel.split
  have failing_given := (to_pause.of_isCancelled given).1
  cases from_pause with
  | @cons _ resting _ _ _ step rest =>
    -- After the pause has begun only one more event is left, but waking up leaves five.
    intro woken
    obtain ⟨front, back, rfl⟩ := List.append_of_mem woken
    obtain ⟨asleep, to_wake, from_wake⟩ := rest.split
    have resting_given := (step.of_isCancelled failing_given).1
    have few := (to_wake.of_isCancelled resting_given).2.1
    have one_left : resting.phase.remaining = 1 := by cases step; rfl
    have five_left : asleep.phase.remaining = 5 := by
      cases from_wake with
      | cons waking _ => cases waking; rfl
    omega

/-- A call that has not returned can go on once its caller has given up. -/
theorem exists_step (posting : Posting) (retries : Nat) (given : call.isCancelled = true) :
    (∃ result, call.phase = .returned result) ∨
      ∃ event next, Step posting retries call event next := by
  obtain ⟨sent, isCancelled, phase⟩ := call
  cases given
  cases phase with
  | returned result => exact .inl ⟨result, rfl⟩
  | failed => exact .inr ⟨_, _, .pause sent true⟩
  | answered response => exact .inr ⟨_, _, .read sent true response⟩
  | ready | requesting | resting | asleep => exact .inr ⟨_, _, .leave sent _ rfl⟩

theorem Outcome.Yields.ne_cancelled {outcome : Outcome} :
    ¬outcome.Yields (.error cancelled) := by
  intro yields
  generalize result_eq : (.error cancelled : Except SubmissionError CreatedEntries) = result
    at yields
  cases yields <;> cases result_eq

/-! ## Runs by the clock -/

/-- A run in which the caller gives up at a given time is one that the steps allow. -/
theorem exists_path_runFrom (posting : Posting) (attempts : Nat → Attempt) (cancelAt? : Option Nat)
    (left sent now : Nat) :
    ∃ events more given,
      Path posting (sent + left) ⟨sent, false, .ready⟩ events ⟨more, given, .returned
        ((runFrom posting attempts cancelAt? left sent now).result.bind LogClient.created)⟩ ∧
      events.filterMap Event.activity? =
        (runFrom posting attempts cancelAt? left sent now).activities := by
  have first := begins_runFrom posting attempts cancelAt? left sent now
  generalize runFrom posting attempts cancelAt? left sent now = run at first ⊢
  have sending : Step posting (sent + left) ⟨sent, false, .ready⟩ (.act (.post posting))
      ⟨sent + 1, false, .requesting⟩ := .post sent false
  cases first with
  | withdrawn =>
    have leaving : Path posting (sent + left) ⟨sent + 1, true, .requesting⟩ _ _ :=
      .cons (.leave _ .requesting rfl) (.nil _)
    exact ⟨_, _, _, .cons sending (.cons (.cancel _ _) leaving), rfl⟩
  | succeeded judged =>
    exact ⟨_, _, _, .cons sending (.cons (.succeed _ _ _ _ judged) (.cons (.read _ _ _) (.nil _))),
      rfl⟩
  | failed judged =>
    have judged' := judged.imp_right fun ⟨judged, none_left⟩ =>
      And.intro judged (show sent + left < sent + 1 by omega)
    exact ⟨_, _, _, .cons sending (.cons (.fail _ _ _ _ judged') (.nil _)), rfl⟩
  | @interrupted left _ _ _ _ judged =>
    have missing : Step posting (sent + (left + 1)) ⟨sent + 1, false, .requesting⟩ _ _ :=
      .miss _ _ _ _ judged (by omega)
    exact ⟨_, _, _, .cons sending (.cons missing (.cons (.pause _ _) (.cons (.cancel _ _)
      (.cons (.leave _ .resting rfl) (.nil _))))), rfl⟩
  | @repeated left _ _ _ judged =>
    have missing : Step posting (sent + (left + 1)) ⟨sent + 1, false, .requesting⟩ _ _ :=
      .miss _ _ _ _ judged (by omega)
    obtain ⟨events, more, given, path, activities_eq⟩ :=
      exists_path_runFrom posting attempts cancelAt? left (sent + 1)
        (now + (attempts sent).elapsed + (pause (sent + 1)).nanos)
    rw [show sent + 1 + left = sent + (left + 1) by omega] at path
    refine ⟨_, more, given, .cons sending (.cons missing (.cons (.pause _ _) (.cons (.sleep _)
      (.cons (.wake _ _) path)))), ?_⟩
    exact congrArg (fun rest => .post posting :: .pause (pause (sent + 1)) :: rest) activities_eq

/-! ## What is promised -/

theorem Path.isAccounted (path : Path posting retries .start events call) :
    call.IsAccounted retries events :=
  isAccounted_start.path path

theorem Path.requests_le (path : Path posting retries .start events call) :
    requests events ≤ retries + 1 := by
  rw [path.isAccounted.sent_eq]
  exact path.isAccounted.agrees.sent_le

/-- A call that returns has been given up or gives the result of its last attempt. -/
theorem Path.result_eq (path : Path posting retries .start events call)
    {result : Except SubmissionError CreatedEntries} (returned : call.phase = .returned result) :
    result = .error cancelled ∧ .cancel ∈ events ∨
      (outcomes events).length = requests events ∧
        ∃ outcome, (outcomes events).getLast? = some outcome ∧ outcome.Yields result := by
  have agrees := path.isAccounted.agrees
  rw [returned] at agrees
  rw [path.isAccounted.sent_eq, ← path.isAccounted.isCancelled_iff]
  exact agrees.2

/-- What is promised of a call that is repeated at most `retries` times. -/
structure IsObedient (posting : Posting) (retries : Nat) (events : List Event) (call : Call) :
    Prop where
  /-- The request is never sent more often than is allowed. -/
  requests_le : requests events ≤ retries + 1
  /-- When the caller has given up, at most one more request is sent. -/
  atMostOne (earlier later : List Event) :
    events = earlier ++ .cancel :: later → requests later ≤ 1
  /-- No pause that is begun when the caller has given up is ever over. -/
  unwoken (earlier between later : List Event) (delay : Duration) :
    events = earlier ++ .cancel :: between ++ .act (.pause delay) :: later → .wake ∉ later
  /-- The call ends as given up, or with the result of the last attempt. -/
  result_eq (result : Except SubmissionError CreatedEntries) : call.phase = .returned result →
    result = .error cancelled ∨
      (outcomes events).length = requests events ∧
        ∃ outcome, (outcomes events).getLast? = some outcome ∧ outcome.Yields result
  /-- It ends as given up only if the caller has given up. -/
  cancel_mem : call.phase = .returned (.error cancelled) → .cancel ∈ events
  /-- A few steps after the caller has given up nothing more happens, -/
  soon (earlier later : List Event) : events = earlier ++ .cancel :: later → later.length ≤ 5
  /-- and then the call has returned, since otherwise something can happen. -/
  proceeds : .cancel ∈ events →
    (∃ result, call.phase = .returned result) ∨ ∃ event next, Step posting retries call event next

/-- Whatever happens in whatever order, a call keeps to its number of repetitions and ends soon when
its caller gives up.  The runs by the clock are among those of which this holds. -/
theorem cancellation_stops (posting : Posting) (retries : UInt32) :
    (∀ events call, Path posting retries.toNat .start events call →
      IsObedient posting retries.toNat events call) ∧
    ∀ attempts cancelAt?, ∃ events sent given,
      Path posting retries.toNat .start events ⟨sent, given, .returned
        ((run posting attempts retries.toNat cancelAt?).andThen LogClient.created).result⟩ ∧
      events.filterMap Event.activity? =
        (run posting attempts retries.toNat cancelAt?).activities := by
  refine ⟨fun events call path => ?_, fun attempts cancelAt? => ?_⟩
  · constructor
    case requests_le => exact path.requests_le
    case atMostOne =>
      rintro earlier later rfl
      exact path.requests_after_cancel_le
    case unwoken =>
      rintro earlier between later delay rfl
      exact path.wake_not_mem
    case result_eq =>
      intro result returned
      exact (path.result_eq returned).imp_left And.left
    case cancel_mem =>
      intro returned
      rcases path.result_eq returned with ⟨-, listed⟩ | ⟨-, outcome, -, yields⟩
      · exact listed
      · exact absurd yields Outcome.Yields.ne_cancelled
    case soon =>
      rintro earlier later rfl
      exact path.length_after_cancel_le
    case proceeds =>
      intro listed
      exact exists_step posting _ (path.isAccounted.isCancelled_iff.mpr listed)
  · have timed := exists_path_runFrom posting attempts cancelAt? retries.toNat 0 0
    rw [Nat.zero_add] at timed
    exact timed

section Sample

private def samplePosting : Posting where
  request := {
    target := ⟨"https", none, .segments [[]], none, none⟩
    userAgent := "client"
    contentType := "application/json"
    body := "{}" }
  timeout? := none

/-- The caller gives up while a pause is under way, the call takes the end of the pause first, and
the request that follows is the last one. -/
private def lateEvents : List Event :=
  [.act (.post samplePosting), .attempt (.failure .timedOut), .act (.pause (pause 1)), .sleep,
    .cancel, .wake, .act (.post samplePosting), .attempt (.failure .timedOut),
    .act (.pause (pause 2)), .leave]

theorem cancellation_stops_sample :
    ∃ call, Path samplePosting 5 .start lateEvents call ∧
      call.phase = .returned (.error cancelled) ∧ requests lateEvents = 2 ∧
      IsObedient samplePosting 5 lateEvents call := by
  have first : Step samplePosting 5 ⟨1, false, .requesting⟩ (.attempt (.failure .timedOut)) _ :=
    .miss 1 false _ _ rfl (by decide)
  have second : Step samplePosting 5 ⟨2, true, .requesting⟩ (.attempt (.failure .timedOut)) _ :=
    .miss 2 true _ _ rfl (by decide)
  have path : Path samplePosting (5 : UInt32).toNat .start lateEvents _ :=
    .cons (.post 0 false) (.cons first (.cons (.pause 1 false) (.cons (.sleep 1)
      (.cons (.cancel 1 .asleep) (.cons (.wake 1 true) (.cons (.post 1 true) (.cons second
        (.cons (.pause 2 true) (.cons (.leave 2 .resting rfl) (.nil _))))))))))
  exact ⟨_, path, rfl, rfl, (cancellation_stops samplePosting 5).1 _ _ path⟩

end Sample

end Retry
end Countersign
