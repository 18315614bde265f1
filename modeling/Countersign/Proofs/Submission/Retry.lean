import Countersign.Submission.Client
import Mathlib.Data.List.Basic
import Mathlib.Data.Option.Basic
import Mathlib.Order.Basic

/-!
# Repeating a request

The outcomes of the attempts decide how often a request is sent: it is repeated as long as it fails
for the moment and repetitions are left.  The last attempt alone decides what comes of it.
-/

namespace Countersign

namespace LogClient

/-- A text with the quotes at both ends taken off. -/
def IsUnquoted (text stripped : String) : Prop :=
  (∃ front back, text.toList =
    List.replicate front '"' ++ stripped.toList ++ List.replicate back '"') ∧
    stripped.toList.head? ≠ some '"' ∧ stripped.toList.getLast? ≠ some '"'

private theorem exists_eq_replicate_append (mark : Char) (characters : List Char) :
    ∃ count, characters = List.replicate count mark ++ characters.dropWhile (· == mark) ∧
      (characters.dropWhile (· == mark)).head? ≠ some mark := by
  induction characters with
  | nil => exact ⟨0, rfl, nofun⟩
  | cons first rest ih =>
    by_cases same : first = mark
    · subst same
      obtain ⟨count, rest_eq, head_ne⟩ := ih
      have dropped : (first :: rest).dropWhile (· == first) = rest.dropWhile (· == first) := by simp
      rw [dropped]
      exact ⟨count + 1, congrArg (first :: ·) rest_eq, head_ne⟩
    · have kept : (first :: rest).dropWhile (· == mark) = first :: rest := by simp [same]
      rw [kept]
      exact ⟨0, rfl, fun equal => same (Option.some.inj equal)⟩

theorem isUnquoted_unquote (text : String) : IsUnquoted text (unquote text) := by
  obtain ⟨front, text_eq, head_ne⟩ := exists_eq_replicate_append '"' text.toList
  generalize inner_eq : text.toList.dropWhile (· == '"') = inner at text_eq head_ne
  obtain ⟨back, reverse_eq, last_ne⟩ := exists_eq_replicate_append '"' inner.reverse
  have toList_eq : (unquote text).toList = (inner.reverse.dropWhile (· == '"')).reverse := by
    rw [unquote, String.toList_ofList, inner_eq]
  have inner_split : inner = (unquote text).toList ++ List.replicate back '"' := by
    rw [toList_eq, ← List.reverse_inj, List.reverse_append, List.reverse_reverse,
      List.reverse_replicate]
    exact reverse_eq
  refine ⟨⟨front, back, ?_⟩, ?_, ?_⟩
  · rw [List.append_assoc, ← inner_split]
    exact text_eq
  · intro quoted
    rw [inner_split, List.head?_append, quoted] at head_ne
    exact head_ne rfl
  · rw [toList_eq, List.getLast?_reverse]
    exact last_ne

end LogClient

namespace Retry

/-- An attempt that has failed for the moment: there was no connection or no answer in time, or the
log was overloaded or at fault. -/
inductive Outcome.IsTransient : Outcome → Prop
  | unreachable : IsTransient (.failure .unreachable)
  | timedOut : IsTransient (.failure .timedOut)
  | overloaded (response : HttpResponse) (status : response.status = 429) :
    IsTransient (.response response)
  | atFault (response : HttpResponse) (status : 500 ≤ response.status ∧ response.status < 600) :
    IsTransient (.response response)

/-- What comes of a call whose last attempt ends so. -/
inductive Outcome.Yields : Outcome → Except SubmissionError CreatedEntries → Prop
  | created (response : HttpResponse) {entries : LogEntries} {etag? location? : Option String}
    (success : 200 ≤ response.status ∧ response.status < 300)
    (read : (Json.Text.readBytes response.body).decode LogEntries.decoder = .ok entries)
    (etag : Option.Rel LogClient.IsUnquoted (response.header? "etag") etag?)
    (location : Option.Rel LogClient.IsUnquoted (response.header? "location") location?) :
    Yields (.response response) (.ok ⟨etag?, location?, entries⟩)
  | unreadable (response : HttpResponse) {fault : Json.DecodeError}
    (success : 200 ≤ response.status ∧ response.status < 300)
    (unread : (Json.Text.readBytes response.body).decode LogEntries.decoder = .error fault) :
    Yields (.response response) (.error (.response .notEntries))
  | refused (response : HttpResponse)
    (unsuccessful : ¬(200 ≤ response.status ∧ response.status < 300)) :
    Yields (.response response) (.error (refusal response))
  | unanswered (fault : TransportFault) : Yields (.failure fault) (.error (.transport fault))

theorem optionRel_map {related : String → String → Prop} {change : String → String}
    (changed : ∀ text, related text (change text)) (text? : Option String) :
    Option.Rel related text? (text?.map change) := by
  cases text? with
  | none => exact .none
  | some text => exact .some (changed text)

/-- A success yields what its response says. -/
theorem yields_created {response : HttpResponse}
    (success : 200 ≤ response.status ∧ response.status < 300) :
    (Outcome.response response).Yields (LogClient.created response) := by
  unfold LogClient.created
  split
  · rename_i entries read
    exact .created response success read (optionRel_map LogClient.isUnquoted_unquote _)
      (optionRel_map LogClient.isUnquoted_unquote _)
  · rename_i fault unread
    exact .unreadable response success unread

/-- What the verdict on an attempt says about it. -/
theorem judge_spec (outcome : Outcome) :
    match judge outcome with
    | .success response => outcome = .response response ∧ ¬outcome.IsTransient ∧
        outcome.Yields (LogClient.created response)
    | .transient error => outcome.IsTransient ∧ outcome.Yields (.error error)
    | .final error => ¬outcome.IsTransient ∧ outcome.Yields (.error error) := by
  match outcome with
  | .response response =>
    rw [judge]
    by_cases success : 200 ≤ response.status ∧ response.status < 300
    · rw [if_pos (by simpa [HttpStatus.isSuccess] using success)]
      refine ⟨rfl, ?_, yields_created success⟩
      rintro (_ | _ | _) <;> omega
    · rw [if_neg (by simpa [HttpStatus.isSuccess] using success)]
      by_cases transient :
          response.status = 429 ∨ 500 ≤ response.status ∧ response.status < 600
      · rw [if_pos (by simpa [HttpStatus.isTransient] using transient)]
        refine ⟨?_, .refused response success⟩
        rcases transient with overloaded | at_fault
        · exact .overloaded response overloaded
        · exact .atFault response at_fault
      · rw [if_neg (by simpa [HttpStatus.isTransient] using transient)]
        refine ⟨?_, .refused response success⟩
        rintro (_ | _ | _) <;> omega
  | .failure .unreachable => exact ⟨.unreachable, .unanswered _⟩
  | .failure .timedOut => exact ⟨.timedOut, .unanswered _⟩
  | .failure .broken => exact ⟨nofun, .unanswered _⟩
  | .failure (.ofClient reason) => exact ⟨nofun, .unanswered _⟩

/-- What a call does that sends its request again and again, with a pause before each repetition. -/
def schedule (posting : Posting) (sent repetitions : Nat) : List Activity :=
  (List.range' sent repetitions).flatMap
    (fun number => [.post posting, .pause (pause (number + 1))]) ++ [.post posting]

/-- The ways in which a run begins: it is over with its first attempt or in the pause after that, or
another run follows. -/
inductive Begins (posting : Posting) (attempts : Nat → Attempt) (cancelAt? : Option Nat) :
    (left sent now : Nat) → Run HttpResponse → Prop
  | withdrawn {left sent now moment : Nat} (given : cancelAt? = some moment)
    (early : moment < now + (attempts sent).elapsed) :
    Begins posting attempts cancelAt? left sent now (.single posting moment (.error cancelled))
  | succeeded {left sent now : Nat} {response : HttpResponse}
    (judged : judge (attempts sent).outcome = .success response) :
    Begins posting attempts cancelAt? left sent now
      (.single posting (now + (attempts sent).elapsed) (.ok response))
  | failed {left sent now : Nat} {error : SubmissionError}
    (judged : judge (attempts sent).outcome = .final error ∨
      judge (attempts sent).outcome = .transient error ∧ left = 0) :
    Begins posting attempts cancelAt? left sent now
      (.single posting (now + (attempts sent).elapsed) (.error error))
  | interrupted {left sent now moment : Nat} {error : SubmissionError}
    (judged : judge (attempts sent).outcome = .transient error) (given : cancelAt? = some moment)
    (early : moment < now + (attempts sent).elapsed + (pause (sent + 1)).nanos) :
    Begins posting attempts cancelAt? (left + 1) sent now
      ⟨[.post posting, .pause (pause (sent + 1))], moment, .error cancelled⟩
  | repeated {left sent now : Nat} {error : SubmissionError}
    (judged : judge (attempts sent).outcome = .transient error) :
    Begins posting attempts cancelAt? (left + 1) sent now
      ((runFrom posting attempts cancelAt? left (sent + 1)
        (now + (attempts sent).elapsed + (pause (sent + 1)).nanos)).after posting
          (pause (sent + 1)))

theorem cancelledBefore?_eq_some_iff {cancelAt? : Option Nat} {limit moment : Nat} :
    cancelledBefore? cancelAt? limit = some moment ↔ cancelAt? = some moment ∧ moment < limit := by
  rw [cancelledBefore?, Option.filter_eq_some_iff, decide_eq_true_eq]

theorem begins_runFrom (posting : Posting) (attempts : Nat → Attempt) (cancelAt? : Option Nat)
    (left sent now : Nat) :
    Begins posting attempts cancelAt? left sent now
      (runFrom posting attempts cancelAt? left sent now) := by
  rw [runFrom.eq_def]
  dsimp only
  split
  case h_1 moment early =>
    obtain ⟨given, early⟩ := cancelledBefore?_eq_some_iff.mp early
    exact .withdrawn given early
  case h_2 =>
    split
    case h_1 judged => exact .succeeded judged
    case h_2 judged => exact .failed (.inl judged)
    case h_3 judged => exact .failed (.inr ⟨judged, rfl⟩)
    case h_4 judged =>
      split
      case h_1 moment early =>
        obtain ⟨given, early⟩ := cancelledBefore?_eq_some_iff.mp early
        exact .interrupted judged given early
      case h_2 => exact .repeated judged

end Retry

end Countersign
