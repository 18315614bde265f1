import Countersign.Proofs.Submission.Retry
import Countersign.Submission.Options
import Mathlib.Tactic.IntervalCases

/-!
# The time of a submission

A submission is given the time that its attempts and pauses take at most.  The pauses are added up
without ever going beyond what a duration holds, and the sum has a closed form, since from the
seventh on all pauses are the longest.
-/

namespace Countersign

namespace Duration

theorem ext {first second : Duration} (nanos_eq : first.nanos = second.nanos) : first = second := by
  cases first
  cases second
  cases nanos_eq
  rfl

theorem nanos_ofNanos {nanos : Nat} (fits : nanos ≤ maxDurationNanos) :
    (ofNanos nanos).nanos = nanos :=
  Nat.min_eq_left fits

theorem nanos_shorter (first second : Duration) :
    (first.shorter second).nanos = min first.nanos second.nanos := by
  rw [shorter]
  split
  · exact (Nat.min_eq_left ‹_›).symm
  · exact (Nat.min_eq_right (Nat.le_of_not_le ‹_›)).symm

theorem add?_eq_some {first second : Duration} {nanos : Nat}
    (sum_eq : first.nanos + second.nanos = nanos) (fits : nanos ≤ maxDurationNanos) :
    first.add? second = some (ofNanos nanos) := by
  subst sum_eq
  rw [add?, dif_pos fits]
  exact congrArg some (ext (nanos_ofNanos fits).symm)

theorem scale?_eq_some {duration : Duration} {factor nanos : Nat}
    (product_eq : duration.nanos * factor = nanos) (fits : nanos ≤ maxDurationNanos) :
    duration.scale? factor = some (ofNanos nanos) := by
  subst product_eq
  rw [scale?, dif_pos fits]
  exact congrArg some (ext (nanos_ofNanos fits).symm)

end Duration

namespace Retry

/-! ## Pauses -/

/-- The bound on the exponent is never felt. -/
theorem pauseNanos_eq (number : Nat) :
    pauseNanos number = min (firstPause * 2 ^ (number - 1)) longestPause := by
  rw [pauseNanos]
  rcases Nat.le_total (number - 1) 16 with small | large
  · rw [Nat.min_eq_left small]
    rfl
  · have enough : 2 ^ 16 ≤ 2 ^ (number - 1) := Nat.pow_le_pow_right Nat.zero_lt_two large
    rw [Nat.min_eq_right large, Nat.pow_eq, firstPause, longestPause]
    omega

theorem pauseNanos_le (number : Nat) : pauseNanos number ≤ longestPause :=
  Nat.min_le_right _ _

theorem longestPause_le : longestPause ≤ maxDurationNanos := by decide

theorem nanos_pause (number : Nat) : (pause number).nanos = pauseNanos number :=
  Duration.nanos_ofNanos (Nat.le_trans (pauseNanos_le number) longestPause_le)

theorem pauseNanos_of_seven_le {number : Nat} (large : 7 ≤ number) :
    pauseNanos number = longestPause := by
  have enough : 2 ^ 6 ≤ 2 ^ (number - 1) := Nat.pow_le_pow_right Nat.zero_lt_two (by omega)
  rw [pauseNanos_eq, firstPause, longestPause]
  omega

theorem powerOfTwo?_eq {exponent : UInt32} (small : exponent.toNat ≤ 16) :
    ∃ power, powerOfTwo? exponent = some power ∧ power.toNat = 2 ^ exponent.toNat := by
  have all : ∀ number : Fin 17, ∃ power,
      powerOfTwo? (UInt32.ofNat number) = some power ∧ power.toNat = 2 ^ number.val :=
    fun number => ⟨UInt32.ofNat (2 ^ number.val), by decide +revert, by decide +revert⟩
  have found := all ⟨exponent.toNat, by omega⟩
  rwa [UInt32.ofNat_toNat] at found

/-- The exponent of a pause, reckoned in words. -/
theorem toNat_exponent (number : UInt32) :
    let earlier : UInt32 := if number = 0 then 0 else number - 1
    (if earlier ≤ 16 then earlier else 16).toNat = min (number.toNat - 1) 16 := by
  intro earlier
  have earlier_eq : earlier.toNat = number.toNat - 1 := by
    by_cases zero : number = 0
    · subst zero
      rfl
    · have positive : (1 : UInt32) ≤ number := by
        rw [UInt32.le_iff_toNat_le]
        exact Nat.one_le_iff_ne_zero.mpr fun toNat_eq => zero (UInt32.toNat_inj.mp toNat_eq)
      exact (congrArg UInt32.toNat (if_neg zero)).trans (UInt32.toNat_sub_of_le _ _ positive)
  by_cases small : earlier ≤ 16
  · rw [if_pos small, ← earlier_eq]
    exact (Nat.min_eq_left (UInt32.le_iff_toNat_le.mp small)).symm
  · rw [if_neg small, ← earlier_eq]
    rw [UInt32.le_iff_toNat_le] at small
    exact (Nat.min_eq_right (Nat.le_of_not_le small)).symm

/-- Reckoning a pause never goes beyond what words and durations hold. -/
theorem reckonedPause?_eq (number : UInt32) :
    reckonedPause? number = some (pause number.toNat) := by
  have exponent_eq := toNat_exponent number
  dsimp only at exponent_eq
  have small := exponent_eq.le.trans (Nat.min_le_right _ _)
  obtain ⟨factor, power_eq, factor_eq⟩ := powerOfTwo?_eq small
  have fits : firstPause * factor.toNat ≤ maxDurationNanos := by
    rw [factor_eq]
    exact Nat.le_trans (Nat.mul_le_mul_left _ (Nat.pow_le_pow_right Nat.zero_lt_two small))
      (by decide)
  have scaled : (Duration.ofNanos firstPause).scale? factor.toNat =
      some (Duration.ofNanos (firstPause * factor.toNat)) :=
    Duration.scale?_eq_some (by rw [Duration.nanos_ofNanos (by decide)]) fits
  have shorter_eq : ((Duration.ofNanos (firstPause * factor.toNat)).shorter
      (Duration.ofNanos longestPause)).nanos = min (firstPause * factor.toNat) longestPause := by
    rw [Duration.nanos_shorter, Duration.nanos_ofNanos fits, Duration.nanos_ofNanos longestPause_le]
  unfold reckonedPause?
  dsimp only
  rw [power_eq]
  dsimp only [bind, Option.bind]
  rw [scaled]
  refine congrArg some (Duration.ext ?_)
  rw [shorter_eq, nanos_pause, pauseNanos, factor_eq, exponent_eq]
  rfl

/-! ## The sum of all pauses -/

theorem budgetNanos_succ (retries : Nat) :
    budgetNanos (retries + 1) = budgetNanos retries + pauseNanos (retries + 1) := by
  rcases Nat.lt_or_ge retries 6 with few | many
  · interval_cases retries <;> rfl
  · rw [pauseNanos_of_seven_le (by omega)]
    have one_more :
        longestPause * (retries + 1 - 6) = longestPause * (retries - 6) + longestPause := by
      rw [Nat.succ_sub many, Nat.mul_succ]
    unfold budgetNanos growingPauses
    rw [Nat.min_eq_right many, Nat.min_eq_right (by omega : 6 ≤ retries + 1), one_more,
      Nat.add_assoc]

theorem budgetNanos_eq_sum (retries : Nat) :
    budgetNanos retries =
      ((List.range retries).map fun earlier => pauseNanos (earlier + 1)).sum := by
  induction retries with
  | zero => rfl
  | succ retries ih =>
    rw [budgetNanos_succ, ih, List.range_succ, List.map_append, List.sum_append]
    simp

theorem budgetNanos_le (retries : Nat) : budgetNanos retries ≤ longestPause * retries := by
  induction retries with
  | zero => exact Nat.le_refl 0
  | succ retries ih =>
    rw [budgetNanos_succ, Nat.mul_succ]
    exact Nat.add_le_add ih (pauseNanos_le _)

theorem budgetNanos_fits (retries : UInt32) : budgetNanos retries.toNat ≤ maxDurationNanos := by
  have below := retries.toNat_lt
  calc
    budgetNanos retries.toNat ≤ longestPause * retries.toNat := budgetNanos_le retries.toNat
    _ ≤ longestPause * 2 ^ 32 := Nat.mul_le_mul_left longestPause below.le
    _ ≤ maxDurationNanos := by decide

theorem nanos_budget (retries : UInt32) :
    (budget retries.toNat).nanos = budgetNanos retries.toNat :=
  Duration.nanos_ofNanos (budgetNanos_fits retries)

theorem budgetNanos_mono {retries more : Nat} (le : retries ≤ more) :
    budgetNanos retries ≤ budgetNanos more := by
  induction le with
  | refl => exact Nat.le_refl _
  | step _ ih =>
    rw [budgetNanos_succ]
    exact Nat.le_add_right_of_le ih

theorem budgetNanos_of_le_six {retries : Nat} (few : retries ≤ 6) :
    budgetNanos retries = 100 * (2 ^ retries - 1) * 1000000 := by
  interval_cases retries <;> rfl

theorem budgetNanos_of_six_le {retries : Nat} (many : 6 ≤ retries) :
    budgetNanos retries = (6300 + 5000 * (retries - 6)) * 1000000 := by
  unfold budgetNanos growingPauses
  rw [Nat.min_eq_right many, firstPause, longestPause, Nat.pow_eq]
  omega

/-- Adding up the pauses never goes beyond what durations hold. -/
theorem reckonedBudget?_eq (retries : UInt32) :
    reckonedBudget? retries = some (budget retries.toNat) := by
  -- No partial sum is longer than the whole, so the fold is followed from its beginning.
  have upTo : ∀ count ≤ retries.toNat, (List.range count).foldlM
      (fun total earlier => do total.add? (← reckonedPause? (UInt32.ofNat (earlier + 1))))
      (Duration.ofNanos 0) = some (Duration.ofNanos (budgetNanos count)) := by
    intro count
    induction count with
    | zero => exact fun _ => rfl
    | succ count ih =>
      intro count_le
      have fits := Nat.le_trans (budgetNanos_mono count_le) (budgetNanos_fits retries)
      have number_eq : (UInt32.ofNat (count + 1)).toNat = count + 1 :=
        UInt32.toNat_ofNat_of_lt' (Nat.lt_of_le_of_lt count_le retries.toNat_lt)
      rw [List.range_succ, List.foldlM_append, ih (by omega)]
      simp only [List.foldlM_cons, List.foldlM_nil, reckonedPause?_eq, number_eq,
        Option.bind_eq_bind, Option.bind_some, Option.pure_def, Option.bind_fun_some]
      refine Duration.add?_eq_some ?_ fits
      rw [nanos_pause, budgetNanos_succ, Duration.nanos_ofNanos]
      rw [budgetNanos_succ] at fits
      exact Nat.le_trans (Nat.le_add_right _ _) fits
  exact upTo retries.toNat (Nat.le_refl _)

/-! ## The time that a call takes -/

/-- A call takes at most the time of its attempts and pauses, whether or not it is given up. -/
theorem finished_runFrom_le (posting : Posting) {attempts : Nat → Attempt} {limit : Nat}
    (cancelAt? : Option Nat) (left sent now : Nat)
    (timely : ∀ number ≤ sent + left, (attempts number).elapsed ≤ limit) :
    (runFrom posting attempts cancelAt? left sent now).finished + budgetNanos sent ≤
      now + limit * (left + 1) + budgetNanos (sent + left) := by
  -- Pauses are counted from the beginning of the call, so those that are over stand on the left.
  have first := begins_runFrom posting attempts cancelAt? left sent now
  have first_timely := timely sent (Nat.le_add_right sent left)
  have spent := budgetNanos_mono (Nat.le_add_right sent left)
  have one_attempt : limit ≤ limit * (left + 1) := Nat.le_mul_of_pos_right limit left.succ_pos
  generalize runFrom posting attempts cancelAt? left sent now = run at first ⊢
  cases first with
  | withdrawn _ early =>
    dsimp only [Run.single]
    omega
  | succeeded | failed =>
    dsimp only [Run.single]
    omega
  | @interrupted left _ _ _ _ _ _ early =>
    have next_spent : budgetNanos (sent + 1) ≤ budgetNanos (sent + (left + 1)) :=
      budgetNanos_mono (by omega)
    rw [nanos_pause] at early
    rw [budgetNanos_succ] at next_spent
    dsimp only
    omega
  | @repeated left _ _ _ judged =>
    have rest := finished_runFrom_le posting cancelAt? left (sent + 1)
      (now + (attempts sent).elapsed + (pause (sent + 1)).nanos)
      fun number number_le => timely number (by omega)
    rw [budgetNanos_succ, nanos_pause, show sent + 1 + left = sent + (left + 1) by omega] at rest
    rw [Run.after, nanos_pause, Nat.mul_succ limit (left + 1)]
    dsimp only
    omega

end Retry

theorem LogClient.finished_call_le (client : LogClient) (userAgent : String)
    (request : EntryRequest) {attempts : Nat → Retry.Attempt} {limit : Nat}
    (cancelAt? : Option Nat)
    (timely : ∀ number ≤ client.retries.toNat, (attempts number).elapsed ≤ limit) :
    (client.call userAgent request attempts cancelAt?).finished ≤
      limit * (client.retries.toNat + 1) + Retry.budgetNanos client.retries.toNat := by
  rw [call]
  split
  case h_1 posting _ =>
    have bounded := Retry.finished_runFrom_le posting cancelAt? client.retries.toNat 0 0
      fun number number_le => timely number (by omega)
    rwa [Nat.zero_add, Nat.zero_add] at bounded
  case h_2 => exact Nat.zero_le _

namespace SubmissionOptions

/-- What the time that a submission is given amounts to when one attempt may take `timeout`. -/
structure Allots (options : SubmissionOptions) (timeout deadline : Duration) : Prop where
  /-- Pauses double from a tenth of a second up to five seconds. -/
  pause_eq (number : UInt32) : 1 ≤ number →
    (Retry.pause number.toNat).nanos = min (100 * 2 ^ (number.toNat - 1)) 5000 * 1000000
  /-- Reckoning a pause in words and durations comes to that, and no step leaves their range. -/
  reckonedPause?_eq (number : UInt32) :
    Retry.reckonedPause? number = some (Retry.pause number.toNat)
  /-- The budget is the sum of the pauses. -/
  budget_eq : (Retry.budget options.retries.toNat).nanos =
    ((List.range options.retries.toNat).map fun earlier => (Retry.pause (earlier + 1)).nanos).sum
  /-- Adding up the pauses comes to the budget, and no step leaves the range of durations. -/
  reckonedBudget?_eq :
    Retry.reckonedBudget? options.retries = some (Retry.budget options.retries.toNat)
  /-- Up to six pauses double. -/
  budget_few : options.retries.toNat ≤ 6 →
    (Retry.budget options.retries.toNat).nanos = 100 * (2 ^ options.retries.toNat - 1) * 1000000
  /-- All further ones are the longest. -/
  budget_many : 6 ≤ options.retries.toNat →
    (Retry.budget options.retries.toNat).nanos =
      (6300 + 5000 * (options.retries.toNat - 6)) * 1000000
  /-- The deadline is the time of all attempts and pauses, or the longest duration. -/
  deadline_eq : deadline.nanos =
    min (timeout.nanos * min (options.retries.toNat + 1) (2 ^ 32 - 1) +
      (Retry.budget options.retries.toNat).nanos) maxDurationNanos
  /-- A call whose attempts keep to their time is over by then. -/
  covers (client : LogClient) (userAgent : String) (request : EntryRequest)
    (attempts : Nat → Retry.Attempt) (cancelAt? : Option Nat) :
    client.retries = options.retries → options.retries.toNat < 2 ^ 32 - 1 →
    timeout.nanos * (options.retries.toNat + 1) + (Retry.budget options.retries.toNat).nanos ≤
      maxDurationNanos →
    (∀ number ≤ options.retries.toNat, (attempts number).elapsed ≤ timeout.nanos) →
    (client.call userAgent request attempts cancelAt?).finished ≤ deadline.nanos

theorem nanos_deadline (options : SubmissionOptions) (timeout : Duration) :
    ((timeout.scale options.attempts).add (Retry.budget options.retries.toNat)).nanos =
      min (timeout.nanos * min (options.retries.toNat + 1) (2 ^ 32 - 1) +
        (Retry.budget options.retries.toNat).nanos) maxDurationNanos := by
  change min (min (timeout.nanos * options.attempts) maxDurationNanos + _) maxDurationNanos =
    min (timeout.nanos * options.attempts + _) maxDurationNanos
  omega

/-- The deadline of a submission leaves every attempt and every pause its time. -/
theorem deadline_covers (options : SubmissionOptions) (timeout : Duration)
    (effective : options.effectiveTimeout? = some timeout) :
    ∃ deadline, options.deadline? = some deadline ∧ options.Allots timeout deadline := by
  refine ⟨(timeout.scale options.attempts).add (Retry.budget options.retries.toNat), ?_, ?_⟩
  · rw [deadline?, effective]
    rfl
  · constructor
    case pause_eq =>
      intro number _
      rw [Retry.nanos_pause, Retry.pauseNanos_eq, Retry.firstPause, Retry.longestPause]
      omega
    case reckonedPause?_eq => exact Retry.reckonedPause?_eq
    case budget_eq =>
      simp only [Retry.nanos_budget, Retry.budgetNanos_eq_sum, Retry.nanos_pause]
    case reckonedBudget?_eq => exact Retry.reckonedBudget?_eq options.retries
    case budget_few =>
      intro few
      rw [Retry.nanos_budget, Retry.budgetNanos_of_le_six few]
    case budget_many =>
      intro many
      rw [Retry.nanos_budget, Retry.budgetNanos_of_six_le many]
    case deadline_eq => exact options.nanos_deadline timeout
    case covers =>
      intro client userAgent request attempts cancelAt? retries_eq few fits timely
      rw [nanos_deadline, Nat.min_eq_left (by omega : options.retries.toNat + 1 ≤ 2 ^ 32 - 1),
        Nat.min_eq_left fits, Retry.nanos_budget, ← retries_eq]
      rw [← retries_eq] at timely
      exact client.finished_call_le userAgent request cancelAt? timely

/-- Three attempts of two seconds each, with pauses of 100 and 200 milliseconds between them. -/
theorem deadline_covers_sample :
    let options : SubmissionOptions :=
      { baseUrl := LogClient.publicLog, timeout? := some (Duration.ofMillis 2000), retries := 2 }
    ∃ deadline, options.deadline? = some deadline ∧ deadline.nanos = 6300000000 ∧
      options.Allots (Duration.ofMillis 2000) deadline := by
  intro options
  obtain ⟨deadline, deadline_eq, allots⟩ :=
    options.deadline_covers (Duration.ofMillis 2000) (by decide)
  exact ⟨deadline, deadline_eq, allots.deadline_eq.trans (by decide), allots⟩

end SubmissionOptions
end Countersign
