import Countersign.Proofs.Json.Digit
import Countersign.Proofs.Time.Calendar
import Countersign.Time.Timestamp

/-!
# Timestamps are read back

The timestamp of an instant whose year has four digits denotes that instant again, in a leap second
too if it ends a minute.  A leap second anywhere else is spelled as the second after it, and is read
as that second.  An instant that has been read is never in such a leap second.
-/

namespace Countersign

open Json (Digit)

/-- The year of an instant in universal time. -/
def Instant.year (instant : Instant) : Int :=
  (Calendar.dateOfDays (instant.seconds / 86400)).year

/-- An instant whose year four digits can spell. -/
def Instant.HasFourDigitYear (instant : Instant) : Prop :=
  0 ≤ instant.year ∧ instant.year ≤ 9999

namespace Instant

theorem addMinutes_zero (instant : Instant) : instant.addMinutes 0 = instant := by
  simp [addMinutes]

/-- An instant that clocks show: a leap second follows only the last second of a minute. -/
def IsRegular (instant : Instant) : Prop :=
  nanosPerSecond ≤ instant.nanos → instant.seconds % 60 = 59

instance (instant : Instant) : Decidable instant.IsRegular :=
  inferInstanceAs (Decidable (_ → _))

/-- The instant that clocks show: a leap second within a minute counts as the second after it. -/
def settle (instant : Instant) : Instant :=
  if instant.IsRegular then instant
  else ⟨instant.seconds + 1, instant.nanos - nanosPerSecond,
    Nat.lt_of_le_of_lt (Nat.sub_le _ _) instant.nanos_lt⟩

theorem settle_eq_iff {instant : Instant} : instant.settle = instant ↔ instant.IsRegular := by
  rw [settle]
  split
  · rename_i regular
    exact iff_of_true rfl regular
  · rename_i irregular
    refine iff_of_false (fun same => ?_) irregular
    have seconds_eq := congrArg seconds same
    dsimp only at seconds_eq
    omega

theorem isRegular_of_ofParts? {date : Calendar.Date} {hour minute second nanos : Nat}
    {instant : Instant} (made : ofParts? date hour minute second nanos = some instant) :
    instant.IsRegular := by
  intro leap
  unfold ofParts? at made
  split at made
  case isFalse => cases made
  case isTrue bounds =>
    dsimp only at made
    split at made
    · cases made
      dsimp only at leap
      omega
    split at made
    · cases made
      dsimp only
      omega
    · cases made

theorem IsRegular.addMinutes {instant : Instant} (regular : instant.IsRegular) (minutes : Int) :
    (instant.addMinutes minutes).IsRegular := by
  intro leap
  have last := regular leap
  dsimp only [Instant.addMinutes]
  omega

end Instant

namespace Timestamp

/-- The last decimal digits of a number, with leading zeros. -/
def digits : (width value : Nat) → List Digit
  | 0, _ => []
  | width + 1, value => digits width (value / 10) ++ [⟨value % 10, by omega⟩]

theorem length_digits (width value : Nat) : (digits width value).length = width := by
  induction width generalizing value with
  | zero => rfl
  | succ width ih => rw [digits, List.length_append, ih, List.length_singleton]

theorem writeDigits_eq (width value : Nat) :
    writeDigits width value = (digits width value).map Digit.toChar := by
  induction width generalizing value with
  | zero => rfl
  | succ width ih =>
    rw [writeDigits, digits, List.map_append, ih, List.map_singleton, Digit.toChar_ofNat]

theorem value_digits {width value : Nat} (below : value < 10 ^ width) :
    Digit.value (digits width value) = value := by
  induction width generalizing value with
  | zero =>
    rw [pow_zero] at below
    rw [show value = 0 by omega]
    rfl
  | succ width ih =>
    rw [pow_succ] at below
    rw [digits, Digit.value_append, ih (by omega), Digit.value_singleton, List.length_singleton,
      pow_one]
    dsimp only
    omega

theorem readDigits?_map_toChar (spelled : List Digit) (rest : List Char) :
    readDigits? spelled.length (spelled.map Digit.toChar ++ rest) = some (spelled, rest) := by
  induction spelled with
  | nil => rfl
  | cons first more ih =>
    rw [List.length_cons, List.map_cons, List.cons_append, readDigits?, Digit.ofChar?_toChar, ih]
    rfl

theorem readNumber?_writeDigits {width value : Nat} (below : value < 10 ^ width)
    (rest : List Char) :
    readNumber? width (writeDigits width value ++ rest) = some (value, rest) := by
  have read := readDigits?_map_toChar (digits width value) rest
  rw [length_digits] at read
  rw [readNumber?, writeDigits_eq, read, Option.map_some]
  dsimp only
  rw [value_digits below]

theorem readMark?_cons (mark : Char) (rest : List Char) :
    readMark? mark (mark :: rest) = some rest := by
  simp [readMark?]

theorem readDate?_write {date : Calendar.Date} (year_bounds : 0 ≤ date.year ∧ date.year ≤ 9999)
    (month_lt : date.month < 100) (day_lt : date.day < 100) (rest : List Char) :
    readDate? (writeYear date.year ++ '-' :: (writeDigits 2 date.month ++ '-' ::
      (writeDigits 2 date.day ++ rest))) = some (date, rest) := by
  rw [readDate?, writeYear, if_pos year_bounds, readNumber?_writeDigits (by omega)]
  simp only [Option.bind_eq_bind, Option.bind_some, readMark?_cons]
  rw [readNumber?_writeDigits (by omega)]
  simp only [Option.bind_some, readMark?_cons]
  rw [readNumber?_writeDigits (by omega)]
  simp only [Option.bind_some, Int.toNat_of_nonneg year_bounds.1]
  rfl

theorem readTime?_write {hour minute second : Nat} (hour_lt : hour < 100) (minute_lt : minute < 100)
    (second_lt : second < 100) (rest : List Char) :
    readTime? (writeDigits 2 hour ++ ':' :: (writeDigits 2 minute ++ ':' ::
      (writeDigits 2 second ++ rest))) = some ((hour, minute, second), rest) := by
  rw [readTime?, readNumber?_writeDigits (by omega)]
  simp only [Option.bind_eq_bind, Option.bind_some, readMark?_cons]
  rw [readNumber?_writeDigits (by omega)]
  simp only [Option.bind_some, readMark?_cons]
  rw [readNumber?_writeDigits (by omega)]
  rfl

theorem readAllDigits_map_toChar (spelled : List Digit) {next : Char}
    (other : Digit.ofChar? next = none) (rest : List Char) :
    readAllDigits (spelled.map Digit.toChar ++ next :: rest) = (spelled, next :: rest) := by
  induction spelled with
  | nil => simp [readAllDigits, other]
  | cons first more ih =>
    rw [List.map_cons, List.cons_append, readAllDigits, Digit.ofChar?_toChar]
    dsimp only
    rw [ih]

private theorem readFraction?_digits {width value : Nat} (positive : 0 < width) (short : width ≤ 9)
    (below : value < 10 ^ width) (rest : List Char) :
    readFraction? ('.' :: writeDigits width value ++ 'Z' :: rest) =
      some (value * 10 ^ (9 - width), 'Z' :: rest) := by
  have length_eq := length_digits width value
  rw [readFraction?, List.cons_append, readMark?_cons, writeDigits_eq]
  dsimp only
  rw [readAllDigits_map_toChar _ (by decide)]
  split
  · rename_i empty
    rw [(Prod.mk.inj empty).1] at length_eq
    rw [← length_eq] at positive
    exact absurd positive (by decide)
  · rename_i same
    obtain ⟨rfl, rfl⟩ := Prod.mk.inj same
    rw [fraction, List.take_of_length_le (by rw [length_eq]; exact short), value_digits below,
      length_eq]
    rfl

theorem readFraction?_write {nanos : Nat} (below : nanos < nanosPerSecond) (rest : List Char) :
    readFraction? (writeFraction nanos ++ 'Z' :: rest) = some (nanos, 'Z' :: rest) := by
  unfold nanosPerSecond at below
  unfold writeFraction
  split
  · rename_i zero
    rw [zero]
    rfl
  split
  · rw [readFraction?_digits (by decide) (by decide) (by omega)]
    congr 2
    omega
  split
  · rw [readFraction?_digits (by decide) (by decide) (by omega)]
    congr 2
    omega
  · rw [readFraction?_digits (by decide) (by decide) (by omega)]
    simp

/-- The date and the time of day that a timestamp spells are those that clocks show. -/
theorem ofParts?_write (instant : Instant) :
    Instant.ofParts? (Calendar.dateOfDays (instant.seconds / 86400))
      ((instant.seconds % 86400).toNat / 3600) ((instant.seconds % 86400).toNat / 60 % 60)
      ((instant.seconds % 86400).toNat % 60 + instant.nanos / nanosPerSecond)
      (instant.nanos % nanosPerSecond) = some instant.settle := by
  obtain ⟨seconds, nanos, nanos_lt⟩ := instant
  have valid := Calendar.isValid_dateOfDays (seconds / 86400)
  have per_second : nanosPerSecond = 1000000000 := rfl
  have split := Nat.div_add_mod nanos nanosPerSecond
  have part_lt : nanos % nanosPerSecond < nanosPerSecond := Nat.mod_lt _ (by decide)
  simp only [Instant.ofParts?, Calendar.daysFromEpoch_dateOfDays]
  rw [dif_pos ⟨valid, by omega, by omega, part_lt⟩]
  by_cases leap : nanosPerSecond ≤ nanos
  · have whole : nanos / nanosPerSecond = 1 :=
      Nat.div_eq_of_lt_le (by omega) (by omega)
    rw [whole] at split ⊢
    by_cases last : seconds % 60 = 59
    · have regular : Instant.IsRegular ⟨seconds, nanos, nanos_lt⟩ := fun _ => last
      rw [if_neg (by omega), if_pos (by omega), Instant.settle_eq_iff.mpr regular]
      simp only [Option.some.injEq, Instant.mk.injEq]
      omega
    · have irregular : ¬Instant.IsRegular ⟨seconds, nanos, nanos_lt⟩ := fun regular =>
        last (regular leap)
      rw [if_pos (by omega), Instant.settle, if_neg irregular]
      simp only [Option.some.injEq, Instant.mk.injEq]
      omega
  · have whole : nanos / nanosPerSecond = 0 := Nat.div_eq_of_lt (by omega)
    have regular : Instant.IsRegular ⟨seconds, nanos, nanos_lt⟩ := fun leaps => absurd leaps leap
    rw [whole] at split ⊢
    rw [if_pos (by omega), Instant.settle_eq_iff.mpr regular]
    simp only [Option.some.injEq, Instant.mk.injEq]
    omega

/-- The time of day that a timestamp spells is read, in a leap second too. -/
theorem readTime?_ofDay (instant : Instant) (rest : List Char) :
    readTime? (writeDigits 2 ((instant.seconds % 86400).toNat / 3600) ++ ':' ::
      (writeDigits 2 ((instant.seconds % 86400).toNat / 60 % 60) ++ ':' ::
        (writeDigits 2 ((instant.seconds % 86400).toNat % 60 + instant.nanos / nanosPerSecond) ++
          rest))) =
      some (((instant.seconds % 86400).toNat / 3600, (instant.seconds % 86400).toNat / 60 % 60,
        (instant.seconds % 86400).toNat % 60 + instant.nanos / nanosPerSecond), rest) := by
  have leap_lt := instant.nanos_lt
  unfold nanosPerSecond at leap_lt
  exact readTime?_write (by omega) (by omega) (by unfold nanosPerSecond; omega) rest

theorem readChars?_writeChars {instant : Instant} (four_digits : instant.HasFourDigitYear) :
    readChars? (writeChars instant) = some instant.settle := by
  obtain ⟨month_lt, day_lt⟩ :=
    Calendar.Date.lt_of_isValid (Calendar.isValid_dateOfDays (instant.seconds / 86400))
  have nanos_lt : instant.nanos % nanosPerSecond < nanosPerSecond := Nat.mod_lt _ (by decide)
  simp only [writeChars, List.append_assoc, List.cons_append, List.nil_append]
  rw [readChars?, readDate?_write four_digits month_lt day_lt]
  simp only [Option.bind_eq_bind, Option.bind_some, readSeparator?, readMark?_cons]
  rw [readTime?_ofDay]
  simp only [Option.bind_some]
  rw [readFraction?_write nanos_lt]
  simp only [Option.bind_some, readOffset?, true_or, if_true, List.isEmpty_nil,
    ofParts?_write instant, neg_zero, Instant.addMinutes_zero]
  rfl

/-- The timestamp of an instant denotes the instant that clocks show. -/
theorem read?_write {instant : Instant} (four_digits : instant.HasFourDigitYear) :
    read? (write instant) = some instant.settle := by
  rw [read?, write, String.toList_ofList, readChars?_writeChars four_digits]

/-- An instant that has been read is one that clocks show. -/
theorem isRegular_of_read? {text : String} {instant : Instant} (read : read? text = some instant) :
    instant.IsRegular := by
  simp only [read?, readChars?, Option.bind_eq_bind, Option.bind_eq_some_iff] at read
  obtain ⟨_, _, _, _, _, _, _, _, _, _, made⟩ := read
  split at made
  · obtain ⟨there, there_made, same⟩ := Option.bind_eq_some_iff.mp made
    cases same
    exact (Instant.isRegular_of_ofParts? there_made).addMinutes _
  · cases made

/-- An instant that has been read is read again from its own timestamp. -/
theorem read?_write_of_read? {text : String} {instant : Instant}
    (read : read? text = some instant) (four_digits : instant.HasFourDigitYear) :
    read? (write instant) = some instant := by
  rw [read?_write four_digits, Instant.settle_eq_iff.mpr (isRegular_of_read? read)]

end Timestamp
end Countersign
