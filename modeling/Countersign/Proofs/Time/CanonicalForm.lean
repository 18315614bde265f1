import Countersign.Proofs.Time.Timestamp

/-!
# Timestamps have one written form

Instants that clocks show are written alike only if they are the same.  The written form is read
back exactly when four digits can spell the year, and an instant that has been read lies at most in
the year before the first or in the one after the last of those: its zone has moved it by less than
a day.
-/

namespace Countersign

open Json (Digit)

theorem Json.Digit.value_lt (spelled : List Digit) : value spelled < 10 ^ spelled.length := by
  induction spelled using List.reverseRecOn with
  | nil => decide
  | append_singleton front last ih =>
    rw [value_append, value_singleton, List.length_append, List.length_singleton, pow_one, pow_succ]
    have := last.isLt
    omega

namespace Timestamp

/-! ## What has been read -/

theorem length_of_readDigits? {count : Nat} {text rest : List Char} {spelled : List Digit}
    (read : readDigits? count text = some (spelled, rest)) : spelled.length = count := by
  induction count generalizing text spelled with
  | zero =>
    cases read
    rfl
  | succ count ih =>
    cases text with
    | nil => cases read
    | cons first text =>
      simp only [readDigits?, Option.bind_eq_bind, Option.bind_eq_some_iff] at read
      obtain ⟨digit, -, ⟨more, after⟩, more_read, same⟩ := read
      cases same
      rw [List.length_cons, ih more_read]

theorem lt_of_readNumber? {count value : Nat} {text rest : List Char}
    (read : readNumber? count text = some (value, rest)) : value < 10 ^ count := by
  obtain ⟨⟨spelled, after⟩, spelled_read, same⟩ := Option.map_eq_some_iff.mp read
  cases same
  exact length_of_readDigits? spelled_read ▸ Digit.value_lt spelled

theorem year_of_readDate? {text rest : List Char} {date : Calendar.Date}
    (read : readDate? text = some (date, rest)) : 0 ≤ date.year ∧ date.year ≤ 9999 := by
  simp only [readDate?, Option.bind_eq_bind, Option.bind_eq_some_iff] at read
  obtain ⟨⟨year, _⟩, year_read, _, _, ⟨month, _⟩, _, _, _, ⟨day, _⟩, _, same⟩ := read
  cases same
  have below := lt_of_readNumber? year_read
  dsimp only at below ⊢
  omega

theorem lt_of_readOffsetSize? {text rest : List Char} {size : Nat}
    (read : readOffsetSize? text = some (size, rest)) : size < 1440 := by
  simp only [readOffsetSize?, Option.bind_eq_bind, Option.bind_eq_some_iff] at read
  obtain ⟨⟨hours, _⟩, _, _, _, ⟨minutes, _⟩, _, same⟩ := read
  split at same
  · cases same
    omega
  · cases same

/-- An offset is shorter than a day. -/
theorem bounds_of_readOffset? {text rest : List Char} {offset : Int}
    (read : readOffset? text = some (offset, rest)) : -1440 < offset ∧ offset < 1440 := by
  unfold readOffset? at read
  split at read
  · cases read
  split at read
  · cases read
    decide
  split at read
  · obtain ⟨⟨size, after⟩, size_read, same⟩ := Option.map_eq_some_iff.mp read
    have below := lt_of_readOffsetSize? size_read
    cases same
    omega
  split at read
  · obtain ⟨⟨size, after⟩, size_read, same⟩ := Option.map_eq_some_iff.mp read
    have below := lt_of_readOffsetSize? size_read
    cases same
    omega
  · cases read

theorem bounds_of_ofParts? {date : Calendar.Date} {hour minute second nanos : Nat}
    {instant : Instant} (made : Instant.ofParts? date hour minute second nanos = some instant) :
    date.isValid = true ∧ Calendar.daysFromEpoch date * 86400 ≤ instant.seconds ∧
      instant.seconds < (Calendar.daysFromEpoch date + 1) * 86400 := by
  unfold Instant.ofParts? at made
  split at made
  case isFalse => cases made
  case isTrue bounds =>
    dsimp only at made
    refine ⟨bounds.1, ?_⟩
    split at made
    · cases made
      dsimp only
      omega
    split at made
    · cases made
      dsimp only
      omega
    · cases made

theorem year_bounds_of_read? {text : String} {instant : Instant}
    (read : read? text = some instant) : -1 ≤ instant.year ∧ instant.year ≤ 10000 := by
  simp only [read?, readChars?, Option.bind_eq_bind, Option.bind_eq_some_iff] at read
  obtain ⟨⟨date, _⟩, date_read, _, _, ⟨⟨hour, minute, second⟩, _⟩, _, ⟨nanos, _⟩, _,
    ⟨offset, rest⟩, offset_read, made⟩ := read
  split at made
  case isFalse => cases made
  case isTrue =>
    obtain ⟨there, there_made, same⟩ := Option.bind_eq_some_iff.mp made
    cases same
    dsimp only at there_made ⊢
    obtain ⟨valid, least, most⟩ := bounds_of_ofParts? there_made
    have date_year := year_of_readDate? date_read
    have moved := bounds_of_readOffset? offset_read
    have near : Calendar.daysFromEpoch date - 1 ≤ (there.addMinutes (-offset)).seconds / 86400 ∧
        (there.addMinutes (-offset)).seconds / 86400 ≤ Calendar.daysFromEpoch date + 1 := by
      dsimp only [Instant.addMinutes]
      omega
    have years := Calendar.year_dateOfDays_bounds valid near
    rw [Instant.year]
    omega

/-! ## What is written -/

theorem writeDigits_append_inj {width value other : Nat} (below : value < 10 ^ width)
    (other_below : other < 10 ^ width) {rest more : List Char}
    (same : writeDigits width value ++ rest = writeDigits width other ++ more) :
    value = other ∧ rest = more := by
  have read := congrArg (readNumber? width) same
  rw [readNumber?_writeDigits below, readNumber?_writeDigits other_below] at read
  simpa using read

/-- The year in front of a date, which may have a sign and any number of digits, and what follows
it. -/
def splitYear : List Char → Int × List Char
  | [] => (0, [])
  | mark :: rest =>
    if mark = '-' then (-Digit.value (readAllDigits rest).1, (readAllDigits rest).2)
    else if mark = '+' then (Digit.value (readAllDigits rest).1, (readAllDigits rest).2)
    else (Digit.value (readAllDigits (mark :: rest)).1, (readAllDigits (mark :: rest)).2)

theorem readAllDigits_writeDigits (width value : Nat) (rest : List Char) :
    readAllDigits (writeDigits width value ++ '-' :: rest) = (digits width value, '-' :: rest) := by
  rw [writeDigits_eq, readAllDigits_map_toChar _ rfl]

theorem splitYear_writeYear (year : Int) (rest : List Char) :
    splitYear (writeYear year ++ '-' :: rest) = (year, '-' :: rest) := by
  unfold writeYear
  split
  case isTrue bounds =>
    have no_sign (digit : Digit) : digit.toChar ≠ '-' ∧ digit.toChar ≠ '+' := by
      decide +revert
    have read := readAllDigits_writeDigits 4 year.toNat rest
    have value_eq := value_digits (show year.toNat < 10 ^ 4 by omega)
    -- Four digits are written out, so that the first of them can be seen to be no sign.
    rw [writeDigits_eq] at read ⊢
    simp only [digits, List.nil_append, List.cons_append, List.map_cons] at read value_eq ⊢
    rw [splitYear, if_neg (no_sign _).1, if_neg (no_sign _).2, read, value_eq,
      Int.toNat_of_nonneg bounds.1]
  case isFalse outside =>
    have below : year.natAbs < 10 ^ max 4 (Nat.toDigits 10 year.natAbs).length := by
      rw [← Nat.length_toDigits_le_iff (by decide) (by omega)]
      exact Nat.le_max_right _ _
    rw [List.cons_append, splitYear, readAllDigits_writeDigits]
    dsimp only
    rw [value_digits below]
    by_cases negative : year < 0
    · rw [if_pos negative, if_pos rfl, show -(year.natAbs : Int) = year by omega]
    · rw [if_neg negative, if_neg (by decide), if_pos rfl,
        show (year.natAbs : Int) = year by omega]

theorem writeYear_append_inj {year other : Int} {rest more : List Char}
    (same : writeYear year ++ '-' :: rest = writeYear other ++ '-' :: more) :
    year = other ∧ rest = more := by
  have split := congrArg splitYear same
  rw [splitYear_writeYear, splitYear_writeYear] at split
  simpa using split

/-- Clocks show the same for instants with the same timestamp, also in years that four digits
cannot spell. -/
theorem settle_eq_of_write_eq {first second : Instant} (same : write first = write second) :
    first.settle = second.settle := by
  have date_lt (instant : Instant) :=
    Calendar.Date.lt_of_isValid (Calendar.isValid_dateOfDays (instant.seconds / 86400))
  have fraction_lt (instant : Instant) : instant.nanos % nanosPerSecond < nanosPerSecond :=
    Nat.mod_lt _ (by decide)
  have chars_eq : writeChars first = writeChars second := String.ofList_injective same
  simp only [writeChars, List.append_assoc, List.cons_append, List.nil_append] at chars_eq
  obtain ⟨year_eq, chars_eq⟩ := writeYear_append_inj chars_eq
  obtain ⟨month_eq, chars_eq⟩ :=
    writeDigits_append_inj (date_lt first).1 (date_lt second).1 chars_eq
  obtain ⟨day_eq, chars_eq⟩ :=
    writeDigits_append_inj (date_lt first).2 (date_lt second).2 (List.cons.inj chars_eq).2
  have date_eq : Calendar.dateOfDays (first.seconds / 86400) =
      Calendar.dateOfDays (second.seconds / 86400) :=
    Calendar.Date.ext year_eq month_eq day_eq
  have time_eq := congrArg readTime? (List.cons.inj chars_eq).2
  rw [readTime?_ofDay, readTime?_ofDay] at time_eq
  obtain ⟨time_eq, chars_eq⟩ := Prod.mk.inj (Option.some.inj time_eq)
  obtain ⟨hour_eq, time_eq⟩ := Prod.mk.inj time_eq
  obtain ⟨minute_eq, second_eq⟩ := Prod.mk.inj time_eq
  have fraction_eq := congrArg readFraction? chars_eq
  rw [readFraction?_write (fraction_lt first), readFraction?_write (fraction_lt second)]
    at fraction_eq
  obtain ⟨nanos_eq, -⟩ := Prod.mk.inj (Option.some.inj fraction_eq)
  have parts_eq := ofParts?_write first
  rw [date_eq, hour_eq, minute_eq, second_eq, nanos_eq, ofParts?_write second] at parts_eq
  exact (Option.some.inj parts_eq).symm

theorem write_eq_write_iff {first second : Instant} (first_regular : first.IsRegular)
    (second_regular : second.IsRegular) : write first = write second ↔ first = second := by
  refine ⟨fun same => ?_, congrArg write⟩
  have settled := settle_eq_of_write_eq same
  rwa [Instant.settle_eq_iff.mpr first_regular, Instant.settle_eq_iff.mpr second_regular]
    at settled

/-- A timestamp that begins with the sign of its year is not read. -/
theorem read?_write_of_outside {instant : Instant} (outside : ¬instant.HasFourDigitYear) :
    read? (write instant) = none := by
  have signed (rest : List Char) : readDate? (writeYear instant.year ++ rest) = none := by
    rw [writeYear, if_neg (show ¬(0 ≤ instant.year ∧ instant.year ≤ 9999) from outside)]
    split <;> rfl
  rw [read?, write, String.toList_ofList, writeChars]
  simp only [List.append_assoc, readChars?]
  rw [← Instant.year, signed]
  rfl

end Timestamp
end Countersign
