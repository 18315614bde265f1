import Countersign.Proofs.Time.CanonicalForm
import Countersign.Proofs.Trust.Reload

/-!
# Bounds of validity are written back

The bounds of a period are written in their canonical form.  They are read back as they were unless
a zone has moved one of them out of the years that four digits can spell; then the period that is
written is refused for that bound, and never taken for another period.
-/

namespace Countersign

namespace ValidityPeriod

theorem isMade_of_ofRecord {record? : Option PeriodRecord} {period : ValidityPeriod}
    (accepted : ofRecord record? = .ok period) (years : period.HasFourDigitYears) :
    period.IsMade := by
  refine ⟨⟨period.start?, period.finish?, between_eq_ok_iff.mpr ⟨rfl, ?_⟩⟩, years⟩
  cases record? with
  | none =>
    cases accepted
    exact nofun
  | some record => exact (ofTimestamps_eq_ok_iff.mp accepted).2.2

theorem isRestorable_of_ofRecord {record? : Option PeriodRecord} {period : ValidityPeriod}
    (accepted : ofRecord record? = .ok period) : period.IsRestorable := by
  cases record? with
  | none =>
    cases accepted
    rintro bound (starts | ends)
    · cases starts
    · cases ends
  | some record =>
    obtain ⟨start_read, finish_read, -⟩ := ofTimestamps_eq_ok_iff.mp accepted
    have regular {text? : Option String} {bound : Instant}
        (read : text?.map Timestamp.read? = some (some bound)) : bound.IsRegular := by
      obtain ⟨text, -, text_read⟩ := Option.map_eq_some_iff.mp read
      exact Timestamp.isRegular_of_read? text_read
    rintro bound (starts | ends)
    · rw [starts] at start_read
      exact regular start_read
    · rw [ends] at finish_read
      exact regular finish_read

/-- A period that has been read is read again from what is written for it. -/
theorem ofRecord_toRecord_of_ofRecord {record? : Option PeriodRecord} {period : ValidityPeriod}
    (accepted : ofRecord record? = .ok period) (years : period.HasFourDigitYears) :
    ofRecord period.toRecord = .ok period := by
  have restorable := isRestorable_of_ofRecord accepted
  rw [ofRecord_toRecord years,
    (isMade_of_ofRecord accepted years).refusal?_eq_none restorable,
    isRestorable_iff.mp restorable]
  rfl

theorem instantOf?_write_of_outside {bound : Instant} (outside : ¬bound.HasFourDigitYear) :
    instantOf? (some (Timestamp.write bound)) = .error (.timestamp (Timestamp.write bound)) := by
  rw [instantOf?, Instant.ofTimestamp, Timestamp.read?_write_of_outside outside]
  rfl

/-- A period with a bound outside the years of four digits is refused when it is read again, for the
first such bound. -/
theorem ofRecord_toRecord_of_outside {period : ValidityPeriod}
    (outside : ¬period.HasFourDigitYears) :
    ∃ bound, period.IsBound bound ∧ ¬bound.HasFourDigitYear ∧
      ofRecord period.toRecord = .error (.timestamp (Timestamp.write bound)) := by
  have written : period.toRecord =
      some ⟨period.start?.map Timestamp.write, period.finish?.map Timestamp.write⟩ := by
    rw [toRecord, if_neg]
    intro unbounded
    rw [Bool.and_eq_true, Option.isNone_iff_eq_none, Option.isNone_iff_eq_none] at unbounded
    exact outside ⟨by simp [unbounded.1], by simp [unbounded.2]⟩
  rw [written, ofRecord, ofTimestamps]
  by_cases start_years : ∀ first, period.start? = some first → first.HasFourDigitYear
  · obtain ⟨last, finish_eq, last_outside⟩ :
        ∃ last, period.finish? = some last ∧ ¬last.HasFourDigitYear := by
      by_contra inside
      refine outside ⟨start_years, fun last finish_eq => ?_⟩
      by_contra last_outside
      exact inside ⟨last, finish_eq, last_outside⟩
    refine ⟨last, .inr finish_eq, last_outside, ?_⟩
    rw [instantOf?_map_write start_years, finish_eq, Option.map_some,
      instantOf?_write_of_outside last_outside]
    rfl
  · push Not at start_years
    obtain ⟨first, start_eq, first_outside⟩ := start_years
    refine ⟨first, .inl start_eq, first_outside, ?_⟩
    rw [start_eq, Option.map_some, instantOf?_write_of_outside first_outside]
    rfl

end ValidityPeriod

namespace Timestamp

open ValidityPeriod (ofRecord)

/-- An instant that is read from a text is one that clocks show, and is written like no other of
those.  What is written is read as that instant again, or refused if its year, the one before the
first or after the last that four digits can spell, needs a sign.  The same holds for the bounds of
every period that is accepted. -/
theorem canonical_form {text : String} {instant : Instant} (read : read? text = some instant) :
    instant.IsRegular ∧
    (∀ other : Instant, other.IsRegular → (write instant = write other ↔ instant = other)) ∧
    (instant.HasFourDigitYear → read? (write instant) = some instant) ∧
    (¬instant.HasFourDigitYear →
      (instant.year = -1 ∨ instant.year = 10000) ∧ read? (write instant) = none) ∧
    ∀ record? period, ofRecord record? = .ok period →
      (period.HasFourDigitYears → ofRecord period.toRecord = .ok period) ∧
      (¬period.HasFourDigitYears →
        ∃ bound, period.IsBound bound ∧ ¬bound.HasFourDigitYear ∧
          ofRecord period.toRecord = .error (.timestamp (write bound))) := by
  have regular := isRegular_of_read? read
  refine ⟨regular, fun other other_regular => write_eq_write_iff regular other_regular,
    read?_write_of_read? read, fun outside => ⟨?year, read?_write_of_outside outside⟩,
    fun record? period accepted => ⟨fun years => ?inside,
      ValidityPeriod.ofRecord_toRecord_of_outside⟩⟩
  case year =>
    have bounds := year_bounds_of_read? read
    unfold Instant.HasFourDigitYear at outside
    omega
  case inside =>
    exact ValidityPeriod.ofRecord_toRecord_of_ofRecord accepted years

/-- A leap second, with half a second of it gone. -/
private def sampleLeap : Instant :=
  ⟨1483228799, 1500000000, by decide⟩

/-- A leap second that is given in another zone, and a period that starts with it. -/
theorem canonical_form_sample :
    read? "2017-01-01t05:29:60.5000000009+05:30" = some sampleLeap ∧
      write sampleLeap = "2016-12-31T23:59:60.500Z" ∧
      read? (write sampleLeap) = some sampleLeap ∧
      ∃ period, ofRecord (some ⟨some "2016-12-31 23:59:60.50z", none⟩) = .ok period ∧
        ofRecord period.toRecord = .ok period := by
  have read : read? "2017-01-01t05:29:60.5000000009+05:30" = some sampleLeap := by decide +kernel
  have four_digits : sampleLeap.HasFourDigitYear := ⟨by decide +kernel, by decide +kernel⟩
  have accepted : ofRecord (some ⟨some "2016-12-31 23:59:60.50z", none⟩) =
      .ok ⟨some sampleLeap, none⟩ := by
    decide +kernel
  have years : ValidityPeriod.HasFourDigitYears ⟨some sampleLeap, none⟩ := by
    refine ⟨fun first same => ?_, nofun⟩
    cases same
    exact four_digits
  obtain ⟨-, -, read_again, -, periods⟩ := canonical_form read
  exact ⟨read, by decide +kernel, read_again four_digits, _, accepted,
    (periods _ _ accepted).1 years⟩

/-- The instant that a text denotes is written as a text that denotes none. -/
private def IsLost (text : String) : Prop :=
  ∃ instant, read? text = some instant ∧ read? (write instant) = none

/-- A zone moves the first instant of the first year and the last one of the last year out of what
can be written and read again; a period that starts there is accepted and not read again. -/
theorem canonical_form_fails :
    IsLost "0000-01-01T00:00:00+00:01" ∧ IsLost "9999-12-31T23:59:59-00:01" ∧
      ∃ period, ofRecord (some ⟨some "0000-01-01T00:00:00+00:01", none⟩) = .ok period ∧
        ofRecord period.toRecord = .error (.timestamp "-0001-12-31T23:59:00Z") := by
  refine ⟨⟨⟨-62167219260, 0, by decide⟩, by decide +kernel, by decide +kernel⟩,
    ⟨⟨253402300859, 0, by decide⟩, by decide +kernel, by decide +kernel⟩,
    ⟨some ⟨-62167219260, 0, by decide⟩, none⟩, by decide +kernel, by decide +kernel⟩

end Timestamp
end Countersign
