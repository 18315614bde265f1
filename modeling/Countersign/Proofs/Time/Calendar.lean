import Mathlib.Tactic.ByContra
import Mathlib.Tactic.SplitIfs
import Countersign.Time.Calendar

/-!
# Days and dates

The date of a day exists, and its distance from the first of January 1970 is that day.  Within an
era of four hundred years a day is placed by its century, its cycle of four years, its year, which
begins in March, and its day of the year.  Later dates have later days.
-/

namespace Countersign
namespace Calendar

/-- The place of a day in its era; the last day of a year of 366 days is a leap day. -/
structure IsPlace (dayOfEra century cycle year day : Int) : Prop where
  dayOfEra_eq : dayOfEra = 36524 * century + 1461 * cycle + 365 * year + day
  century_bounds : 0 ≤ century ∧ century ≤ 3
  cycle_bounds : 0 ≤ cycle ∧ cycle ≤ 24
  year_bounds : 0 ≤ year ∧ year ≤ 3
  day_bounds : 0 ≤ day ∧ day ≤ 365
  leap : day = 365 → year = 3 ∧ (cycle = 24 → century = 3)

theorem exists_isPlace {dayOfEra : Int} (nonnegative : 0 ≤ dayOfEra) (below : dayOfEra < 146097) :
    ∃ century cycle year day, IsPlace dayOfEra century cycle year day := by
  let century := min 3 (dayOfEra / 36524)
  let ofCentury := dayOfEra - 36524 * century
  let cycle := min 24 (ofCentury / 1461)
  let ofCycle := ofCentury - 1461 * cycle
  let year := min 3 (ofCycle / 365)
  refine ⟨century, cycle, year, ofCycle - 365 * year, ?_⟩
  constructor <;> simp only [century, ofCentury, cycle, ofCycle, year] <;> omega

namespace IsPlace

variable {dayOfEra century cycle year day : Int}

theorem yearOfEra_eq (place : IsPlace dayOfEra century cycle year day) :
    (dayOfEra - dayOfEra / 1460 + dayOfEra / 36524 - dayOfEra / 146096) / 365 =
      100 * century + 4 * cycle + year := by
  obtain ⟨dayOfEra_eq, century_bounds, cycle_bounds, year_bounds, day_bounds, leap⟩ := place
  have centuries : dayOfEra / 36524 - dayOfEra / 146096 = century := by
    by_cases last : dayOfEra = 146096
    · omega
    · have incomplete : dayOfEra / 146096 = 0 := by omega
      have ofCentury_lt : 1461 * cycle + 365 * year + day < 36524 := by
        by_cases cycle = 24 ∧ year = 3 <;> omega
      omega
  -- the quotient runs ahead of the leap days only near the end of a cycle
  have cycles : dayOfEra / 1460 = 25 * century + cycle ∨
      dayOfEra / 1460 = 25 * century + cycle + 1 ∧ year = 3 ∧ 269 ≤ day := by
    by_cases year = 3 <;> omega
  rcases cycles with cycles | ⟨cycles, -, -⟩
  · rw [show dayOfEra - dayOfEra / 1460 + dayOfEra / 36524 - dayOfEra / 146096 =
      dayOfEra - (25 * century + cycle) + century by omega]
    by_cases day = 365 <;> omega
  · rw [show dayOfEra - dayOfEra / 1460 + dayOfEra / 36524 - dayOfEra / 146096 =
      dayOfEra - (25 * century + cycle + 1) + century by omega]
    omega

theorem dayOfYear_eq (place : IsPlace dayOfEra century cycle year day) :
    dayOfEra - (365 * (100 * century + 4 * cycle + year) +
      (100 * century + 4 * cycle + year) / 4 - (100 * century + 4 * cycle + year) / 100) = day := by
  obtain ⟨dayOfEra_eq, century_bounds, cycle_bounds, year_bounds, -, -⟩ := place
  omega

end IsPlace

/-- The date of a day of the year that begins in March of a given year. -/
def dateOfMarchYear (year day : Int) : Date :=
  let month := (5 * day + 2) / 153
  let ofMonth := (day - (153 * month + 2) / 5 + 1).toNat
  if month < 10 then ⟨year, (month + 3).toNat, ofMonth⟩
  else ⟨year + 1, (month - 9).toNat, ofMonth⟩

theorem dateOfDays_eq (days : Int) :
    ∃ century cycle year day,
      IsPlace ((days + 719468) % 146097) century cycle year day ∧
        dateOfDays days = dateOfMarchYear
          (100 * century + 4 * cycle + year + (days + 719468) / 146097 * 400) day := by
  obtain ⟨century, cycle, year, day, place⟩ :=
    exists_isPlace (Int.emod_nonneg (days + 719468) (by decide))
      (Int.emod_lt_of_pos (days + 719468) (by decide))
  refine ⟨century, cycle, year, day, place, ?_⟩
  simp only [dateOfDays, place.yearOfEra_eq, place.dayOfYear_eq]
  rfl

theorem daysFromMarch_dateOfMarchYear {year day : Int} (day_bounds : 0 ≤ day ∧ day ≤ 365) :
    daysFromMarch (dateOfMarchYear year day) =
      365 * year + year / 4 - year / 100 + year / 400 + day := by
  unfold dateOfMarchYear daysFromMarch
  dsimp only
  split
  · dsimp only
    rw [if_neg (by omega), if_neg (by omega)]
    omega
  · dsimp only
    rw [if_pos (by omega), if_pos (by omega)]
    omega

/-- The date of a day lies that day's number of days after the first of January 1970. -/
theorem daysFromEpoch_dateOfDays (days : Int) : daysFromEpoch (dateOfDays days) = days := by
  obtain ⟨century, cycle, year, day, place, date_eq⟩ := dateOfDays_eq days
  rw [daysFromEpoch, date_eq, daysFromMarch_dateOfMarchYear place.day_bounds]
  obtain ⟨dayOfEra_eq, century_bounds, cycle_bounds, year_bounds, -, -⟩ := place
  omega

private theorem day_le_monthLength {year day : Int} (day_bounds : 0 ≤ day ∧ day ≤ 365)
    (leap : day = 365 → isLeap (year + 1) = true) :
    (dateOfMarchYear year day).day ≤
      monthLength (dateOfMarchYear year day).year (dateOfMarchYear year day).month := by
  unfold dateOfMarchYear monthLength
  dsimp only
  split
  · dsimp only
    rw [if_neg (by omega)]
    split <;> omega
  · dsimp only
    by_cases february : (5 * day + 2) / 153 = 11
    · rw [if_pos (by omega)]
      by_cases last : day = 365
      · rw [if_pos (leap last)]
        omega
      · split <;> omega
    · rw [if_neg (by omega), if_neg (by omega)]
      omega

theorem isValid_dateOfDays (days : Int) : (dateOfDays days).isValid = true := by
  obtain ⟨century, cycle, year, day, place, date_eq⟩ := dateOfDays_eq days
  rw [date_eq]
  have leap : day = 365 → isLeap (100 * century + 4 * cycle + year +
      (days + 719468) / 146097 * 400 + 1) = true := by
    intro last
    obtain ⟨rfl, wrap⟩ := place.leap last
    have century_bounds := place.century_bounds
    have cycle_bounds := place.cycle_bounds
    simp only [isLeap, Bool.and_eq_true, Bool.or_eq_true, decide_eq_true_eq, ne_eq]
    by_cases final : cycle = 24 <;> omega
  have day_bounds := place.day_bounds
  simp only [Date.isValid, Bool.and_eq_true, decide_eq_true_eq]
  refine ⟨⟨⟨?_, ?_⟩, ?_⟩, day_le_monthLength day_bounds leap⟩
  · unfold dateOfMarchYear
    dsimp only
    split <;> dsimp only <;> omega
  · unfold dateOfMarchYear
    dsimp only
    split <;> dsimp only <;> omega
  · unfold dateOfMarchYear
    dsimp only
    split <;> dsimp only <;> omega

attribute [ext] Date

theorem Date.lt_of_isValid {date : Date} (valid : date.isValid = true) :
    date.month < 100 ∧ date.day < 100 := by
  simp only [isValid, Bool.and_eq_true, decide_eq_true_eq] at valid
  have longest : monthLength date.year date.month ≤ 31 := by
    unfold monthLength
    split_ifs <;> omega
  omega

/-- A date lies between the first of January of its year and that of the next. -/
theorem daysFromEpoch_bounds {date : Date} (valid : date.isValid = true) :
    daysFromEpoch ⟨date.year, 1, 1⟩ ≤ daysFromEpoch date ∧
      daysFromEpoch date < daysFromEpoch ⟨date.year + 1, 1, 1⟩ := by
  obtain ⟨year, month, day⟩ := date
  simp only [Date.isValid, Bool.and_eq_true, decide_eq_true_eq, monthLength, isLeap] at valid
  simp only [daysFromEpoch, daysFromMarch]
  split_ifs at valid ⊢ <;> grind

theorem daysFromEpoch_newYear_mono {year later : Int} (le : year ≤ later) :
    daysFromEpoch ⟨year, 1, 1⟩ ≤ daysFromEpoch ⟨later, 1, 1⟩ := by
  simp only [daysFromEpoch, daysFromMarch]
  omega

theorem daysFromEpoch_newYearsEve (year : Int) :
    daysFromEpoch ⟨year - 1, 12, 31⟩ = daysFromEpoch ⟨year, 1, 1⟩ - 1 := by
  simp only [daysFromEpoch, daysFromMarch]
  grind

/-- Dates in order have years in order. -/
theorem year_le_of_daysFromEpoch_le {date later : Date} (valid : date.isValid = true)
    (later_valid : later.isValid = true) (le : daysFromEpoch date ≤ daysFromEpoch later) :
    date.year ≤ later.year := by
  by_contra less
  have first := (daysFromEpoch_bounds valid).1
  have last := (daysFromEpoch_bounds later_valid).2
  have between := daysFromEpoch_newYear_mono (Int.add_one_le_of_lt (Int.not_le.mp less))
  omega

/-- A day next to a date lies in the year of the date or in one next to it. -/
theorem year_dateOfDays_bounds {date : Date} (valid : date.isValid = true) {days : Int}
    (near : daysFromEpoch date - 1 ≤ days ∧ days ≤ daysFromEpoch date + 1) :
    date.year - 1 ≤ (dateOfDays days).year ∧ (dateOfDays days).year ≤ date.year + 1 := by
  have days_valid := isValid_dateOfDays days
  have days_eq := daysFromEpoch_dateOfDays days
  have bounds := daysFromEpoch_bounds valid
  constructor
  · have before : daysFromEpoch ⟨date.year - 1, 12, 31⟩ ≤ daysFromEpoch (dateOfDays days) := by
      rw [daysFromEpoch_newYearsEve]
      omega
    exact year_le_of_daysFromEpoch_le rfl days_valid before
  · have after : daysFromEpoch (dateOfDays days) ≤ daysFromEpoch ⟨date.year + 1, 1, 1⟩ := by
      omega
    exact year_le_of_daysFromEpoch_le days_valid rfl after

end Calendar
end Countersign
