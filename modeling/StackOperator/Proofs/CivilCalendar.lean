import Mathlib.Tactic.IntervalCases
import StackOperator.Time.Instant

/-!
# The calendar of instants

`Instant.civilOfDays` reads a day count as a date of the proleptic Gregorian calendar by
splitting it into 400-year eras of 146097 days that start on 1 March of a year divisible by
400. March-based years put the leap day last, so within an era a year is found from its
centuries of 36524 days (the era's last has one day more), its four-year cycles of 1461 days
and its years of 365 days, and within a year the month is found from a linear formula.

Main statements:
* `civilOfDays_isDateOf`: every day count is read as a date that exists, with a month from 1 to
  12 and a day within the month, which `daysOfCivil` counts back to the same day;
* `year_mem_of_isDateOf`: the days an instant may fall on (`dayRange`) are exactly those of the
  years -262143 to 262142.
-/

namespace StackOperator.Instant

/-- The day count of 1 March of year `y`. -/
def marchStart (y : Int) : Int :=
  let era := y / 400
  let yoe := y - era * 400
  era * 146097 + (yoe * 365 + yoe / 4 - yoe / 100) - 719468

/-- The day of a date within its March-based year, 1 March being day 0. -/
def dayOfMarchYear (m d : Nat) : Int :=
  let mp : Int := if m > 2 then (m : Int) - 3 else (m : Int) + 9
  (153 * mp + 2) / 5 + (d : Int) - 1

/-- The date of day `k` of the March-based year `y`, as `civilOfDays` computes it. -/
def dateOfMarchDay (y k : Int) : Int × Nat × Nat :=
  let mp := (5 * k + 2) / 153
  let d := k - (153 * mp + 2) / 5 + 1
  let m := if mp < 10 then mp + 3 else mp - 9
  (if m ≤ 2 then y + 1 else y, m.toNat, d.toNat)

/-- The year within its era of day `doe` of the era, as `civilOfDays` computes it. -/
def yearOfEra (doe : Int) : Int := (doe - doe / 1460 + doe / 36524 - doe / 146096) / 365

/-- `(y, m, d)` is a date that exists and that is day `z` since 1970-01-01. -/
structure IsDateOf (z y : Int) (m d : Nat) : Prop where
  month : 1 ≤ m ∧ m ≤ 12
  day : 1 ≤ d ∧ d ≤ monthLength y m
  days : daysOfCivil y m d = z

/-- Day `doe` of a 400-year era is day `k` of year `100 * c + 4 * q + r` of the era: `c` whole
centuries of 36524 days, `q` four-year cycles of 1461 days and `r` years of 365 days before it.
Day 365 of a year exists only in the last year of a cycle, and not in the last cycle of a
century but for the era's last. -/
structure EraDay (doe c q r k : Int) : Prop where
  eq : doe = 36524 * c + 1461 * q + 365 * r + k
  century : 0 ≤ c ∧ c ≤ 3
  cycle : 0 ≤ q ∧ q ≤ 24
  year : 0 ≤ r ∧ r ≤ 3
  day : 0 ≤ k ∧ k ≤ 365
  leap : k = 365 → r = 3 ∧ (q < 24 ∨ c = 3)

theorem daysOfCivil_eq (y : Int) (m d : Nat) :
    daysOfCivil y m d = marchStart (if m ≤ 2 then y - 1 else y) + dayOfMarchYear m d := by
  unfold daysOfCivil marchStart dayOfMarchYear
  dsimp only
  split <;> split <;> omega

theorem civilOfDays_eq (z : Int) :
    let era := (z + 719468) / 146097
    let doe := z + 719468 - era * 146097
    civilOfDays z = dateOfMarchDay (yearOfEra doe + era * 400)
      (doe - (365 * yearOfEra doe + yearOfEra doe / 4 - yearOfEra doe / 100)) := rfl

theorem marchStart_succ (y : Int) :
    marchStart (y + 1) = marchStart y + if leapYear (y + 1) then 366 else 365 := by
  unfold marchStart leapYear
  dsimp only
  split <;> simp_all <;> omega

theorem marchStart_mono {a b : Int} (le : a ≤ b) : marchStart a ≤ marchStart b := by
  induction b, le using Int.leInduction with
  | base => exact le_refl _
  | succ b _ ih =>
    rw [marchStart_succ]
    split <;> omega

theorem marchStart_add_le {a b : Int} (lt : a < b) : marchStart a + 365 ≤ marchStart b := by
  calc marchStart a + 365
      ≤ marchStart (a + 1) := by rw [marchStart_succ]; split <;> omega
    _ ≤ marchStart b := marchStart_mono lt

/-! ## Reading a day count -/

theorem exists_eraDay {doe : Int} (lo : 0 ≤ doe) (hi : doe ≤ 146096) :
    ∃ c q r k, EraDay doe c q r k := by
  -- the era's last century and a cycle's last year hold one day more, so their counts are capped
  let c := min (doe / 36524) 3
  let inCentury := doe - 36524 * c
  let q := inCentury / 1461
  let r := min (inCentury % 1461 / 365) 3
  exact ⟨c, q, r, inCentury % 1461 - 365 * r, ⟨by omega, by omega, by omega, by omega, by omega, by omega⟩⟩

theorem yearOfEra_eq {doe c q r k : Int} (h : EraDay doe c q r k) :
    yearOfEra doe = 100 * c + 4 * q + r := by
  obtain ⟨eq, century, cycle, year, day, leap⟩ := h
  subst eq
  unfold yearOfEra
  -- each quotient is pinned on its own: omega does not find them together
  have eras : (36524 * c + 1461 * q + 365 * r + k) / 146096 = if k = 365 ∧ q = 24 ∧ c = 3 then 1 else 0 := by
    rw [Int.ediv_eq_iff_of_pos (by decide)]
    split <;> omega
  have centuries : (36524 * c + 1461 * q + 365 * r + k) / 36524 = c + if k = 365 ∧ q = 24 ∧ c = 3 then 1 else 0 := by
    rw [Int.ediv_eq_iff_of_pos (by decide)]
    split <;> omega
  have cycles : (36524 * c + 1461 * q + 365 * r + k) / 1460 =
      25 * c + q + if 1460 ≤ 24 * c + q + 365 * r + k then 1 else 0 := by
    rw [Int.ediv_eq_iff_of_pos (by decide)]
    split <;> omega
  rw [eras, centuries, cycles, Int.ediv_eq_iff_of_pos (by decide)]
  split <;> split <;> omega

theorem daysBeforeYear_eq {c q r : Int} (cycle : 0 ≤ q ∧ q ≤ 24) (year : 0 ≤ r ∧ r ≤ 3) :
    365 * (100 * c + 4 * q + r) + (100 * c + 4 * q + r) / 4 - (100 * c + 4 * q + r) / 100 =
      36524 * c + 1461 * q + 365 * r := by
  have quads : (100 * c + 4 * q + r) / 4 = 25 * c + q := by
    rw [Int.ediv_eq_iff_of_pos (by decide)]
    omega
  have hundreds : (100 * c + 4 * q + r) / 100 = c := by
    rw [Int.ediv_eq_iff_of_pos (by decide)]
    omega
  rw [quads, hundreds]
  omega

theorem marchStart_of_era (era : Int) {c q r : Int} (century : 0 ≤ c ∧ c ≤ 3) (cycle : 0 ≤ q ∧ q ≤ 24)
    (year : 0 ≤ r ∧ r ≤ 3) :
    marchStart (100 * c + 4 * q + r + era * 400) =
      era * 146097 + (36524 * c + 1461 * q + 365 * r) - 719468 := by
  have eras : (100 * c + 4 * q + r + era * 400) / 400 = era := by
    rw [Int.ediv_eq_iff_of_pos (by decide)]
    omega
  unfold marchStart
  dsimp only
  rw [eras, ← daysBeforeYear_eq cycle year]
  congr 2
  omega

/-- The year after the last year of a four-year cycle of an era is a leap year, unless the
cycle ends a century other than the era's last. -/
theorem leapYear_of_cycleEnd (era : Int) {c q : Int} (cycle : 0 ≤ q ∧ q ≤ 24) (cycleOrEra : q < 24 ∨ c = 3) :
    leapYear (100 * c + 4 * q + 3 + era * 400 + 1) = true := by
  simp only [leapYear, decide_eq_true_eq]
  by_cases early : q < 24
  · left
    omega
  · right
    omega

theorem isDateOf_dateOfMarchDay {y k : Int} (lo : 0 ≤ k) (hi : k ≤ 365)
    (leap : k = 365 → leapYear (y + 1) = true) :
    IsDateOf (marchStart y + k) (dateOfMarchDay y k).1 (dateOfMarchDay y k).2.1 (dateOfMarchDay y k).2.2 := by
  unfold dateOfMarchDay
  dsimp only
  generalize month : (5 * k + 2) / 153 = mp
  obtain ⟨below, above⟩ := (Int.ediv_eq_iff_of_pos (by decide)).mp month
  have range : 0 ≤ mp ∧ mp ≤ 11 := by omega
  obtain ⟨mlo, mhi⟩ := range
  refine ⟨?month, ?day, ?days⟩
  case month => interval_cases mp <;> simp
  case days => interval_cases mp <;> simp [daysOfCivil_eq, dayOfMarchYear] <;> omega
  case day =>
    interval_cases mp
    -- the year's last month is February, whose 29th is day 365 and only in a leap year
    case «11» =>
      by_cases leapYear (y + 1) = true
      · simp [monthLength, *]
        omega
      · have notLast : k ≠ 365 := fun last => ‹¬_› (leap last)
        simp [monthLength, *]
        omega
    all_goals simp [monthLength]; omega

theorem civilOfDays_isDateOf (z : Int) :
    IsDateOf z (civilOfDays z).1 (civilOfDays z).2.1 (civilOfDays z).2.2 := by
  rw [civilOfDays_eq]
  generalize eraOf : (z + 719468) / 146097 = era
  have inEra : 0 ≤ z + 719468 - era * 146097 ∧ z + 719468 - era * 146097 ≤ 146096 := by omega
  obtain ⟨c, q, r, k, split⟩ := exists_eraDay inEra.1 inEra.2
  rw [yearOfEra_eq split, daysBeforeYear_eq split.cycle split.year]
  have start := marchStart_of_era era split.century split.cycle split.year
  have dayOfYear : z + 719468 - era * 146097 - (36524 * c + 1461 * q + 365 * r) = k := by
    have := split.eq
    omega
  have leap : k = 365 → leapYear (100 * c + 4 * q + r + era * 400 + 1) = true := by
    intro last
    obtain ⟨three, cycleOrEra⟩ := split.leap last
    subst three
    exact leapYear_of_cycleEnd era split.cycle cycleOrEra
  have date := isDateOf_dateOfMarchDay split.day.1 split.day.2 leap
  rwa [start, show era * 146097 + (36524 * c + 1461 * q + 365 * r) - 719468 + k = z by omega,
    ← dayOfYear] at date

/-! ## The years of instants -/

/-- The day of a date within its March-based year: January and February are its days from
306 to 365, the other months its days before. -/
theorem dayOfMarchYear_mem {y : Int} {m d : Nat} (month : 1 ≤ m ∧ m ≤ 12) (day : 1 ≤ d ∧ d ≤ monthLength y m) :
    (m ≤ 2 → 306 ≤ dayOfMarchYear m d ∧ dayOfMarchYear m d ≤ 365) ∧
      (2 < m → 0 ≤ dayOfMarchYear m d ∧ dayOfMarchYear m d ≤ 305) := by
  have long : monthLength y m ≤ if m = 2 then 29 else 31 := by
    unfold monthLength
    split <;> (try split) <;> simp_all
  obtain ⟨mlo, mhi⟩ := month
  interval_cases m <;> simp_all [dayOfMarchYear] <;> omega

theorem dayRange_eq : dayRange = (marchStart (-262144) + 306, marchStart 262142 + 305) := by
  simp [dayRange, daysOfCivil_eq, dayOfMarchYear]

theorem year_mem_of_isDateOf {z y : Int} {m d : Nat} (date : IsDateOf z y m d)
    (lo : dayRange.1 ≤ z) (hi : z ≤ dayRange.2) : -262143 ≤ y ∧ y ≤ 262142 := by
  obtain ⟨month, day, days⟩ := date
  have within := dayOfMarchYear_mem month day
  rw [dayRange_eq, ← days, daysOfCivil_eq] at lo hi
  constructor
  · by_contra early
    split at lo
    · have := marchStart_add_le (show y - 1 < -262144 by omega)
      omega
    · have := marchStart_mono (show y ≤ -262144 by omega)
      omega
  · by_contra late
    split at hi
    · have := marchStart_mono (show 262142 ≤ y - 1 by omega)
      omega
    · have := marchStart_add_le (show 262142 < y by omega)
      omega

end StackOperator.Instant
