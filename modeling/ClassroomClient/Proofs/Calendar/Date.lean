/-
# The Gregorian calendar

The calendar said by its own rules: which years have a leap day, how long the months are, and how
many days and milliseconds lie between the start of 1970 and a moment. Every point in time is one
valid moment, and it is the one that the conversion of day numbers finds. That conversion counts
years from March on, in cycles of 400 years; `marchDay` is the day on which such a year begins.
-/

import ClassroomClient.Calendar
import Mathlib.Algebra.BigOperators.Intervals
import Mathlib.Algebra.Order.BigOperators.Group.Finset
import Mathlib.Data.Int.SuccPred
import Mathlib.Tactic.IntervalCases

namespace ClassroomClient.Calendar

/-! ## The rules of the calendar -/

/-- Years with a leap day are those that four divides. Of the full centuries they are those that
400 divides. -/
def IsLeapYear (year : Int) : Prop := 4 ∣ year ∧ (100 ∣ year → 400 ∣ year)

instance : DecidablePred IsLeapYear :=
  fun year => inferInstanceAs (Decidable (4 ∣ year ∧ (100 ∣ year → 400 ∣ year)))

/-- The days of a month. -/
def monthLength (year : Int) (month : Nat) : Nat :=
  if month = 2 then if IsLeapYear year then 29 else 28
  else if month ∈ [4, 6, 9, 11] then 30
  else 31

/-- The days of a year before a month. -/
def daysBeforeMonth (year : Int) (month : Nat) : Nat :=
  ∑ earlier ∈ Finset.Ico 1 month, monthLength year earlier

/-- The days of a year. -/
def yearLength (year : Int) : Nat := daysBeforeMonth year 13

/-- The days from the start of 1970 to the start of a year, negative for years before. -/
def daysBeforeYear (year : Int) : Int :=
  ∑ passed ∈ Finset.range (year - 1970).toNat, (yearLength (1970 + passed) : Int) -
    ∑ missing ∈ Finset.range (1970 - year).toNat, (yearLength (1969 - missing) : Int)

/-- A moment that the calendar and the clock know. -/
structure Moment.IsValid (moment : Moment) : Prop where
  month : 1 ≤ moment.month ∧ moment.month ≤ 12
  day : 1 ≤ moment.day ∧ moment.day ≤ monthLength moment.year moment.month
  hour : moment.hour < 24
  minute : moment.minute < 60
  second : moment.second < 60
  millisecond : moment.millisecond < 1000

/-- The days from the start of 1970 to a date. -/
def dayNumber (year : Int) (month day : Nat) : Int :=
  daysBeforeYear year + daysBeforeMonth year month + (day - 1)

/-- The milliseconds from the start of 1970 to a moment. -/
def Moment.millis (moment : Moment) : Int :=
  (((dayNumber moment.year moment.month moment.day * 24 + moment.hour) * 60 + moment.minute) * 60 +
    moment.second) * 1000 + moment.millisecond

/-! ## Months -/

theorem daysBeforeMonth_succ (year : Int) {month : Nat} (hmonth : 1 ≤ month) :
    daysBeforeMonth year (month + 1) = daysBeforeMonth year month + monthLength year month :=
  Finset.sum_Ico_succ_top hmonth _

theorem daysBeforeMonth_mono (year : Int) : Monotone (daysBeforeMonth year) :=
  fun _ _ hle => Finset.sum_le_sum_of_subset (Finset.Ico_subset_Ico_right hle)

/-- January and February are counted with the year before. From March on, five months have 153
days. -/
theorem daysBeforeMonth_eq (year : Int) {month : Nat} (hmonth : 1 ≤ month ∧ month ≤ 12) :
    daysBeforeMonth year month =
      if month ≤ 2 then 31 * (month - 1)
      else (153 * (month - 3) + 2) / 5 + 59 + if IsLeapYear year then 1 else 0 := by
  obtain ⟨hfirst, hlast⟩ := hmonth
  interval_cases month <;> simp [daysBeforeMonth, Finset.sum_Ico_succ_top, monthLength] <;>
    split <;> rfl

theorem monthLength_february (year : Int) :
    monthLength year 2 = 28 + if IsLeapYear year then 1 else 0 := by
  by_cases hleap : IsLeapYear year <;> simp [monthLength, hleap]

theorem yearLength_eq (year : Int) :
    yearLength year = 365 + if IsLeapYear year then 1 else 0 := by
  rw [yearLength, daysBeforeMonth_succ year (by decide), daysBeforeMonth_eq year (by decide),
    if_neg (by decide)]
  by_cases hleap : IsLeapYear year <;> simp [hleap, monthLength]

/-! ## Years -/

theorem daysBeforeYear_add_one (year : Int) :
    daysBeforeYear (year + 1) = daysBeforeYear year + yearLength year := by
  rcases le_or_gt 1970 year with hafter | hbefore
  · obtain ⟨passed, rfl⟩ : ∃ passed : Nat, year = 1970 + passed := ⟨(year - 1970).toNat, by omega⟩
    have hnow : (1970 + (passed : Int) - 1970).toNat = passed := by omega
    have hnext : (1970 + (passed : Int) + 1 - 1970).toNat = passed + 1 := by omega
    have hnone : (1970 - (1970 + (passed : Int))).toNat = 0 := by omega
    have hnextNone : (1970 - (1970 + (passed : Int) + 1)).toNat = 0 := by omega
    rw [daysBeforeYear, daysBeforeYear, hnow, hnext, hnone, hnextNone, Finset.sum_range_succ]
    omega
  · obtain ⟨missing, rfl⟩ : ∃ missing : Nat, year = 1969 - missing :=
      ⟨(1969 - year).toNat, by omega⟩
    have hnow : (1970 - (1969 - (missing : Int))).toNat = missing + 1 := by omega
    have hnext : (1970 - (1969 - (missing : Int) + 1)).toNat = missing := by omega
    have hnone : (1969 - (missing : Int) - 1970).toNat = 0 := by omega
    have hnextNone : (1969 - (missing : Int) + 1 - 1970).toNat = 0 := by omega
    rw [daysBeforeYear, daysBeforeYear, hnow, hnext, hnone, hnextNone, Finset.sum_range_succ]
    omega

/-- The days from the start of March in the year zero to the start of March in a year. -/
def marchDay (year : Int) : Int := 365 * year + year / 4 - year / 100 + year / 400

/-- A year that begins with March is as long as the next year that begins with January. -/
theorem marchDay_add_one (year : Int) :
    marchDay (year + 1) = marchDay year + yearLength (year + 1) := by
  rw [yearLength_eq]
  unfold marchDay
  by_cases hleap : IsLeapYear (year + 1)
  · rw [if_pos hleap]
    obtain ⟨hfour, hcentury⟩ := hleap
    omega
  · rw [if_neg hleap]
    unfold IsLeapYear at hleap
    omega

theorem daysBeforeYear_eq (year : Int) :
    daysBeforeYear year = marchDay (year - 1) + 306 - epochDay := by
  have hstep : ∀ year, marchDay year = marchDay (year - 1) + yearLength year := by
    intro year
    simpa using marchDay_add_one (year - 1)
  induction year using Int.inductionOn' (b := 1970) with
  | zero => decide
  | succ year _ ih =>
      have hmarch := hstep year
      rw [daysBeforeYear_add_one, ih, Int.add_sub_cancel]
      omega
  | pred year _ ih =>
      have hlater := daysBeforeYear_add_one (year - 1)
      rw [Int.sub_add_cancel] at hlater
      have hmarch := hstep (year - 1)
      omega

theorem marchDay_add_cycles (cycles year : Int) :
    marchDay (400 * cycles + year) = cycleDays * cycles + marchDay year := by
  unfold marchDay cycleDays
  omega

/-! ## From day numbers to dates -/

/-- The year within a cycle is the one that the day lies in. Leap days are taken out of the days of
the cycle, but for those that no leap year of a full century has. -/
theorem marchDay_yearOfCycle {day year : Nat} (hday : day < 146097)
    (hyear : year = (day - day / 1460 + day / 36524 - day / 146096) / 365) :
    year < 400 ∧ marchDay year ≤ day ∧ day < marchDay (year + 1) := by
  unfold marchDay
  by_cases hlast : day = 146096
  · subst hlast
    omega
  have hzero : day / 146096 = 0 := by omega
  rw [hzero] at hyear
  generalize hcentury : day / 36524 = century at hyear
  -- Up to its last day a century is made of blocks of four years with one leap day each.
  obtain ⟨block, rest, hrest, hblock⟩ :
      ∃ block rest, rest ≤ 1460 ∧ day + century = 1461 * block + rest :=
    ⟨(day + century) / 1461, (day + century) % 1461, by omega, by omega⟩
  have hleapDays : day / 1460 = block ∨ day / 1460 = block + 1 := by omega
  have hfours : year / 4 = block := by
    rcases hleapDays with hdays | hdays <;> rw [hdays] at hyear <;> omega
  have hhundreds : year / 100 = century := by omega
  have hlow : 365 * year + block ≤ day + century := by
    rcases hleapDays with hdays | hdays <;> rw [hdays] at hyear <;> omega
  have hhigh : day + century < 365 * (year + 1) + block + if year % 4 = 3 then 1 else 0 := by
    rcases hleapDays with hdays | hdays <;> rw [hdays] at hyear <;> split <;> omega
  clear hyear hleapDays
  refine ⟨by omega, by omega, ?_⟩
  by_cases hturn : year % 100 = 99
  · have hnext : ((year : Int) + 1) / 4 = block + 1 ∧ ((year : Int) + 1) / 100 = century + 1 := by
      omega
    omega
  · have hnext : ((year : Int) + 1) / 100 = century ∧ ((year : Int) + 1) / 400 = 0 := by omega
    split at hhigh <;> omega

/-- The date of a day of a year that begins with March. -/
theorem dayNumber_of_dayOfYear {year : Int} {dayOfYear monthFromMarch month day : Nat}
    (hday : dayOfYear < yearLength (year + 1))
    (hfromMarch : monthFromMarch = (5 * dayOfYear + 2) / 153)
    (hmonth : month = if monthFromMarch < 10 then monthFromMarch + 3 else monthFromMarch - 9)
    (hdate : day = dayOfYear - (153 * monthFromMarch + 2) / 5 + 1) :
    (1 ≤ month ∧ month ≤ 12) ∧
      (1 ≤ day ∧ day ≤ monthLength (year + if month ≤ 2 then 1 else 0) month) ∧
      dayNumber (year + if month ≤ 2 then 1 else 0) month day =
        marchDay year + dayOfYear - epochDay := by
  rw [yearLength_eq] at hday
  have hstart : (153 * monthFromMarch + 2) / 5 ≤ dayOfYear := by omega
  have hlast : monthFromMarch ≤ 11 := by split at hday <;> omega
  by_cases hspring : monthFromMarch < 10
  · rw [if_pos hspring] at hmonth
    have hlate : ¬ month ≤ 2 := by omega
    have hlength : (153 * (monthFromMarch + 1) + 2) / 5 =
        (153 * monthFromMarch + 2) / 5 + monthLength year month := by
      subst hmonth
      clear hstart hdate hfromMarch
      interval_cases monthFromMarch <;> rfl
    have hbefore : daysBeforeMonth year month =
        (153 * monthFromMarch + 2) / 5 + 59 + if IsLeapYear year then 1 else 0 := by
      rw [daysBeforeMonth_eq year (by omega), if_neg hlate, hmonth, Nat.add_sub_cancel]
    have hmarch := marchDay_add_one (year - 1)
    rw [Int.sub_add_cancel, yearLength_eq] at hmarch
    have hnext : dayOfYear < (153 * (monthFromMarch + 1) + 2) / 5 := by omega
    rw [if_neg hlate, add_zero]
    generalize (153 * monthFromMarch + 2) / 5 = start at *
    refine ⟨by omega, by omega, ?_⟩
    rw [dayNumber, daysBeforeYear_eq, hbefore]
    omega
  · rw [if_neg hspring] at hmonth
    have hearly : month ≤ 2 := by omega
    have hbefore : daysBeforeMonth (year + 1) month + 306 = (153 * monthFromMarch + 2) / 5 := by
      rw [daysBeforeMonth_eq _ (by omega), if_pos hearly]
      omega
    have hlength : dayOfYear + 1 ≤
        (153 * monthFromMarch + 2) / 5 + monthLength (year + 1) month := by
      obtain ⟨rfl, rfl⟩ | ⟨rfl, rfl⟩ :
          month = 1 ∧ monthFromMarch = 10 ∨ month = 2 ∧ monthFromMarch = 11 := by omega
      · have hjanuary : monthLength (year + 1) 1 = 31 := rfl
        omega
      · rw [monthLength_february]
        omega
    rw [if_pos hearly]
    generalize (153 * monthFromMarch + 2) / 5 = start at *
    refine ⟨by omega, by omega, ?_⟩
    rw [dayNumber, daysBeforeYear_eq, Int.add_sub_cancel]
    omega

/-- The date of a day number is valid, and it is that of the day. -/
theorem dayNumber_dateOfDay {number year : Int} {month day : Nat}
    (hdate : dateOfDay number = (year, month, day)) :
    (1 ≤ month ∧ month ≤ 12) ∧ (1 ≤ day ∧ day ≤ monthLength year month) ∧
      dayNumber year month day = number := by
  unfold dateOfDay at hdate
  extract_lets shifted cycle dayOfCycle yearOfCycle dayOfYear monthFromMarch date monthOfYear
    calendarYear at hdate
  obtain ⟨rfl, rfl, rfl⟩ := by simpa only [Prod.mk.injEq] using hdate
  have hpositive : 0 ≤ cycleDays := by decide
  have hshifted : shifted = cycleDays * cycle + dayOfCycle ∧ dayOfCycle < 146097 := by
    simp only [dayOfCycle, cycle, Int.fdiv_eq_ediv_of_nonneg _ hpositive,
      Int.fmod_eq_emod_of_nonneg _ hpositive]
    unfold cycleDays
    omega
  obtain ⟨hyear, hlow, hhigh⟩ := marchDay_yearOfCycle hshifted.2
    (show yearOfCycle = _ from rfl)
  have hbegin := marchDay_add_cycles cycle yearOfCycle
  have hend := marchDay_add_cycles cycle (yearOfCycle + 1)
  have hlength := marchDay_add_one (400 * cycle + yearOfCycle)
  rw [add_assoc] at hlength
  have hdayOfYear : (dayOfYear : Int) = dayOfCycle - marchDay yearOfCycle := by
    unfold marchDay at hlow ⊢
    omega
  have hcalendarYear : calendarYear =
      400 * cycle + yearOfCycle + if monthOfYear ≤ 2 then 1 else 0 := by
    simp only [calendarYear, mul_comm]
  have hinYear : dayOfYear < yearLength (400 * cycle + yearOfCycle + 1) := by
    rw [add_assoc]
    omega
  obtain ⟨hmonth, hday, hnumber⟩ := dayNumber_of_dayOfYear hinYear
    (show monthFromMarch = _ from rfl) (show monthOfYear = _ from rfl) (show date = _ from rfl)
  rw [hcalendarYear]
  exact ⟨hmonth, hday, by omega⟩

/-! ## Moments -/

/-- The moment of a number of milliseconds is valid, and so far from the start of 1970. -/
theorem isValid_momentOf (millis : Int) :
    (momentOf millis).IsValid ∧ (momentOf millis).millis = millis := by
  have hpositive : 0 ≤ dayMillis := by decide
  rcases hdate : dateOfDay (millis.fdiv dayMillis) with ⟨year, month, day⟩
  obtain ⟨hmonth, hday, hnumber⟩ := dayNumber_dateOfDay hdate
  simp only [momentOf, hdate]
  rw [Int.fdiv_eq_ediv_of_nonneg _ hpositive] at hnumber
  rw [Int.fmod_eq_emod_of_nonneg _ hpositive]
  unfold dayMillis at hnumber ⊢
  constructor
  · exact
      { month := hmonth
        day := hday
        hour := by dsimp only; omega
        minute := Nat.mod_lt _ (by decide)
        second := Nat.mod_lt _ (by decide)
        millisecond := Nat.mod_lt _ (by decide) }
  · simp only [Moment.millis, hnumber]
    omega

/-- A date lies in the year that its day number lies in. -/
theorem Moment.IsValid.dayNumber_mem {moment : Moment} (hvalid : moment.IsValid) :
    daysBeforeYear moment.year ≤ dayNumber moment.year moment.month moment.day ∧
      dayNumber moment.year moment.month moment.day < daysBeforeYear (moment.year + 1) := by
  obtain ⟨hmonth, hday, -⟩ := hvalid
  have hnext := daysBeforeMonth_succ moment.year hmonth.1
  have hend := daysBeforeMonth_mono moment.year (show moment.month + 1 ≤ 13 by omega)
  rw [daysBeforeYear_add_one, yearLength, dayNumber]
  omega

theorem daysBeforeYear_lt_iff {first second : Int} :
    daysBeforeYear first < daysBeforeYear second ↔ first < second := by
  have hmono : StrictMono daysBeforeYear := by
    apply strictMono_int_of_lt_succ
    intro year
    rw [daysBeforeYear_add_one, yearLength_eq]
    omega
  exact hmono.lt_iff_lt

/-- Valid dates of one day number are the same. -/
theorem Moment.IsValid.date_eq {first second : Moment} (hfirst : first.IsValid)
    (hsecond : second.IsValid)
    (hnumber : dayNumber first.year first.month first.day =
      dayNumber second.year second.month second.day) :
    first.year = second.year ∧ first.month = second.month ∧ first.day = second.day := by
  have hyear : first.year = second.year := by
    obtain ⟨hfirstLow, hfirstHigh⟩ := hfirst.dayNumber_mem
    obtain ⟨hsecondLow, hsecondHigh⟩ := hsecond.dayNumber_mem
    have hbefore := daysBeforeYear_lt_iff.1 (hfirstLow.trans_lt (hnumber ▸ hsecondHigh))
    have hafter := daysBeforeYear_lt_iff.1 (hsecondLow.trans_lt (hnumber ▸ hfirstHigh))
    omega
  obtain ⟨hfirstMonth, hfirstDay, -⟩ := hfirst
  obtain ⟨hsecondMonth, hsecondDay, -⟩ := hsecond
  have hfirstNext := daysBeforeMonth_succ first.year hfirstMonth.1
  have hsecondNext := daysBeforeMonth_succ second.year hsecondMonth.1
  have hmonth : first.month = second.month := by
    rcases lt_trichotomy first.month second.month with hlt | heq | hgt
    · have hle := daysBeforeMonth_mono first.year (show first.month + 1 ≤ second.month from hlt)
      rw [dayNumber, dayNumber, ← hyear] at hnumber
      omega
    · exact heq
    · have hle := daysBeforeMonth_mono second.year (show second.month + 1 ≤ first.month from hgt)
      rw [dayNumber, dayNumber, hyear] at hnumber
      omega
  refine ⟨hyear, hmonth, ?_⟩
  rw [dayNumber, dayNumber, hyear, hmonth] at hnumber
  omega

/-- Valid moments at one distance from the start of 1970 are the same. -/
theorem Moment.IsValid.eq_of_millis {first second : Moment} (hfirst : first.IsValid)
    (hsecond : second.IsValid) (hmillis : first.millis = second.millis) : first = second := by
  have hdate := hfirst.date_eq hsecond
  obtain ⟨-, -, _, _, _, _⟩ := hfirst
  obtain ⟨-, -, _, _, _, _⟩ := hsecond
  unfold Moment.millis at hmillis
  obtain ⟨hyear, hmonth, hday⟩ := hdate (by omega)
  cases first
  cases second
  simp only [Moment.mk.injEq]
  dsimp only at *
  refine ⟨hyear, hmonth, hday, ?_, ?_, ?_, ?_⟩ <;> omega

end ClassroomClient.Calendar
