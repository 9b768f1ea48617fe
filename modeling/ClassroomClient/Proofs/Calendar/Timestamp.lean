/-
# Points in time as texts

The text of a point in time says all of it. In the years that the calendar covers it is the date,
the time of day and the offset of the one valid moment that lies so many milliseconds from the start
of 1970, before it or after it. Elsewhere it is the plain number. No text belongs to two moments,
and only those of moments have a `T`, so that no two points in time look alike.
-/

import ClassroomClient.Proofs.Calendar.Date
import ClassroomClient.Proofs.Text

namespace ClassroomClient.Calendar

/-! ## Numerals -/

/-- A number in base ten, in so many digits. -/
structure IsNumeral (width n : Nat) (digits : List Char) : Prop where
  length : digits.length = width
  isDigit : ∀ c ∈ digits, c.isDigit = true
  value : Nat.ofDigitChars 10 digits 0 = n

theorem isNumeral_decimal (n : Nat) :
    IsNumeral (Text.decimal n).length n (Text.decimal n) where
  length := rfl
  isDigit _ hmem := Text.isDigit_of_mem_decimal hmem
  value := Nat.ofDigitChars_ten_toDigits

/-- Zeros in front of a numeral make it longer. -/
theorem IsNumeral.padZeros {length n : Nat} {digits : List Char}
    (hnumeral : IsNumeral length n digits) (width : Nat) :
    IsNumeral (max width length) n (Text.padZeros width digits) := by
  constructor
  case length =>
    rw [Text.padZeros, List.length_append, List.length_replicate, hnumeral.length]
    omega
  case isDigit =>
    intro c hmem
    rcases List.mem_append.1 hmem with hzero | hdigit
    · rw [List.eq_of_mem_replicate hzero]
      rfl
    · exact hnumeral.isDigit c hdigit
  case value =>
    rw [Text.padZeros, Nat.ofDigitChars_append, Nat.ofDigitChars_replicate_zero, Nat.mul_zero,
      hnumeral.value]

/-- A small number fills the width that it is padded to. -/
theorem isNumeral_padZeros {width n : Nat} (hwidth : 0 < width) (hsmall : n < 10 ^ width) :
    IsNumeral width n (Text.padZeros width (Text.decimal n)) := by
  have hlength : (Text.decimal n).length ≤ width :=
    (Nat.length_toDigits_le_iff (by decide) hwidth).2 hsmall
  have hpadded := (isNumeral_decimal n).padZeros width
  rwa [max_eq_left hlength] at hpadded

/-- Numerals of one width are told apart from what stands behind them. -/
theorem IsNumeral.append_inj {width n m : Nat} {first second rest others : List Char}
    (hfirst : IsNumeral width n first) (hsecond : IsNumeral width m second)
    (heq : first ++ rest = second ++ others) : n = m ∧ rest = others := by
  obtain ⟨rfl, hrest⟩ := List.append_inj heq (hfirst.length.trans hsecond.length.symm)
  exact ⟨hfirst.value.symm.trans hsecond.value, hrest⟩

/-- A numeral does not begin with a sign. -/
theorem IsNumeral.cons_ne {width n : Nat} {digits rest : List Char} {c : Char}
    (hnumeral : IsNumeral (width + 1) n digits) (hc : c.isDigit = false) (tail : List Char) :
    digits ++ tail ≠ c :: rest := by
  intro heq
  cases digits with
  | nil => cases hnumeral.length
  | cons digit others =>
      have hdigit := hnumeral.isDigit digit List.mem_cons_self
      rw [(List.cons.inj heq).1, hc] at hdigit
      cases hdigit

/-! ## Years -/

/-- A number of at least four digits that begins with zero only to reach four. -/
def IsYearNumeral (n : Nat) (digits : List Char) : Prop :=
  IsNumeral 4 n digits ∨
    ∃ width, 4 < width ∧ IsNumeral width n digits ∧ digits.head? ≠ some '0'

theorem IsYearNumeral.isNumeral {n : Nat} {digits : List Char}
    (hnumeral : IsYearNumeral n digits) : ∃ width, IsNumeral width n digits := by
  rcases hnumeral with hshort | ⟨width, -, hlong, -⟩
  · exact ⟨4, hshort⟩
  · exact ⟨width, hlong⟩

theorem isYearNumeral_padZeros (n : Nat) :
    IsYearNumeral n (Text.padZeros 4 (Text.decimal n)) := by
  by_cases hsmall : n < 10 ^ 4
  · exact .inl (isNumeral_padZeros (by decide) hsmall)
  · have hlength : ¬ (Text.decimal n).length ≤ 4 := fun hle =>
      hsmall ((Nat.length_toDigits_le_iff (by decide) (by decide)).1 hle)
    have hself : Text.padZeros 4 (Text.decimal n) = Text.decimal n := by
      rw [Text.padZeros, Nat.sub_eq_zero_of_le (by omega), List.replicate_zero, List.nil_append]
    rw [hself]
    exact .inr ⟨_, by omega, isNumeral_decimal n, Text.head?_decimal_ne (by omega)⟩

/-- The text of a year: four digits for those up to 9999, and a sign before the digits for the years
after it and for those before the year zero. -/
inductive WritesYear : Int → List Char → Prop
  | plain {n : Nat} {digits : List Char} (hfits : n ≤ 9999) (hdigits : IsNumeral 4 n digits) :
      WritesYear n digits
  | late {n : Nat} {digits : List Char} (hlate : 9999 < n) (hdigits : IsYearNumeral n digits) :
      WritesYear n ('+' :: digits)
  | early {n : Nat} {digits : List Char} (hearly : 0 < n) (hdigits : IsYearNumeral n digits) :
      WritesYear (-n) ('-' :: digits)

theorem writesYear_yearText (year : Int) : WritesYear year (yearText year) := by
  obtain ⟨n, rfl | rfl⟩ := year.eq_nat_or_neg
  · by_cases hfits : n ≤ 9999
    · have htext : yearText n = Text.padZeros 4 (Text.decimal n) := by
        simp [yearText, hfits]
      rw [htext]
      exact .plain hfits (isNumeral_padZeros (by decide) (by omega))
    · have htext : yearText n = '+' :: Text.padZeros 4 (Text.decimal n) := by
        simp [yearText, hfits]
      rw [htext]
      exact .late (by omega) (isYearNumeral_padZeros n)
  · by_cases hzero : n = 0
    · subst hzero
      exact .plain (n := 0) (by decide) (isNumeral_padZeros (by decide) (by decide))
    · have htext : yearText (-n) = '-' :: Text.padZeros 4 (Text.decimal n) := by
        simp [yearText, hzero]
      rw [htext]
      exact .early (by omega) (isYearNumeral_padZeros n)

/-- Digits end at the first character that is none. -/
theorem eq_of_append_cons {first second rest others : List Char} {c d : Char}
    (hfirst : ∀ c ∈ first, c.isDigit = true) (hsecond : ∀ c ∈ second, c.isDigit = true)
    (hc : c.isDigit = false) (hd : d.isDigit = false)
    (heq : first ++ c :: rest = second ++ d :: others) : first = second ∧ rest = others := by
  have htake := congrArg (List.takeWhile Char.isDigit) heq
  rw [List.takeWhile_append_of_pos hfirst, List.takeWhile_append_of_pos hsecond,
    List.takeWhile_cons_of_neg (by simp [hc]), List.takeWhile_cons_of_neg (by simp [hd]),
    List.append_nil, List.append_nil] at htake
  subst htake
  exact ⟨rfl, (List.cons.inj (List.append_cancel_left heq)).2⟩

theorem IsYearNumeral.append_inj {n m : Nat} {first second rest others : List Char}
    (hfirst : IsYearNumeral n first) (hsecond : IsYearNumeral m second)
    (heq : first ++ '-' :: rest = second ++ '-' :: others) : n = m ∧ rest = others := by
  obtain ⟨width, hfirst⟩ := hfirst.isNumeral
  obtain ⟨length, hsecond⟩ := hsecond.isNumeral
  obtain ⟨rfl, hrest⟩ := eq_of_append_cons hfirst.isDigit hsecond.isDigit rfl rfl heq
  exact ⟨hfirst.value.symm.trans hsecond.value, hrest⟩

/-- The text of a year is told apart from the date behind it. -/
theorem WritesYear.append_inj {year other : Int} {first second rest others : List Char}
    (hfirst : WritesYear year first) (hsecond : WritesYear other second)
    (heq : first ++ '-' :: rest = second ++ '-' :: others) : year = other ∧ rest = others := by
  cases hfirst with
  | plain _ hdigits =>
      cases hsecond with
      | plain _ hothers =>
          obtain ⟨rfl, htails⟩ := hdigits.append_inj hothers heq
          exact ⟨rfl, (List.cons.inj htails).2⟩
      | late => exact absurd heq (hdigits.cons_ne rfl _)
      | early => exact absurd heq (hdigits.cons_ne rfl _)
  | late _ hdigits =>
      cases hsecond with
      | plain _ hothers => exact absurd heq.symm (hothers.cons_ne rfl _)
      | late _ hothers =>
          obtain ⟨rfl, hrest⟩ := hdigits.append_inj hothers (List.cons.inj heq).2
          exact ⟨rfl, hrest⟩
      | early => cases heq
  | early _ hdigits =>
      cases hsecond with
      | plain _ hothers => exact absurd heq.symm (hothers.cons_ne rfl _)
      | late => cases heq
      | early _ hothers =>
          obtain ⟨rfl, hrest⟩ := hdigits.append_inj hothers (List.cons.inj heq).2
          exact ⟨rfl, hrest⟩

/-! ## Moments -/

/-- The text of the milliseconds: none for zero, else a point and three digits. -/
inductive WritesFraction : Nat → List Char → Prop
  | whole : WritesFraction 0 []
  | part {n : Nat} {digits : List Char} (hpart : n ≠ 0) (hdigits : IsNumeral 3 n digits) :
      WritesFraction n ('.' :: digits)

/-- The text of a moment: `YYYY-MM-DDThh:mm:ss.mmm+00:00`, with the year and the milliseconds as
they are written. -/
inductive Moment.Writes (moment : Moment) : List Char → Prop
  | mk {year month day hour minute second fraction : List Char}
      (hyear : WritesYear moment.year year)
      (hmonth : IsNumeral 2 moment.month month)
      (hday : IsNumeral 2 moment.day day)
      (hhour : IsNumeral 2 moment.hour hour)
      (hminute : IsNumeral 2 moment.minute minute)
      (hsecond : IsNumeral 2 moment.second second)
      (hfraction : WritesFraction moment.millisecond fraction) :
      Moment.Writes moment
        (year ++ '-' :: month ++ '-' :: day ++ 'T' :: hour ++ ':' :: minute ++ ':' :: second ++
          fraction ++ "+00:00".toList)

theorem Moment.IsValid.writes_text {moment : Moment} (hvalid : moment.IsValid) :
    moment.Writes moment.text := by
  have hdays : monthLength moment.year moment.month ≤ 31 := by
    unfold monthLength
    split_ifs <;> decide
  obtain ⟨hmonth, hday, hhour, hminute, hsecond, hmillisecond⟩ := hvalid
  have htwo {n : Nat} (hsmall : n < 10 ^ 2) : IsNumeral 2 n (two n) :=
    isNumeral_padZeros (by decide) hsmall
  have hfraction : WritesFraction moment.millisecond
      (if moment.millisecond = 0 then []
        else '.' :: Text.padZeros 3 (Text.decimal moment.millisecond)) := by
    split
    · next hzero =>
      rw [hzero]
      exact .whole
    · next hpart => exact .part hpart (isNumeral_padZeros (by decide) (by omega))
  exact .mk (writesYear_yearText _) (htwo (by omega)) (htwo (by omega)) (htwo (by omega))
    (htwo (by omega)) (htwo (by omega)) hfraction

/-- The text of the milliseconds is told by all of it. -/
theorem WritesFraction.eq {n m : Nat} {text : List Char} (hfirst : WritesFraction n text)
    (hsecond : WritesFraction m text) : n = m := by
  cases hfirst with
  | whole =>
      cases hsecond with
      | whole => rfl
  | part _ hdigits =>
      cases hsecond with
      | part _ hothers => exact hdigits.value.symm.trans hothers.value

/-- A text belongs to one moment. -/
theorem Moment.Writes.eq {first second : Moment} {text : List Char}
    (hfirst : first.Writes text) (hsecond : second.Writes text) : first = second := by
  cases hfirst with
  | mk hyear hmonth hday hhour hminute hseconds hfraction =>
  generalize htext : _ ++ "+00:00".toList = text at hsecond
  cases hsecond with
  | mk hyear' hmonth' hday' hhour' hminute' hseconds' hfraction' =>
  rw [List.append_cancel_right_eq] at htext
  simp only [List.append_assoc, List.cons_append] at htext
  -- The parts are taken off one after the other, from the year to the milliseconds.
  obtain ⟨hyear, htext⟩ := hyear.append_inj hyear' htext
  obtain ⟨hmonth, htext⟩ := hmonth.append_inj hmonth' htext
  obtain ⟨hday, htext⟩ := hday.append_inj hday' (List.cons.inj htext).2
  obtain ⟨hhour, htext⟩ := hhour.append_inj hhour' (List.cons.inj htext).2
  obtain ⟨hminute, htext⟩ := hminute.append_inj hminute' (List.cons.inj htext).2
  obtain ⟨hseconds, rfl⟩ := hseconds.append_inj hseconds' (List.cons.inj htext).2
  have hfraction := hfraction.eq hfraction'
  cases first
  cases second
  simp only [Moment.mk.injEq]
  exact ⟨hyear, hmonth, hday, hhour, hminute, hseconds, hfraction⟩

/-- A point in time is shown as a moment in the years of the calendar. -/
theorem covers_iff {moment : Moment} (hvalid : moment.IsValid) :
    covers moment.millis = true ↔ firstYear ≤ moment.year ∧ moment.year ≤ lastYear := by
  have hfirst : dayOfDate firstYear 1 1 = daysBeforeYear firstYear := by
    rw [daysBeforeYear_eq]
    decide
  have hend : dayOfDate (lastYear + 1) 1 1 = daysBeforeYear (lastYear + 1) := by
    rw [daysBeforeYear_eq]
    decide
  have hday : covers moment.millis = true ↔ daysBeforeYear firstYear ≤
      dayNumber moment.year moment.month moment.day ∧
        dayNumber moment.year moment.month moment.day < daysBeforeYear (lastYear + 1) := by
    obtain ⟨-, -, _, _, _, _⟩ := hvalid
    rw [covers, hfirst, hend, Bool.and_eq_true, decide_eq_true_eq, decide_eq_true_eq]
    unfold Moment.millis dayMillis
    omega
  obtain ⟨hlow, hhigh⟩ := hvalid.dayNumber_mem
  rw [hday]
  constructor
  · rintro ⟨hfrom, hto⟩
    have hyear := daysBeforeYear_lt_iff.1 (hfrom.trans_lt hhigh)
    have hlast := daysBeforeYear_lt_iff.1 (hlow.trans_lt hto)
    omega
  · rintro ⟨hfrom, hto⟩
    have hbefore := daysBeforeYear_lt_iff.not.2 (not_lt.2 hfrom)
    have hbeyond := daysBeforeYear_lt_iff.not.2 (not_lt.2 (Int.add_le_add_right hto 1))
    omega

/-! ## Plain numbers -/

theorem toList_toString (n : Int) : (toString n).toList = Text.signedDecimal n := by
  cases n with
  | ofNat n =>
      have hsign : ¬ Int.ofNat n < 0 := by simp
      rw [Text.signedDecimal, if_neg hsign]
      exact Nat.toList_repr
  | negSucc n =>
      rw [Text.signedDecimal, if_pos (Int.negSucc_lt_zero n),
        show toString (Int.negSucc n) = "-" ++ (n + 1).repr from rfl]
      simp [Text.decimal]

theorem isDigit_or_of_mem_signedDecimal {n : Int} {c : Char} (hmem : c ∈ Text.signedDecimal n) :
    c.isDigit = true ∨ c = '-' := by
  rw [Text.signedDecimal] at hmem
  split at hmem
  · rcases List.mem_cons.1 hmem with hsign | hdigit
    · exact .inr hsign
    · exact .inl (Text.isDigit_of_mem_decimal hdigit)
  · exact .inl (Text.isDigit_of_mem_decimal hmem)

theorem signedDecimal_injective : Function.Injective Text.signedDecimal := by
  intro n m heq
  have hunsigned {k : Nat} {rest : List Char} : Text.decimal k ≠ '-' :: rest := by
    intro hsign
    have hdigit := Text.isDigit_of_mem_decimal (n := k) (hsign ▸ List.mem_cons_self)
    exact absurd hdigit (by decide)
  unfold Text.signedDecimal at heq
  split at heq <;> split at heq
  · have habs := Text.decimal_injective (List.cons.inj heq).2
    omega
  · exact absurd heq.symm hunsigned
  · exact absurd heq hunsigned
  · have habs := Text.decimal_injective heq
    omega

/-- The text of a moment has a letter, which no number has. -/
theorem Moment.Writes.ne_signedDecimal {moment : Moment} {text : List Char} {n : Int}
    (hwrites : moment.Writes text) : text ≠ Text.signedDecimal n := by
  rintro rfl
  have hletter : 'T' ∈ Text.signedDecimal n := by
    generalize Text.signedDecimal n = text at hwrites
    cases hwrites with
    | mk => simp
  rcases isDigit_or_of_mem_signedDecimal hletter with hdigit | hsign
  · cases hdigit
  · cases hsign

/-! ## Points in time -/

/-- Every point in time is one valid moment. In the years that the calendar covers it is shown as
this moment, and in all others as the plain number. No two of them are shown by the same text. -/
theorem timestamp_exact :
    (∀ millis : Int, ∃ moment : Moment,
      (∀ other : Moment, other.IsValid ∧ other.millis = millis ↔ other = moment) ∧
      if -262143 ≤ moment.year ∧ moment.year ≤ 262142 then
        moment.Writes (timestamp millis).toList
      else timestamp millis = toString millis) ∧
    Function.Injective timestamp := by
  have hmoment (millis : Int) : covers millis = true →
      (momentOf millis).Writes (timestamp millis).toList := by
    intro hcovers
    rw [timestamp, if_pos hcovers, String.toList_ofList]
    exact (isValid_momentOf millis).1.writes_text
  have hnumber (millis : Int) : ¬ covers millis = true →
      (timestamp millis).toList = Text.signedDecimal millis := by
    intro hcovers
    rw [timestamp, if_neg hcovers, String.toList_ofList]
  constructor
  · intro millis
    obtain ⟨hvalid, hmillis⟩ := isValid_momentOf millis
    refine ⟨momentOf millis, ?_, ?_⟩
    · intro other
      constructor
      · rintro ⟨hother, heq⟩
        exact hother.eq_of_millis hvalid (heq.trans hmillis.symm)
      · rintro rfl
        exact ⟨hvalid, hmillis⟩
    · have hcovers := covers_iff hvalid
      rw [hmillis] at hcovers
      split
      · next hyears => exact hmoment millis (hcovers.2 hyears)
      · next hyears =>
        apply String.toList_injective
        rw [toList_toString]
        exact hnumber millis fun hin => hyears (hcovers.1 hin)
  · intro first second heq
    have hlists := congrArg String.toList heq
    by_cases hfirst : covers first = true <;> by_cases hsecond : covers second = true
    · have hwrites := hmoment first hfirst
      rw [hlists] at hwrites
      rw [← (isValid_momentOf first).2, ← (isValid_momentOf second).2,
        hwrites.eq (hmoment second hsecond)]
    · exact absurd (hlists.trans (hnumber second hsecond)) (hmoment first hfirst).ne_signedDecimal
    · exact absurd (hlists.symm.trans (hnumber first hfirst))
        (hmoment second hsecond).ne_signedDecimal
    · rw [hnumber first hfirst, hnumber second hsecond] at hlists
      exact signedDecimal_injective hlists

example : timestamp (-62198755200001) = "-0002-12-31T23:59:59.999+00:00" := by decide +kernel

end ClassroomClient.Calendar
