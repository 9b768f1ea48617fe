/-
# Numbers read back

An integer that a reader yields lies within 64 bits, signed or unsigned; whatever does not fit is a
real. Such an integer is read back from its digits in front of anything that may follow a value. A
number of any kind is read there as it is read alone.
-/

import ClassroomClient.Proofs.Json.Written

namespace ClassroomClient.Json

/-! ## Digits -/

/-- The integer of a number lies within 64 bits, signed or unsigned. -/
def Number.InRange : Number → Prop
  | .integer value => -(2 ^ 63 : Nat) ≤ value ∧ value < (2 ^ 64 : Nat)
  | .real _ => True

theorem takeSignificand_le {start : Nat} (hstart : start ≤ Number.maxInteger)
    (digits : List Char) : (takeSignificand start digits).1 ≤ Number.maxInteger := by
  fun_induction takeSignificand start digits with
  | case1 => exact hstart
  | case2 => exact hstart
  | case3 _ _ _ _ hfits ih => exact ih (Nat.not_lt.1 hfits)

theorem le_ofDigitChars (digits : List Char) (start : Nat) :
    start ≤ Nat.ofDigitChars 10 digits start := by
  induction digits generalizing start with
  | nil => exact Nat.le_refl _
  | cons c digits ih =>
      rw [Nat.ofDigitChars_cons]
      exact Nat.le_trans (by omega) (ih _)

/-- Digits of a number that fits into 64 bits are all taken. -/
theorem takeSignificand_of_le {digits : List Char} {start : Nat}
    (hfits : Nat.ofDigitChars 10 digits start ≤ Number.maxInteger) :
    takeSignificand start digits = (Nat.ofDigitChars 10 digits start, []) := by
  induction digits generalizing start with
  | nil => rfl
  | cons c digits ih =>
      rw [Nat.ofDigitChars_cons, Nat.mul_comm] at hfits ⊢
      have hnext := Nat.le_trans (le_ofDigitChars digits _) hfits
      rw [takeSignificand, if_neg (Nat.not_lt.2 hnext), ih hfits]

theorem inRange_ofInteger (negative : Bool) {significand : Nat}
    (hfits : significand ≤ Number.maxInteger) :
    (Number.ofInteger negative significand).InRange := by
  have hmax : Number.maxInteger = 2 ^ 64 - 1 := rfl
  unfold Number.ofInteger
  split
  · constructor <;> omega
  · split
    · trivial
    · next hsmall =>
      have hbound : significand ≤ 2 ^ 63 := by
        have hpow : Nat.pow 2 63 = 2 ^ 63 := rfl
        simp only [Bool.or_eq_true, beq_iff_eq, decide_eq_true_eq, not_or, hpow] at hsmall
        omega
      constructor <;> omega

/-! ## Numbers that are read -/

section InRange

variable {negative : Bool} {significand : Nat} {exponent : Int} {text rest : List Char}
  {number : Number}

theorem inRange_of_finishReal
    (hread : finishReal negative significand exponent text = .ok (number, rest)) :
    number.InRange := by
  unfold finishReal at hread
  split at hread
  · next real hreal =>
    obtain ⟨value, -, rfl⟩ := Option.map_eq_some_iff.1 hreal
    cases hread
    trivial
  · cases hread

theorem inRange_of_readExponentDigits {upwards : Bool} {value : Nat}
    (hread : readExponentDigits negative significand exponent upwards value text =
      .ok (number, rest)) : number.InRange := by
  fun_induction readExponentDigits negative significand exponent upwards value text with
  | case1 => exact inRange_of_finishReal hread
  | case2 => cases hread
  | case3 =>
      cases hread
      trivial
  | case4 _ _ _ _ _ _ ih => exact ih hread
  | case5 => exact inRange_of_finishReal hread

theorem inRange_of_readExponent
    (hread : readExponent negative significand exponent text = .ok (number, rest)) :
    number.InRange := by
  unfold readExponent at hread
  dsimp only at hread
  split at hread
  · cases hread
  · split at hread
    · exact inRange_of_readExponentDigits hread
    · cases hread

theorem inRange_of_readFraction
    (hread : readFraction negative significand exponent text = .ok (number, rest)) :
    number.InRange := by
  unfold readFraction readRealTail at hread
  dsimp only at hread
  split at hread
  · split at hread <;> cases hread
  · split at hread
    · exact inRange_of_readExponent hread
    · exact inRange_of_readExponent hread
    · exact inRange_of_finishReal hread

theorem inRange_of_readNumber (hread : readNumber negative text = .ok (number, rest)) :
    number.InRange := by
  unfold readNumber at hread
  split at hread
  · cases hread
  · dsimp only at hread
    split at hread
    · cases hread
    · split at hread
      · cases hread
      · split at hread
        · exact inRange_of_readFraction hread
        · exact inRange_of_readExponent hread
        · exact inRange_of_readExponent hread
        · split at hread
          · cases hread
            exact inRange_ofInteger negative (takeSignificand_le (Nat.zero_le _) _)
          · exact inRange_of_finishReal hread

end InRange

/-! ## Numbers that are written -/

theorem ne_of_isDigit {c other : Char} (hdigit : c.isDigit = true)
    (hother : other.isDigit = false) : c ≠ other := by
  rintro rfl
  rw [hdigit] at hother
  cases hother

theorem isSpace_eq_false_of_isDigit {c : Char} (hdigit : c.isDigit = true) :
    isSpace c = false := by
  simp [isSpace, ne_of_isDigit hdigit (show ' '.isDigit = false by decide),
    ne_of_isDigit hdigit (show '\n'.isDigit = false by decide),
    ne_of_isDigit hdigit (show '\t'.isDigit = false by decide),
    ne_of_isDigit hdigit (show '\r'.isDigit = false by decide)]

theorem isDigit_eq_false_of_isDelimited {rest : List Char} (hrest : IsDelimited rest) :
    ∀ c ∈ rest.head?, c.isDigit = false := by
  intro c hhead
  rcases hrest c hhead with hspace | rfl | rfl | rfl
  · exact Bool.eq_false_iff.2 fun hdigit => by
      rw [isSpace_eq_false_of_isDigit hdigit] at hspace
      cases hspace
  all_goals decide

/-- Digits end in front of anything else. -/
theorem digits_of_ends {digits rest : List Char} (hdigits : ∀ c ∈ digits, c.isDigit = true)
    (hrest : ∀ c ∈ rest.head?, c.isDigit = false) :
    (digits ++ rest).takeWhile Char.isDigit = digits ∧
      (digits ++ rest).dropWhile Char.isDigit = rest := by
  rw [List.takeWhile_append_of_pos hdigits, List.dropWhile_append_of_pos hdigits]
  cases rest with
  | nil => exact ⟨List.append_nil _, rfl⟩
  | cons c more =>
      have hc := hrest c rfl
      simp [hc]

/-- The digits of an integer are read in front of what may follow a value. -/
theorem readNumber_decimal (negative : Bool) {n : Nat} (hfits : n ≤ Number.maxInteger)
    {rest : List Char} (hrest : IsDelimited rest) :
    readNumber negative (Text.decimal n ++ rest) = .ok (Number.ofInteger negative n, rest) := by
  have hdigits : ∀ c ∈ Text.decimal n, c.isDigit = true := fun _ => Text.isDigit_of_mem_decimal
  obtain ⟨htake, hdrop⟩ := digits_of_ends hdigits (isDigit_eq_false_of_isDelimited hrest)
  have hall : takeSignificand 0 (Text.decimal n) = (n, []) := by
    have hvalue : Nat.ofDigitChars 10 (Text.decimal n) 0 = n := Nat.ofDigitChars_ten_toDigits
    rw [takeSignificand_of_le (by rw [hvalue]; exact hfits), hvalue]
  obtain ⟨first, more, hfirst⟩ : ∃ first more, Text.decimal n = first :: more :=
    List.exists_cons_of_ne_nil Nat.toDigits_ne_nil
  have hleading : (first == '0' && decide (1 < (first :: more).length)) = false := by
    by_cases hzero : n = 0
    · subst hzero
      cases hfirst
      rfl
    · have hhead := Text.head?_decimal_ne (Nat.pos_of_ne_zero hzero)
      rw [hfirst] at hhead
      simp only [List.head?_cons, ne_eq, Option.some.injEq] at hhead
      simp [hhead]
  rw [hfirst] at htake hdrop hall ⊢
  rw [List.cons_append] at htake hdrop ⊢
  unfold readNumber
  simp only [htake, hdrop, hall, List.isEmpty_cons, hleading, Bool.false_eq_true, if_false]
  split
  · exact absurd (hrest '.' rfl) (by decide)
  · exact absurd (hrest 'e' rfl) (by decide)
  · exact absurd (hrest 'E' rfl) (by decide)
  · rfl

/-! ## Numbers in front of other text -/

/-- What such a reader reads is the same whatever follows, as long as that begins as it may behind a
value. -/
def IsLocal {α : Type} (read : Reader α) : Prop :=
  ∀ text value left rest, IsDelimited rest → read text = .ok (value, left) →
    read (text ++ rest) = .ok (value, left ++ rest)

/-- Digits end where they end alone. -/
theorem digits_append (text : List Char) {rest : List Char} (hrest : IsDelimited rest) :
    (text ++ rest).takeWhile Char.isDigit = text.takeWhile Char.isDigit ∧
      (text ++ rest).dropWhile Char.isDigit = text.dropWhile Char.isDigit ++ rest := by
  induction text with
  | nil => exact digits_of_ends (by simp) (isDigit_eq_false_of_isDelimited hrest)
  | cons c text ih =>
      by_cases hc : c.isDigit = true
      · simp [hc, ih.1, ih.2]
      · simp [hc]

/-- A text that does not begin with a character begins with it neither in front of what follows. -/
theorem head?_append_ne {text rest : List Char} (hrest : IsDelimited rest) {c : Char}
    (hc : text.head? ≠ some c)
    (hother : ¬ (isSpace c = true ∨ c = ',' ∨ c = ']' ∨ c = '\x7d')) :
    (text ++ rest).head? ≠ some c := by
  cases text with
  | nil => exact fun hhead => hother (hrest c hhead)
  | cons d more => exact hc

section Local

variable {negative : Bool} {significand : Nat} {exponent : Int}

theorem isLocal_finishReal : IsLocal (finishReal negative significand exponent) := by
  intro text number left rest _ hread
  unfold finishReal at hread ⊢
  split at hread
  · cases hread
    rfl
  · cases hread

theorem isLocal_readExponentDigits (upwards : Bool) (value : Nat) :
    IsLocal (readExponentDigits negative significand exponent upwards value) := by
  intro text number left rest hrest hread
  fun_induction readExponentDigits negative significand exponent upwards value text with
  | case1 value =>
      have hfinish := isLocal_finishReal _ _ _ rest hrest hread
      cases rest with
      | nil => exact hfinish
      | cons c more =>
          have hc := isDigit_eq_false_of_isDelimited hrest c rfl
          rw [List.nil_append, readExponentDigits, hc]
          exact hfinish
  | case2 => cases hread
  | case3 value c more hdigit _ hlarge hzero =>
      cases hread
      rw [List.cons_append, readExponentDigits, if_pos hdigit, if_pos hlarge, if_neg hzero,
        (digits_append more hrest).2]
  | case4 value c more hdigit _ hsmall ih =>
      rw [List.cons_append, readExponentDigits, if_pos hdigit, if_neg hsmall]
      exact ih hread
  | case5 value c more hdigit =>
      rw [List.cons_append, readExponentDigits, if_neg hdigit]
      exact isLocal_finishReal _ _ _ rest hrest hread

/-- The digits of an exponent, of which there is one at least. -/
def readSignedExponent (negative : Bool) (significand : Nat) (start : Int) (upwards : Bool) :
    Reader Number := fun digits =>
  match digits with
  | [] => .error (.before .endInValue [])
  | c :: _ =>
    if c.isDigit then
      readExponentDigits negative significand start upwards 0 digits
    else
      .error (.within .invalidNumber digits)

theorem isLocal_readSignedExponent (upwards : Bool) :
    IsLocal (readSignedExponent negative significand exponent upwards) := by
  intro text number left rest hrest hread
  unfold readSignedExponent at hread ⊢
  cases text with
  | nil => cases hread
  | cons c more =>
      dsimp only [List.cons_append] at hread ⊢
      split at hread
      · next hdigit =>
        rw [if_pos hdigit]
        exact isLocal_readExponentDigits upwards 0 _ _ _ rest hrest hread
      · cases hread

/-- An exponent without a sign counts upwards. -/
theorem readExponent_of_unsigned {c : Char} (hplus : c ≠ '+') (hminus : c ≠ '-')
    (more : List Char) :
    readExponent negative significand exponent (c :: more) =
      readSignedExponent negative significand exponent true (c :: more) := by
  simp [readExponent, hplus, hminus, readSignedExponent]

theorem isLocal_readExponent : IsLocal (readExponent negative significand exponent) := by
  intro text number left rest hrest hread
  cases text with
  | nil => cases hread
  | cons c more =>
      by_cases hplus : c = '+'
      · subst hplus
        exact isLocal_readSignedExponent true more _ _ rest hrest hread
      · by_cases hminus : c = '-'
        · subst hminus
          exact isLocal_readSignedExponent false more _ _ rest hrest hread
        · rw [List.cons_append, readExponent_of_unsigned hplus hminus]
          rw [readExponent_of_unsigned hplus hminus] at hread
          exact isLocal_readSignedExponent true (c :: more) _ _ rest hrest hread

/-- Without an exponent a real ends behind its digits. -/
theorem readRealTail_of_ne {more : List Char} (hlower : more.head? ≠ some 'e')
    (hupper : more.head? ≠ some 'E') :
    readRealTail negative significand exponent more =
      finishReal negative significand exponent more := by
  unfold readRealTail
  split
  · exact absurd rfl hlower
  · exact absurd rfl hupper
  · rfl

theorem isLocal_readRealTail : IsLocal (readRealTail negative significand exponent) := by
  intro text number left rest hrest hread
  by_cases hlower : text.head? = some 'e'
  · obtain ⟨more, rfl⟩ := List.head?_eq_some_iff.1 hlower
    exact isLocal_readExponent more _ _ rest hrest hread
  · by_cases hupper : text.head? = some 'E'
    · obtain ⟨more, rfl⟩ := List.head?_eq_some_iff.1 hupper
      exact isLocal_readExponent more _ _ rest hrest hread
    · rw [readRealTail_of_ne hlower hupper] at hread
      rw [readRealTail_of_ne (head?_append_ne hrest hlower (by decide))
        (head?_append_ne hrest hupper (by decide))]
      exact isLocal_finishReal text _ _ rest hrest hread

theorem isLocal_readFraction : IsLocal (readFraction negative significand exponent) := by
  intro text number left rest hrest hread
  obtain ⟨htake, hdrop⟩ := digits_append text hrest
  unfold readFraction at hread ⊢
  simp only [htake, hdrop] at hread ⊢
  split at hread
  · split at hread <;> cases hread
  · next hsome =>
    rw [if_neg hsome]
    exact isLocal_readRealTail _ _ _ rest hrest hread

/-- What stands behind the digits of an integer part. -/
def readNumberTail (negative : Bool) (significand : Nat) (left : List Char) : Reader Number :=
  fun rest =>
    match rest with
    | '.' :: fraction => readFraction negative significand left.length fraction
    | 'e' :: exponent => readExponent negative significand left.length exponent
    | 'E' :: exponent => readExponent negative significand left.length exponent
    | _ =>
      if left.isEmpty then .ok (Number.ofInteger negative significand, rest)
      else finishReal negative significand left.length rest

/-- Without a fraction and an exponent a number ends behind its digits. -/
theorem readNumberTail_of_ne {more : List Char} (hpoint : more.head? ≠ some '.')
    (hlower : more.head? ≠ some 'e') (hupper : more.head? ≠ some 'E') (left : List Char) :
    readNumberTail negative significand left more =
      if left.isEmpty then .ok (Number.ofInteger negative significand, more)
      else finishReal negative significand left.length more := by
  unfold readNumberTail
  split
  · exact absurd rfl hpoint
  · exact absurd rfl hlower
  · exact absurd rfl hupper
  · rfl

theorem isLocal_readNumberTail (digits : List Char) :
    IsLocal (readNumberTail negative significand digits) := by
  intro text number left rest hrest hread
  by_cases hpoint : text.head? = some '.'
  · obtain ⟨more, rfl⟩ := List.head?_eq_some_iff.1 hpoint
    exact isLocal_readFraction more _ _ rest hrest hread
  · by_cases hlower : text.head? = some 'e'
    · obtain ⟨more, rfl⟩ := List.head?_eq_some_iff.1 hlower
      exact isLocal_readExponent more _ _ rest hrest hread
    · by_cases hupper : text.head? = some 'E'
      · obtain ⟨more, rfl⟩ := List.head?_eq_some_iff.1 hupper
        exact isLocal_readExponent more _ _ rest hrest hread
      · rw [readNumberTail_of_ne hpoint hlower hupper] at hread
        rw [readNumberTail_of_ne (head?_append_ne hrest hpoint (by decide))
          (head?_append_ne hrest hlower (by decide)) (head?_append_ne hrest hupper (by decide))]
        split at hread
        · next hall =>
          cases hread
          rw [if_pos hall]
        · next hsome =>
          rw [if_neg hsome]
          exact isLocal_finishReal text _ _ rest hrest hread

theorem isLocal_readNumber : IsLocal (readNumber negative) := by
  intro text number left rest hrest hread
  cases text with
  | nil => cases hread
  | cons first more =>
      obtain ⟨htake, hdrop⟩ := digits_append (first :: more) hrest
      rw [List.cons_append] at htake hdrop ⊢
      unfold readNumber at hread ⊢
      simp only [htake, hdrop] at hread ⊢
      split at hread
      · cases hread
      · next hsome =>
        split at hread
        · cases hread
        · next hleading =>
          rw [if_neg hsome, if_neg hleading]
          exact isLocal_readNumberTail _ _ _ _ rest hrest hread

end Local

end ClassroomClient.Json
