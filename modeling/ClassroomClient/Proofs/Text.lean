/-
# Written texts read back

The readers of `Text` undo its printers. A number that fits into a size is read back from its
decimal digits, also after trimming, and a cut at the UTF-8 length of a front gives that front.
The byte length used for cuts is the one of the core library.
-/

import ClassroomClient.Text.Blank
import ClassroomClient.Text.Decimal
import ClassroomClient.Text.Utf8
import Mathlib.Algebra.Group.Nat.Defs
import Mathlib.Data.List.Basic

namespace ClassroomClient

/-- What is read in two parts has been read in both. -/
theorem exists_of_bind {ε α β : Type} {first : Except ε α} {next : α → Except ε β} {result : β}
    (hread : (first >>= next) = .ok result) :
    ∃ value, first = .ok value ∧ next value = .ok result := by
  cases first with
  | error error => cases hread
  | ok value => exact ⟨value, rfl, hread⟩

namespace Text

/-! ## Byte lengths -/

/-- The bytes of a text are those that the core library counts. -/
theorem utf8Length_toList (text : String) : utf8Length text.toList = text.utf8ByteSize := by
  have ofList (chars : List Char) :
      utf8Length chars = (String.ofList chars).utf8ByteSize := by
    induction chars with
    | nil => rfl
    | cons c rest ih =>
        rw [utf8Length_cons, ih, String.ofList_cons, String.utf8ByteSize_append,
          String.utf8ByteSize_singleton]
  rw [ofList, String.ofList_toList]

theorem utf8Length_le_of_suffix {chars back : List Char} (hsuffix : back <:+ chars) :
    utf8Length back ≤ utf8Length chars := by
  obtain ⟨front, rfl⟩ := hsuffix
  rw [utf8Length_append]
  exact Nat.le_add_left _ _

theorem utf8Length_le_of_front {chars front : List Char} (hfront : front <+: chars) :
    utf8Length front ≤ utf8Length chars := by
  obtain ⟨back, rfl⟩ := hfront
  rw [utf8Length_append]
  exact Nat.le_add_right _ _

/-- A cut gives a front of the text that takes the bytes that were asked for. -/
theorem takeUtf8?_eq_some {size : Nat} {chars front : List Char}
    (hcut : takeUtf8? size chars = some front) : front <+: chars ∧ utf8Length front = size := by
  fun_induction takeUtf8? size chars generalizing front with
  | case1 chars =>
      cases hcut
      exact ⟨List.nil_prefix, rfl⟩
  | case2 => cases hcut
  | case3 size c rest hfits ih =>
      obtain ⟨tail, htail, rfl⟩ := Option.map_eq_some_iff.1 hcut
      obtain ⟨hfront, hlength⟩ := ih htail
      refine ⟨List.prefix_cons_inj c |>.2 hfront, ?_⟩
      rw [utf8Length_cons, hlength]
      omega
  | case4 => cases hcut

/-! ## Trimming -/

/-- Dropping at the end leaves a front of the text. -/
theorem dropTrailing_front (p : Char → Bool) (chars : List Char) :
    dropTrailing p chars <+: chars := by
  induction chars with
  | nil => exact List.nil_prefix
  | cons c rest ih =>
      rw [dropTrailing]
      split
      · split
        · exact List.nil_prefix
        · exact List.prefix_cons_inj c |>.2 List.nil_prefix
      · exact List.prefix_cons_inj c |>.2 ih

/-- What is left does not end in a dropped character. -/
theorem eq_false_of_getLast?_dropTrailing {p : Char → Bool} {chars : List Char} {last : Char}
    (hlast : (dropTrailing p chars).getLast? = some last) : p last = false := by
  induction chars with
  | nil => cases hlast
  | cons c rest ih =>
      rw [dropTrailing] at hlast
      split at hlast
      · split at hlast
        · cases hlast
        · next hkept =>
          cases hlast
          exact Bool.eq_false_iff.2 hkept
      · next hmore =>
        rw [List.getLast?_cons] at hlast
        cases hkept : (dropTrailing p rest).getLast? with
        | none => exact absurd (List.getLast?_eq_none_iff.1 hkept) hmore
        | some other =>
            apply ih
            rw [hkept]
            simpa [hkept] using hlast

/-- A list that does not end in a dropped character stays as it is. -/
theorem dropTrailing_eq_self {p : Char → Bool} {chars : List Char}
    (hlast : ∀ c, chars.getLast? = some c → p c = false) : dropTrailing p chars = chars := by
  induction chars with
  | nil => rfl
  | cons c rest ih =>
      cases rest with
      | nil => simp [dropTrailing, hlast c rfl]
      | cons next others =>
          have hrest : dropTrailing p (next :: others) = next :: others := by
            apply ih
            intro last hmem
            apply hlast
            rw [List.getLast?_cons_cons]
            exact hmem
          rw [dropTrailing, hrest]

/-- All is dropped of a list that holds nothing else. -/
theorem dropTrailing_eq_nil {p : Char → Bool} {chars : List Char} :
    dropTrailing p chars = [] ↔ chars.all p = true := by
  induction chars with
  | nil => simp [dropTrailing]
  | cons c rest ih =>
      rw [dropTrailing, List.all_cons, Bool.and_eq_true, ← ih]
      split
      · next hnone => simp [hnone]
      · next hsome => simpa using fun _ => hsome

/-- What is dropped may stand at the end of a list. -/
theorem dropTrailing_append {p : Char → Bool} {tail : List Char} (htail : tail.all p = true)
    (chars : List Char) : dropTrailing p (chars ++ tail) = dropTrailing p chars := by
  induction chars with
  | nil => rw [List.nil_append, dropTrailing_eq_nil.2 htail, dropTrailing]
  | cons c rest ih => rw [List.cons_append, dropTrailing, dropTrailing, ih]

/-- A text without blanks has nothing to trim. -/
theorem trim_eq_self {chars : List Char} (hplain : ∀ c ∈ chars, isBlank c = false) :
    trim chars = chars := by
  have hfront : chars.dropWhile isBlank = chars := by
    cases chars with
    | nil => rfl
    | cons c rest => rw [List.dropWhile_cons_of_neg (by simp [hplain c])]
  rw [trim, hfront]
  apply dropTrailing_eq_self
  intro c hlast
  exact hplain c (List.mem_of_getLast? hlast)

/-! ## Sizes -/

theorem maxSize_eq : maxSize = 2 ^ 64 - 1 := rfl

theorem isBlank_eq_false_of_isDigit {c : Char} (hdigit : c.isDigit = true) :
    isBlank c = false := by
  have hrange : 48 ≤ c.toNat ∧ c.toNat ≤ 57 := Char.isDigit_iff_toNat.1 hdigit
  rw [Bool.eq_false_iff]
  intro hblank
  simp only [isBlank, Bool.or_eq_true, Bool.and_eq_true, decide_eq_true_eq,
    beq_iff_eq] at hblank
  omega

theorem isDigit_of_mem_decimal {n : Nat} {c : Char} (h : c ∈ decimal n) : c.isDigit = true :=
  Nat.isDigit_of_mem_toDigits (by decide) (by decide) h

/-- The digits of a number begin with zero for zero alone. -/
theorem head?_decimal_ne {n : Nat} (hpositive : 0 < n) : (decimal n).head? ≠ some '0' := by
  have hdigit : ∀ m < 10, 0 < m → Nat.digitChar m ≠ '0' := by decide
  induction n using Nat.strongRecOn with
  | ind n ih =>
      by_cases hsmall : n < 10
      · rw [decimal, Nat.toDigits_of_lt_base hsmall]
        simpa using hdigit n hsmall hpositive
      · have hfront := ih (n / 10) (by omega) (by omega)
        rw [decimal, Nat.toDigits_of_base_le (by decide) (by omega),
          List.head?_append_of_ne_nil _ Nat.toDigits_ne_nil]
        exact hfront

@[simp] theorem trim_decimal (n : Nat) : trim (decimal n) = decimal n :=
  trim_eq_self fun _ hmem => isBlank_eq_false_of_isDigit (isDigit_of_mem_decimal hmem)

@[simp] theorem readDecimal?_decimal (n : Nat) : readDecimal? (decimal n) = some n := by
  have hdigits : (decimal n).all Char.isDigit = true :=
    List.all_eq_true.2 fun _ hmem => isDigit_of_mem_decimal hmem
  have hsome : (decimal n).isEmpty = false := by
    simp [decimal, Nat.toDigits_ne_nil]
  rw [readDecimal?, hdigits, hsome]
  exact congrArg some Nat.ofDigitChars_ten_toDigits

theorem decimal_injective : Function.Injective decimal := by
  intro first second heq
  have hread : readDecimal? (decimal first) = readDecimal? (decimal second) := by rw [heq]
  simpa using hread

/-- A size is read back from its decimal digits. -/
theorem readSize?_decimal {n : Nat} (hfits : n ≤ maxSize) : readSize? (decimal n) = some n := by
  have hsign : ∀ rest, decimal n ≠ '+' :: rest := by
    intro rest heq
    have hplus : '+' ∈ decimal n := by simp [heq]
    exact absurd (isDigit_of_mem_decimal hplus) (by decide)
  have hread : (readDecimal? (decimal n)).filter (· ≤ maxSize) = some n := by
    simp [hfits]
  unfold readSize?
  split
  next rest heq => exact absurd heq (hsign rest)
  next => exact hread

end Text

end ClassroomClient
