/-
# Values that settle what is read

A text of the grammar may still be refused: it may nest too deep, hold half a pair of surrogates or
a number beyond all bounds, or be a value of another kind than the reader wants. What stands behind
it never matters for that. A reader settles a text when it takes the whole of it wherever it accepts
it at all, and then accepts it with the same value in front of whatever may follow. Values of any
kind, strings, truth values and optional ones are settled by every text of the grammar.
-/

import ClassroomClient.Proofs.Json.Grammar

namespace ClassroomClient.Json

variable {α β : Type}

/-- Whether a reader that accepts a text somewhere takes all of it, and accepts it everywhere. -/
def Settles (read : Reader α) (text : List Char) : Prop :=
  ∀ rest value left, IsDelimited rest → read (text ++ rest) = .ok (value, left) →
    left = rest ∧ ∀ other, IsDelimited other → read (text ++ other) = .ok (value, other)

section Settles

variable {read : Reader α} {text : List Char}

theorem settles_of_ok {value : α}
    (hread : ∀ rest, IsDelimited rest → read (text ++ rest) = .ok (value, rest)) :
    Settles read text := by
  intro rest found left hrest hfound
  rw [hread rest hrest] at hfound
  cases hfound
  exact ⟨rfl, hread⟩

theorem Reads.settles {value : α} (hreads : Reads read text value) : Settles read text :=
  settles_of_ok hreads.takes

/-- What is accepted somewhere is read. -/
theorem Settles.reads (hsettles : Settles read text) (hopens : OpensValue text) {value : α}
    {rest left : List Char} (hrest : IsDelimited rest)
    (hread : read (text ++ rest) = .ok (value, left)) : left = rest ∧ Reads read text value :=
  let ⟨hleft, htakes⟩ := hsettles rest value left hrest hread
  ⟨hleft, hopens, htakes⟩

theorem settles_of_error (hread : ∀ rest, ∃ fault, read (text ++ rest) = .error fault) :
    Settles read text := by
  intro rest value left _ hok
  obtain ⟨fault, herror⟩ := hread rest
  rw [herror] at hok
  cases hok

/-- A reader that goes on as another one does settles what that one settles. -/
theorem Settles.congr {other : Reader α} {more : List Char} (hsettles : Settles other more)
    (heq : ∀ rest, IsDelimited rest → read (text ++ rest) = other (more ++ rest)) :
    Settles read text := by
  intro rest value left hrest hread
  rw [heq rest hrest] at hread
  obtain ⟨hleft, htakes⟩ := hsettles rest value left hrest hread
  exact ⟨hleft, fun after hafter => by rw [heq after hafter, htakes after hafter]⟩

/-- What is made of a value that is read does not matter. -/
theorem Settles.map (make : α → β) (hsettles : Settles read text) :
    Settles (fun text => (read text).map fun found => (make found.1, found.2)) text := by
  intro rest value left hrest hread
  dsimp only at hread
  cases hfound : read (text ++ rest) with
  | error fault =>
      rw [hfound] at hread
      cases hread
  | ok found =>
      rw [hfound] at hread
      cases hread
      obtain ⟨hleft, htakes⟩ := hsettles rest found.1 found.2 hrest hfound
      refine ⟨hleft, fun other hother => ?_⟩
      dsimp only
      rw [htakes other hother]
      rfl

/-- Blanks around a text change nothing. -/
theorem Settles.reads_padded {padded : Padded} (hsettles : Settles read padded.inner)
    (hopens : OpensValue padded.inner) (hskips : SkipsBlanks read) {value : α}
    {rest left : List Char} (hrest : IsDelimited rest)
    (hread : read (padded.text ++ rest) = .ok (value, left)) :
    left = padded.back.text ++ rest ∧ Reads read padded.inner value := by
  rw [Padded.text_append, hskips.blanks] at hread
  exact hsettles.reads hopens (isDelimited_blanks padded.back hrest) hread

end Settles

/-! ## Numerals -/

section Numerals

variable {negative : Bool} {significand : Nat} {exponent : Int}

theorem settles_finishReal : Settles (finishReal negative significand exponent) [] := by
  intro rest number left _ hread
  unfold finishReal at hread ⊢
  split at hread
  · next real hreal =>
    cases hread
    exact ⟨rfl, fun _ _ => rfl⟩
  · cases hread

/-- Where the digits of an exponent end, the number is closed. -/
theorem readExponentDigits_of_ends {upwards : Bool} {value : Nat} {rest : List Char}
    (hrest : EndsDigits rest) :
    readExponentDigits negative significand exponent upwards value rest =
      finishReal negative significand
        (clampExponent (if upwards then exponent + value else exponent - value)) rest := by
  cases rest with
  | nil => rfl
  | cons c more =>
      have hc : ¬ c.isDigit = true := by simp [hrest c rfl]
      rw [readExponentDigits, if_neg hc]

theorem settles_readExponentDigits {digits : List Char}
    (hdigits : ∀ c ∈ digits, c.isDigit = true) (upwards : Bool) (value : Nat) :
    Settles (readExponentDigits negative significand exponent upwards value) digits := by
  induction digits generalizing value with
  | nil =>
      exact settles_finishReal.congr fun rest hrest =>
        readExponentDigits_of_ends (isDigit_eq_false_of_isDelimited hrest)
  | cons c digits ih =>
      have hc := hdigits c List.mem_cons_self
      have hmore : ∀ c ∈ digits, c.isDigit = true := fun d hmem =>
        hdigits d (List.mem_cons_of_mem _ hmem)
      -- an exponent beyond 32 bits ends the reading at once, with an error or with a zero
      by_cases hlarge : maxExponent < value * 10 + (c.toNat - '0'.toNat)
      · by_cases hzero : (significand != 0 && upwards) = true
        · refine settles_of_error fun rest => ⟨.before .numberOutOfRange (digits ++ rest), ?_⟩
          rw [List.cons_append, readExponentDigits, if_pos hc, if_pos hlarge, if_pos hzero]
        · have hread (rest : List Char) (hrest : IsDelimited rest) :
              readExponentDigits negative significand exponent upwards value
                  (c :: digits ++ rest) =
                .ok (.real (if negative then -0.0 else 0.0), rest) := by
            have hdrop := (digits_of_ends hmore (isDigit_eq_false_of_isDelimited hrest)).2
            rw [List.cons_append, readExponentDigits, if_pos hc, if_pos hlarge, if_neg hzero, hdrop]
          exact settles_of_ok hread
      · have hread (rest : List Char) : readExponentDigits negative significand exponent upwards
            value (c :: digits ++ rest) = readExponentDigits negative significand exponent upwards
              (value * 10 + (c.toNat - '0'.toNat)) (digits ++ rest) := by
          rw [List.cons_append, readExponentDigits, if_pos hc, if_neg hlarge]
        exact (ih hmore _).congr fun rest _ => hread rest

/-- The sign of an exponent, if there is one, decides which way it counts. -/
theorem readExponent_digits {sign digits : List Char}
    (hsign : sign = [] ∨ sign = ['+'] ∨ sign = ['-']) (hdigits : IsDigits digits)
    (rest : List Char) :
    readExponent negative significand exponent (sign ++ (digits ++ rest)) =
      readExponentDigits negative significand exponent (sign != ['-']) 0 (digits ++ rest) := by
  obtain ⟨first, more, rfl, hfirst⟩ := hdigits.exists_cons
  rcases hsign with rfl | rfl | rfl
  · rw [List.nil_append, List.cons_append,
      readExponent_of_unsigned (ne_of_isDigit hfirst (by decide))
        (ne_of_isDigit hfirst (by decide)), readSignedExponent, if_pos hfirst]
    rfl
  · exact if_pos hfirst
  · exact if_pos hfirst

theorem settles_readExponent {sign digits : List Char}
    (hsign : sign = [] ∨ sign = ['+'] ∨ sign = ['-']) (hdigits : IsDigits digits) :
    Settles (readExponent negative significand exponent) (sign ++ digits) :=
  (settles_readExponentDigits hdigits.all_digits (sign != ['-']) 0).congr fun rest _ => by
    rw [List.append_assoc, readExponent_digits hsign hdigits]

/-- What may follow a value begins with none of the characters of a numeral. -/
theorem head?_ne_of_isDelimited {rest : List Char} (hrest : IsDelimited rest) {c : Char}
    (hc : ¬ (isSpace c = true ∨ c = ',' ∨ c = ']' ∨ c = '\x7d')) : rest.head? ≠ some c :=
  fun hhead => hc (hrest c hhead)

theorem settles_readRealTail {text : List Char} (htext : IsExponent text) :
    Settles (readRealTail negative significand exponent) text := by
  cases htext with
  | none =>
      exact settles_finishReal.congr fun rest hrest =>
        readRealTail_of_ne (head?_ne_of_isDelimited hrest (by decide))
          (head?_ne_of_isDelimited hrest (by decide))
  | digits hletter hsign hdigits =>
      have hexponent := @settles_readExponent negative significand exponent _ _ hsign hdigits
      refine hexponent.congr fun rest _ => ?_
      rcases hletter with rfl | rfl <;> rfl

theorem settles_readFraction {digits text : List Char} (hdigits : IsDigits digits)
    (htext : IsExponent text) :
    Settles (readFraction negative significand exponent) (digits ++ text) := by
  obtain ⟨first, more, hcons, -⟩ := hdigits.exists_cons
  have hsome : ¬ digits.isEmpty = true := by simp [hcons]
  have hread (rest : List Char) (hrest : IsDelimited rest) :
      readFraction negative significand exponent (digits ++ text ++ rest) =
        readRealTail negative (takeSignificand significand digits).1
          (exponent - (digits.length - (takeSignificand significand digits).2.length))
          (text ++ rest) := by
    obtain ⟨htake, hdrop⟩ := digits_of_ends hdigits.all_digits (endsDigits_exponent htext hrest)
    rw [List.append_assoc, readFraction]
    simp only [htake, hdrop]
    rw [if_neg hsome]
  exact (settles_readRealTail htext).congr hread

theorem settles_readNumberTail {fraction text : List Char} (hfraction : IsFraction fraction)
    (htext : IsExponent text) (left : List Char) :
    Settles (readNumberTail negative significand left) (fraction ++ text) := by
  cases hfraction with
  | none =>
      cases htext with
      | none =>
          have hread (rest : List Char) (hrest : IsDelimited rest) :=
            @readNumberTail_of_ne negative significand rest
              (head?_ne_of_isDelimited hrest (by decide))
              (head?_ne_of_isDelimited hrest (by decide))
              (head?_ne_of_isDelimited hrest (by decide)) left
          by_cases hall : left.isEmpty = true
          · simp only [if_pos hall] at hread
            exact settles_of_ok hread
          · simp only [if_neg hall] at hread
            exact settles_finishReal.congr hread
      | digits hletter hsign hdigits =>
          have hexponent := @settles_readExponent negative significand left.length _ _ hsign hdigits
          refine hexponent.congr fun rest _ => ?_
          rcases hletter with rfl | rfl <;> rfl
  | digits hdigits =>
      have hdigits := @settles_readFraction negative significand left.length _ _ hdigits htext
      exact hdigits.congr fun rest _ => rfl

theorem IsWhole.isDigits {whole : List Char} (hwhole : IsWhole whole) : IsDigits whole := by
  cases hwhole with
  | zero => exact ⟨by decide, List.all_eq_true.1 (by decide)⟩
  | digits _ hdigits => exact hdigits

theorem IsNumeral.settles {digits : List Char} (hnumeral : IsNumeral digits) :
    Settles (readNumber negative) digits := by
  obtain ⟨hwhole, hfraction, htext⟩ := hnumeral
  rename_i whole fraction text
  obtain ⟨first, more, hcons, -⟩ := hwhole.isDigits.exists_cons
  have hleading : ¬ (first == '0' && decide (1 < whole.length)) = true := by
    cases hwhole with
    | zero => simp
    | digits hfirst =>
        obtain ⟨rfl, -⟩ := List.cons.inj hcons
        simp [hfirst]
  have htail := @settles_readNumberTail negative (takeSignificand 0 whole).1 _ _ hfraction htext
    (takeSignificand 0 whole).2
  refine htail.congr fun rest hrest => ?_
  obtain ⟨htake, hdrop⟩ := digits_of_ends hwhole.isDigits.all_digits
    (endsDigits_fraction hfraction (endsDigits_exponent htext hrest))
  have hsome : ¬ whole.isEmpty = true := by simp [hcons]
  simp only [List.append_assoc]
  unfold readNumber
  split
  · next hnil => simp [hcons] at hnil
  · next head tail heq =>
    rw [hcons, List.cons_append] at heq
    obtain ⟨rfl, -⟩ := List.cons.inj heq
    simp only [htake, hdrop]
    rw [if_neg hsome, if_neg hleading]
    rfl

end Numerals

/-! ## Strings -/

/-- The second unit of a pair is read only where it is escaped. -/
theorem exists_of_readTrailingUnit {text rest left : List Char} (hchars : IsChars text)
    {leading : Nat} {c : Char}
    (hread : readTrailingUnit leading (text ++ '"' :: rest) = .ok (c, left)) :
    ∃ digits trailing more, text = '\\' :: 'u' :: (digits ++ more) ∧ HexUnit digits trailing ∧
      isTrailingUnit trailing = true ∧ IsChars more ∧
      c = Char.ofNat ((leading - 0xD800) * 0x400 + (trailing - 0xDC00) + 0x10000) ∧
      left = more ++ '"' :: rest := by
  cases hchars with
  | nil => cases hread
  | plain _ hbackslash =>
      rw [List.cons_append, readTrailingUnit] at hread
      · cases hread
      · exact List.cons_ne_nil _ _
      · exact fun heq => hbackslash (List.cons.inj heq).1
      · exact fun _ heq => hbackslash (List.cons.inj heq).1
      · exact fun _ heq => hbackslash (List.cons.inj heq).1
  | letter hletter =>
      rw [List.cons_append, List.cons_append, readTrailingUnit] at hread
      · cases hread
      · exact List.cons_ne_nil _ _
      · rintro digits heq
        obtain ⟨rfl, -⟩ := List.cons.inj heq
        cases hletter
  | @unit digits trailing more hdigits hmore =>
      rw [List.cons_append, List.cons_append, List.append_assoc, readTrailingUnit] at hread
      simp only [bind, Except.bind, hdigits.read] at hread
      split at hread
      · next htrailing =>
        obtain ⟨hc, hleft⟩ := Prod.mk.inj (Except.ok.inj hread)
        exact ⟨digits, trailing, more, rfl, hdigits, htrailing, hmore, hc.symm, hleft.symm⟩
      · cases hread

/-- What is read of an escaped unit, or of a pair of them, is what they spell. -/
theorem HexUnit.exists_of_readEscape {digits text rest left : List Char} {unit : Nat} {c : Char}
    (hdigits : HexUnit digits unit) (hchars : IsChars text)
    (hread : readEscape ('u' :: (digits ++ (text ++ '"' :: rest))) = .ok (c, left)) :
    ∃ more, IsChars more ∧ left = more ++ '"' :: rest ∧
      ∀ chars, SpellsChars more chars →
        SpellsChars ('\\' :: 'u' :: (digits ++ text)) (c :: chars) := by
  have hletter : simpleEscape? 'u' = none := by decide
  by_cases htrailing : isTrailingUnit unit = true
  · rw [readEscape, hletter] at hread
    simp [hdigits.read, bind, Except.bind, htrailing] at hread
  · by_cases hleading : isLeadingUnit unit = true
    · rw [readEscape, hletter] at hread
      simp only [beq_self_eq_true, if_true, hdigits.read, bind, Except.bind, htrailing,
        hleading] at hread
      obtain ⟨second, trailing, more, rfl, hsecond, hpair, hmore, hc, hleft⟩ :=
        exists_of_readTrailingUnit hchars hread
      refine ⟨more, hmore, hleft, fun chars hspells => ?_⟩
      rw [hc]
      exact .pair hdigits hsecond hleading hpair hspells
    · have hfirst : isLeadingUnit unit = false := by simpa using hleading
      have hsecond : isTrailingUnit unit = false := by simpa using htrailing
      rw [hdigits.readEscape_alone hfirst hsecond] at hread
      cases hread
      exact ⟨text, hchars, rfl, fun chars hspells => .unit hdigits hfirst hsecond hspells⟩

/-- What is read of a string is what its text spells. -/
theorem IsChars.spells {text : List Char} (hchars : IsChars text) {fuel : Nat}
    {chars rest left : List Char}
    (hread : readChars fuel (text ++ '"' :: rest) = .ok (chars, left)) :
    SpellsChars text chars := by
  -- the units of a pair are two parts of the text but one step of the reader, hence the fuel
  induction fuel generalizing text chars with
  | zero => cases hread
  | succ fuel ih =>
      cases hchars with
      | nil =>
          cases hread
          exact .nil
      | plain hquote hbackslash hcontrol hmore =>
          rw [List.cons_append, readChars] at hread
          · rw [if_neg hcontrol] at hread
            obtain ⟨⟨others, left⟩, hothers, hread⟩ := exists_of_bind hread
            cases hread
            exact .plain hquote hbackslash hcontrol (ih hmore hothers)
          · exact hquote
          · exact hbackslash
      | letter hletter hmore =>
          obtain ⟨c, hc⟩ := Option.isSome_iff_exists.1 hletter
          rw [List.cons_append, List.cons_append] at hread
          obtain ⟨⟨d, after⟩, hescape, hread⟩ := exists_of_bind hread
          rw [readEscape_of_letter hc] at hescape
          cases hescape
          obtain ⟨⟨others, left⟩, hothers, hread⟩ := exists_of_bind hread
          cases hread
          exact .letter hc (ih hmore hothers)
      | unit hdigits hmore =>
          rw [List.cons_append, List.cons_append, List.append_assoc] at hread
          obtain ⟨⟨c, after⟩, hescape, hread⟩ := exists_of_bind hread
          obtain ⟨⟨others, left⟩, hothers, hread⟩ := exists_of_bind hread
          cases hread
          obtain ⟨more, hbehind, rfl, hspells⟩ := hdigits.exists_of_readEscape hmore hescape
          exact hspells others (ih hbehind hothers)

theorem IsChars.settles {text : List Char} (hchars : IsChars text) :
    Settles readString (text ++ ['"']) := by
  intro rest value left _ hread
  rw [List.append_assoc, List.singleton_append] at hread
  obtain ⟨⟨chars, after⟩, hfound, hmake⟩ := exists_of_bind hread
  have hspells : SpellsChars text value.toList := by
    cases hmake
    simpa using hchars.spells hfound
  rw [hspells.readString rest] at hread
  cases hread
  refine ⟨rfl, fun other _ => ?_⟩
  rw [List.append_assoc, List.singleton_append, hspells.readString other]

/-! ## Containers -/

section Containers

variable {readItem : Reader α}

/-- The items of an array that is accepted are all read. -/
theorem exists_of_readItems {items : List Padded}
    (hopens : ∀ item ∈ items, OpensValue item.inner)
    (hsettles : ∀ item ∈ items, Settles readItem item.inner) {fuel : Nat} {first : Bool}
    {blanks : Blanks} {rest left : List Char} {values : List α}
    (hread : readItems readItem fuel first
      (blanks.text ++ (continued first (items.map Padded.text) ++ ']' :: rest)) =
        .ok (values, left)) :
    ∃ found : List (Padded × α), found.map (·.1) = items ∧
      ∀ item ∈ found, Reads readItem item.1.inner item.2 := by
  induction items generalizing fuel first blanks values left with
  | nil => exact ⟨[], rfl, by simp⟩
  | cons item items ih =>
      cases fuel with
      | zero => cases hread
      | succ fuel =>
          rw [List.map_cons, readItems_item (hopens item List.mem_cons_self)] at hread
          obtain ⟨⟨value, after⟩, hitem, hread⟩ := exists_of_bind hread
          obtain ⟨⟨others, last⟩, hothers, -⟩ := exists_of_bind hread
          obtain ⟨rfl, hreads⟩ := (hsettles item List.mem_cons_self).reads
            (hopens item List.mem_cons_self)
            (isDelimited_blanks item.back (isDelimited_continued _ (.inl rfl) rest)) hitem
          obtain ⟨found, rfl, hfound⟩ := ih
            (fun other hmem => hopens other (List.mem_cons_of_mem _ hmem))
            (fun other hmem => hsettles other (List.mem_cons_of_mem _ hmem)) hothers
          exact ⟨(item, value) :: found, rfl, List.forall_mem_cons.2 ⟨hreads, hfound⟩⟩

theorem settles_readArray {items : List Padded} (hopens : ∀ item ∈ items, OpensValue item.inner)
    (hsettles : ∀ item ∈ items, Settles readItem item.inner) (blanks : Blanks) :
    Settles (readArray readItem) (spelledArray blanks items).tail := by
  intro rest values left _ hread
  have htext : (spelledArray blanks items).tail ++ rest =
      blanks.text ++ (continued true (items.map Padded.text) ++ ']' :: rest) := by
    simp [spelledArray, continued_true]
  obtain ⟨found, rfl, hfound⟩ : ∃ found : List (Padded × α), found.map (·.1) = items ∧
      ∀ item ∈ found, Reads readItem item.1.inner item.2 := by
    rw [htext] at hread
    obtain ⟨_, hitems, -⟩ := exists_of_bind hread
    exact exists_of_readItems hopens hsettles hitems
  rw [readArray_spelled hfound blanks rest] at hread
  cases hread
  exact ⟨rfl, fun other _ => readArray_spelled hfound blanks other⟩

/-- The members of an object that is accepted are all read, and their names are spelled right. -/
theorem exists_of_readMembers {members : List MemberText}
    (hnames : ∀ member ∈ members, IsChars member.name)
    (hopens : ∀ member ∈ members, OpensValue member.value.inner)
    (hsettles : ∀ member ∈ members, Settles readItem member.value.inner)
    (hskips : SkipsBlanks readItem) {fuel : Nat} {first : Bool} {blanks : Blanks}
    {rest left : List Char} {values : List (String × α)}
    (hread : readMembers readItem fuel first
      (blanks.text ++ (continued first (members.map MemberText.text) ++ '\x7d' :: rest)) =
        .ok (values, left)) :
    ∃ found : List (Member × α), found.map (·.1.toMemberText) = members ∧
      ∀ member ∈ found, Reads readItem member.1.value.inner member.2 := by
  induction members generalizing fuel first blanks values left with
  | nil => exact ⟨[], rfl, by simp⟩
  | cons member members ih =>
      cases fuel with
      | zero => cases hread
      | succ fuel =>
          rw [List.map_cons, readMembers, nextMember_blanks, nextMember_continued] at hread
          obtain ⟨_, hmore, hread⟩ := exists_of_bind hread
          cases hmore
          simp only [if_true] at hread
          obtain ⟨⟨key, afterName⟩, hname, hread⟩ := exists_of_bind hread
          have hkey : SpellsChars member.name key.toList := by
            obtain ⟨⟨chars, _⟩, hchars, hmake⟩ := exists_of_bind hname
            cases hmake
            simpa using (hnames member List.mem_cons_self).spells hchars
          rw [readName_of_spells hkey] at hname
          cases hname
          obtain ⟨afterColon, hcolon, hread⟩ := exists_of_bind hread
          rw [readColon_blanks] at hcolon
          cases hcolon
          obtain ⟨⟨value, after⟩, hvalue, hread⟩ := exists_of_bind hread
          obtain ⟨⟨others, last⟩, hothers, -⟩ := exists_of_bind hread
          obtain ⟨rfl, hreads⟩ := (hsettles member List.mem_cons_self).reads_padded
            (hopens member List.mem_cons_self) hskips
            (isDelimited_continued _ (.inr rfl) rest) hvalue
          obtain ⟨found, rfl, hfound⟩ := ih
            (fun other hmem => hnames other (List.mem_cons_of_mem _ hmem))
            (fun other hmem => hopens other (List.mem_cons_of_mem _ hmem))
            (fun other hmem => hsettles other (List.mem_cons_of_mem _ hmem)) hothers
          exact ⟨({ member with key, spells := hkey }, value) :: found, rfl,
            List.forall_mem_cons.2 ⟨hreads, hfound⟩⟩

theorem settles_readObject {members : List MemberText}
    (hnames : ∀ member ∈ members, IsChars member.name)
    (hopens : ∀ member ∈ members, OpensValue member.value.inner)
    (hsettles : ∀ member ∈ members, Settles readItem member.value.inner)
    (hskips : SkipsBlanks readItem) (blanks : Blanks) :
    Settles (readObject readItem) (spelledObject blanks members).tail := by
  intro rest values left _ hread
  have htext : (spelledObject blanks members).tail ++ rest =
      blanks.text ++ (continued true (members.map MemberText.text) ++ '\x7d' :: rest) := by
    simp [spelledObject, continued_true]
  obtain ⟨found, rfl, hfound⟩ : ∃ found : List (Member × α),
      found.map (·.1.toMemberText) = members ∧
        ∀ member ∈ found, Reads readItem member.1.value.inner member.2 := by
    rw [htext] at hread
    obtain ⟨_, hmembers, -⟩ := exists_of_bind hread
    exact exists_of_readMembers hnames hopens hsettles hskips hmembers
  rw [readObject_spelled hfound hskips blanks rest] at hread
  cases hread
  exact ⟨rfl, fun other _ => readObject_spelled hfound hskips blanks other⟩

end Containers

/-! ## Values -/

theorem IsValue.opens {text : List Char} (hvalue : IsValue text) : OpensValue text :=
  hvalue.exists_passesIn.1

/-- A container opens one level more than is left. -/
theorem exists_readValue_tooDeep {opening : Char} (hopening : opening = '[' ∨ opening = '\x7b')
    {depth : Nat} (hdepth : depth < 2) (rest : List Char) :
    ∃ fault, readValue depth (opening :: rest) = .error fault := by
  refine ⟨.within .tooDeep (opening :: rest), ?_⟩
  obtain rfl | rfl : depth = 0 ∨ depth = 1 := by omega
  all_goals
    rcases hopening with rfl | rfl <;> rfl

theorem readValue_array (depth : Nat) (rest : List Char) :
    readValue (depth + 2) ('[' :: rest) =
      (readArray (readValue (depth + 1)) rest).map fun found => (.array found.1, found.2) := by
  rw [readValue, skipSpace_cons rfl]
  simp only [beq_self_eq_true, if_true]
  cases readArray (readValue (depth + 1)) rest <;> rfl

theorem readValue_object (depth : Nat) (rest : List Char) :
    readValue (depth + 2) ('\x7b' :: rest) =
      (readObject (readValue (depth + 1)) rest).map
        fun found => (.object (ofMembers found.1), found.2) := by
  have hbrace : ('\x7b' == '[') = false := by decide
  rw [readValue, skipSpace_cons rfl]
  simp only [hbrace, Bool.false_eq_true, if_false, beq_self_eq_true, if_true]
  cases readObject (readValue (depth + 1)) rest <;> rfl

/-- Whether a value of any kind is accepted does not depend on what follows it. -/
theorem IsValue.settles_readValue {text : List Char} (hvalue : IsValue text) (depth : Nat) :
    Settles (readValue depth) text := by
  induction hvalue generalizing depth with
  | null => exact Spells.null.reads.settles
  | boolean value => exact (Spells.boolean value).reads.settles
  | numeral negative hdigits =>
      have hnumber := (@IsNumeral.settles negative _ hdigits).map Value.number
      cases negative with
      | true =>
          refine hnumber.congr fun rest _ => ?_
          rw [signed, if_pos rfl, List.cons_append, readValue_cons rfl (by decide) (by decide),
            readScalar]
          cases readNumber true _ <;> rfl
      | false =>
          obtain ⟨first, more, rfl, hfirst⟩ := hdigits.exists_cons
          refine hnumber.congr fun rest _ => ?_
          rw [signed, if_neg Bool.false_ne_true, List.cons_append,
            readValue_cons (isSpace_eq_false_of_isDigit hfirst) (ne_of_isDigit hfirst (by decide))
              (ne_of_isDigit hfirst (by decide)), readScalar_of_isDigit hfirst]
  | string hchars =>
      refine (hchars.settles.map Value.string).congr fun rest _ => ?_
      rw [List.cons_append, readValue_cons rfl (by decide) (by decide), readScalar]
      cases readString _ <;> rfl
  | array blanks hitems ih =>
      by_cases hdepth : depth < 2
      · exact settles_of_error fun rest => exists_readValue_tooDeep (.inl rfl) hdepth _
      · obtain ⟨depth, rfl⟩ : ∃ more, depth = more + 2 := ⟨depth - 2, by omega⟩
        have hitems := settles_readArray (fun item hmem => (hitems item hmem).opens)
          (fun item hmem => ih item hmem (depth + 1)) blanks
        exact (hitems.map Value.array).congr fun rest _ => readValue_array depth _
  | object blanks hnames hvalues ih =>
      by_cases hdepth : depth < 2
      · exact settles_of_error fun rest => exists_readValue_tooDeep (.inr rfl) hdepth _
      · obtain ⟨depth, rfl⟩ : ∃ more, depth = more + 2 := ⟨depth - 2, by omega⟩
        have hmembers := settles_readObject hnames
          (fun member hmem => (hvalues member hmem).opens)
          (fun member hmem => ih member hmem (depth + 1)) (skipsBlanks_readValue _) blanks
        exact (hmembers.map fun found => Value.object (ofMembers found)).congr fun rest _ =>
          readValue_object depth _

/-! ## Values of one kind -/

/-- The first character of a value tells its kind. -/
theorem IsValue.exists_cons {text : List Char} (hvalue : IsValue text) :
    ∃ c more, text = c :: more ∧ isSpace c = false ∧
      (c = '"' → ∃ chars, IsChars chars ∧ more = chars ++ ['"']) ∧
      (c = 'n' → more = ['u', 'l', 'l']) ∧ (c = 't' → more = ['r', 'u', 'e']) ∧
      (c = 'f' → more = ['a', 'l', 's', 'e']) := by
  cases hvalue with
  | null => exact ⟨'n', _, rfl, rfl, by simp⟩
  | boolean value =>
      cases value with
      | false => exact ⟨'f', _, rfl, rfl, by simp⟩
      | true => exact ⟨'t', _, rfl, rfl, by simp⟩
  | numeral negative hdigits =>
      cases negative with
      | true => exact ⟨'-', _, rfl, rfl, by simp⟩
      | false =>
          obtain ⟨first, more, rfl, hfirst⟩ := hdigits.exists_cons
          have hne (c : Char) (hc : c.isDigit = false) : first ≠ c := ne_of_isDigit hfirst hc
          exact ⟨first, more, rfl, isSpace_eq_false_of_isDigit hfirst, by
            simp [hne '"' (by decide), hne 'n' (by decide), hne 't' (by decide),
              hne 'f' (by decide)]⟩
  | string hchars => exact ⟨'"', _, rfl, rfl, fun _ => ⟨_, hchars, rfl⟩, by simp⟩
  | array => exact ⟨'[', _, rfl, rfl, by simp⟩
  | object => exact ⟨'\x7b', _, rfl, rfl, by simp⟩

theorem IsValue.settles_readText {text : List Char} (hvalue : IsValue text) :
    Settles readText text := by
  obtain ⟨c, more, rfl, hspace, hstring, -⟩ := hvalue.exists_cons
  by_cases hquote : c = '"'
  · subst hquote
    obtain ⟨chars, hchars, rfl⟩ := hstring rfl
    refine hchars.settles.congr fun rest _ => ?_
    rw [List.cons_append, readText, skipSpace_cons rfl]
    rfl
  · refine settles_of_error fun rest => ⟨wrongType "a string" (c :: (more ++ rest)), ?_⟩
    rw [List.cons_append, readText, skipSpace_cons hspace]
    split
    · next hnil => cases hnil
    · next heq => exact absurd (List.cons.inj heq).1 hquote
    · rfl

theorem IsValue.settles_readFlag {text : List Char} (hvalue : IsValue text) :
    Settles readFlag text := by
  obtain ⟨c, more, rfl, hspace, -, -, htrue, hfalse⟩ := hvalue.exists_cons
  by_cases ht : c = 't'
  · subst ht
    obtain rfl := htrue rfl
    exact @settles_of_ok _ _ _ true fun _ _ => rfl
  · by_cases hf : c = 'f'
    · subst hf
      obtain rfl := hfalse rfl
      exact @settles_of_ok _ _ _ false fun _ _ => rfl
    · refine settles_of_error fun rest => ⟨wrongType "a boolean" (c :: (more ++ rest)), ?_⟩
      rw [List.cons_append, readFlag, skipSpace_cons hspace]
      split
      · next hnil => cases hnil
      · next heq => exact absurd (List.cons.inj heq).1 ht
      · next heq => exact absurd (List.cons.inj heq).1 hf
      · rfl

/-- A value that may be `null` is settled as soon as the value itself is. -/
theorem IsValue.settles_readOptional {text : List Char} (hvalue : IsValue text) {read : Reader α}
    (hsettles : Settles read text) : Settles (readOptional read) text := by
  obtain ⟨c, more, rfl, hspace, -, hnull, -⟩ := hvalue.exists_cons
  by_cases hn : c = 'n'
  · subst hn
    obtain rfl := hnull rfl
    exact @settles_of_ok _ _ _ none fun _ _ => rfl
  · refine (hsettles.map some).congr fun rest _ => ?_
    rw [List.cons_append, readOptional, skipSpace_cons hspace]
    split
    · next heq => exact absurd (List.cons.inj heq).1 hn
    · cases read (c :: (more ++ rest)) <;> rfl

end ClassroomClient.Json
