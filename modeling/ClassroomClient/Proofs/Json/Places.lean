/-
# Places in a value

A place is a value with a gap in it, at any depth in its arrays and objects. Whatever is put into
the gap, the text around it stays the same, in what is read and in what is written. In an object the
member with the gap must be the last of its name, since an earlier one would be replaced.
-/

import ClassroomClient.Proofs.Json.Value

namespace ClassroomClient.Json

/-! ## Gaps in lists -/

/-- Texts with commas between them hold each text in the same surroundings, whatever it is. -/
theorem exists_continued_append (first : Bool) (front back : List (List Char)) :
    ∃ before after, ∀ text,
      continued first (front ++ text :: back) = before ++ (text ++ after) := by
  induction front generalizing first with
  | nil =>
      exact ⟨if first then [] else [','], continued false back, fun text => continued_cons _ _ _⟩
  | cons other front ih =>
      obtain ⟨before, after, htext⟩ := ih false
      refine ⟨(if first then [] else [',']) ++ (other ++ before), after, fun text => ?_⟩
      rw [List.cons_append, continued_cons, htext]
      simp only [List.append_assoc]

section Entries

variable {α : Type}

/-- A value is put among the same entries, whatever it is. -/
theorem exists_insert (key : String) (kept : List (String × α)) :
    ∃ lower upper, ∀ value, Entries.insert key value kept = lower ++ (key, value) :: upper := by
  induction kept with
  | nil => exact ⟨[], [], fun value => rfl⟩
  | cons entry kept ih =>
      obtain ⟨other, held⟩ := entry
      by_cases hless : key < other
      · exact ⟨[], (other, held) :: kept, fun value => if_pos hless⟩
      · by_cases hsame : key = other
        · refine ⟨[], kept, fun value => ?_⟩
          rw [Entries.insert, if_neg hless, if_pos hsame, List.nil_append]
        · obtain ⟨lower, upper, hinsert⟩ := ih
          refine ⟨(other, held) :: lower, upper, fun value => ?_⟩
          rw [Entries.insert, if_neg hless, if_neg hsame, hinsert, List.cons_append]

/-- A value under another name leaves an entry where it is. -/
theorem exists_insert_append {key name : String} (hname : name ≠ key) (other : α)
    (lower upper : List (String × α)) :
    ∃ lower' upper', ∀ value, Entries.insert name other (lower ++ (key, value) :: upper) =
      lower' ++ (key, value) :: upper' := by
  induction lower with
  | nil =>
      by_cases hless : name < key
      · exact ⟨[(name, other)], upper, fun value => if_pos hless⟩
      · refine ⟨[], Entries.insert name other upper, fun value => ?_⟩
        rw [List.nil_append, Entries.insert, if_neg hless, if_neg hname, List.nil_append]
  | cons entry lower ih =>
      obtain ⟨held, kept⟩ := entry
      by_cases hless : name < held
      · exact ⟨(name, other) :: (held, kept) :: lower, upper, fun value => if_pos hless⟩
      · by_cases hsame : name = held
        · refine ⟨(name, other) :: lower, upper, fun value => ?_⟩
          rw [List.cons_append, Entries.insert, if_neg hless, if_pos hsame, List.cons_append]
        · obtain ⟨lower', upper', hinsert⟩ := ih
          refine ⟨(held, kept) :: lower', upper', fun value => ?_⟩
          rw [List.cons_append, Entries.insert, if_neg hless, if_neg hsame, hinsert,
            List.cons_append]

end Entries

/-- The last member of a name is kept among the same members, whatever its value is. -/
theorem exists_ofMembers {key : String} (front : List (String × Value))
    {back : List (String × Value)} (hlast : ∀ member ∈ back, member.1 ≠ key) :
    ∃ lower upper, ∀ value,
      ofMembers (front ++ (key, value) :: back) = lower ++ (key, value) :: upper := by
  have hfold (lower upper : List (String × Value)) : ∃ lower' upper', ∀ value,
      back.foldl (fun kept entry => Entries.insert entry.1 entry.2 kept)
        (lower ++ (key, value) :: upper) = lower' ++ (key, value) :: upper' := by
    induction back generalizing lower upper with
    | nil => exact ⟨lower, upper, fun value => rfl⟩
    | cons member back ih =>
        obtain ⟨lower', upper', hinsert⟩ :=
          exists_insert_append (hlast member List.mem_cons_self) member.2 lower upper
        obtain ⟨lower'', upper'', hrest⟩ :=
          ih (fun other hmem => hlast other (List.mem_cons_of_mem _ hmem)) lower' upper'
        refine ⟨lower'', upper'', fun value => ?_⟩
        rw [List.foldl_cons, hinsert, hrest]
  obtain ⟨lower, upper, hinsert⟩ := exists_insert key (ofMembers front)
  obtain ⟨lower', upper', hrest⟩ := hfold lower upper
  refine ⟨lower', upper', fun value => ?_⟩
  rw [← hrest value, ← hinsert value]
  exact List.foldl_append

/-! ## Gaps in values -/

/-- Another text with the same blanks around it. -/
def Padded.holding (padded : Padded) (inner : List Char) : Padded := { padded with inner }

/-- A member of the same name with another value. -/
def Member.holding (member : Member) (inner : List Char) : Member :=
  { member with value := member.value.holding inner }

/-- A value with a gap that is read at a depth: the gap alone, or an array or an object with the gap
in one of its items or members. All others are given with their spellings. -/
inductive Place : Nat → Type
  | here {depth : Nat} : Place depth
  | item {depth : Nat} (blanks : Blanks) (front : List (Padded × Value)) (around : Padded)
      (inner : Place (depth + 1)) (back : List (Padded × Value))
      (hfront : ∀ other ∈ front, Spells (depth + 1) other.1.inner other.2)
      (hback : ∀ other ∈ back, Spells (depth + 1) other.1.inner other.2) : Place (depth + 2)
  | member {depth : Nat} (blanks : Blanks) (front : List (Member × Value)) (around : Member)
      (inner : Place (depth + 1)) (back : List (Member × Value))
      (hfront : ∀ other ∈ front, Spells (depth + 1) other.1.value.inner other.2)
      (hback : ∀ other ∈ back, Spells (depth + 1) other.1.value.inner other.2)
      (hlast : ∀ other ∈ back, other.1.key ≠ around.key) : Place (depth + 2)

namespace Place

/-- The text with the gap filled. -/
def text {depth : Nat} (place : Place depth) (filling : List Char) : List Char :=
  match place with
  | here => filling
  | item blanks front around inner back _ _ =>
      spelledArray blanks
        (front.map (·.1) ++ around.holding (inner.text filling) :: back.map (·.1))
  | member blanks front around inner back _ _ _ =>
      spelledObject blanks ((front.map (·.1) ++
        around.holding (inner.text filling) :: back.map (·.1)).map (·.toMemberText))

/-- The value with the gap filled. -/
def value {depth : Nat} (place : Place depth) (filling : Value) : Value :=
  match place with
  | here => filling
  | item _ front _ inner back _ _ =>
      .array (front.map (·.2) ++ inner.value filling :: back.map (·.2))
  | member _ front around inner back _ _ _ =>
      .object (ofMembers (front.map (fun other => (other.1.key, other.2)) ++
        (around.key, inner.value filling) :: back.map fun other => (other.1.key, other.2)))

variable {depth : Nat}

/-- What spells a value at every depth may fill any gap. -/
theorem spells (place : Place depth) {filling : List Char} {value : Value}
    (hspells : ∀ depth, Spells depth filling value) :
    Spells depth (place.text filling) (place.value value) := by
  induction place with
  | here => exact hspells _
  | item blanks front around inner back hfront hback ih =>
      have hitems := List.forall_mem_append.2 ⟨hfront, List.forall_mem_cons.2
        ⟨(show Spells _ (around.holding (inner.text filling), inner.value value).1.inner _ from ih),
          hback⟩⟩
      have harray := Spells.array blanks hitems
      simpa [Place.text, Place.value] using harray
  | member blanks front around inner back hfront hback hlast ih =>
      have hmembers := List.forall_mem_append.2 ⟨hfront, List.forall_mem_cons.2
        ⟨(show Spells _ (around.holding (inner.text filling), inner.value value).1.value.inner _
          from ih), hback⟩⟩
      have hobject := Spells.object blanks hmembers
      simpa [Place.text, Place.value, Function.comp_def, Member.holding] using hobject

/-- What is written of the value holds the text of the filling in the same surroundings, whatever it
is. -/
theorem exists_text_value (place : Place depth) :
    ∃ before after, ∀ filling, (place.value filling).text = before ++ (filling.text ++ after) := by
  induction place with
  | here => exact ⟨[], [], fun filling => by simp [Place.value]⟩
  | item blanks front around inner back hfront hback ih =>
      obtain ⟨before, after, hinner⟩ := ih
      obtain ⟨left, right, hcommas⟩ := exists_continued_append true
        (front.map fun other => other.2.text) (back.map fun other => other.2.text)
      refine ⟨'[' :: (left ++ before), after ++ (right ++ [']']), fun filling => ?_⟩
      rw [Place.value, Value.text, itemTexts_eq, arrayText, ← continued_true, List.map_append,
        List.map_cons, List.map_map, List.map_map]
      simp [Function.comp_def, hcommas, hinner]
  | member blanks front around inner back hfront hback hlast ih =>
      obtain ⟨before, after, hinner⟩ := ih
      obtain ⟨lower, upper, hmembers⟩ := exists_ofMembers
        (front.map fun other => (other.1.key, other.2))
        (List.forall_mem_map.2 hlast : ∀ member ∈ back.map fun other => (other.1.key, other.2),
          member.1 ≠ around.key)
      obtain ⟨left, right, hcommas⟩ := exists_continued_append true
        (lower.map fun member => memberText member.1 member.2.text)
        (upper.map fun member => memberText member.1 member.2.text)
      refine ⟨'\x7b' :: (left ++ (stringText around.key ++ ':' :: before)),
        after ++ (right ++ ['\x7d']), fun filling => ?_⟩
      rw [Place.value, hmembers, Value.text, memberTexts_eq, objectText, ← continued_true,
        List.map_append, List.map_cons, hcommas]
      simp [hinner, memberText]

end Place

end ClassroomClient.Json
