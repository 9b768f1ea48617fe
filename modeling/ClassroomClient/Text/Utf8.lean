/-
# Lengths and cuts in UTF-8 bytes

Frame bodies and error positions count bytes, while text is handled as characters.
This module measures a list of characters in UTF-8 bytes and cuts it at a byte offset.
A cut that would fall inside a character does not exist.
-/

namespace ClassroomClient.Text

/-- The number of bytes that the characters take in UTF-8. -/
def utf8Length : List Char → Nat
  | [] => 0
  | c :: rest => c.utf8Size + utf8Length rest

/-- The leading characters that take exactly `size` bytes. There are none when the text is
too short or when the cut falls inside a character. -/
def takeUtf8? : Nat → List Char → Option (List Char)
  | 0, _ => some []
  | _ + 1, [] => none
  | size + 1, c :: rest =>
    if c.utf8Size ≤ size + 1 then
      (takeUtf8? (size + 1 - c.utf8Size) rest).map (c :: ·)
    else
      none

/-- The UTF-8 bytes of the characters, in order. -/
def utf8Bytes (chars : List Char) : List UInt8 :=
  chars.flatMap String.utf8EncodeChar

@[simp] theorem utf8Length_nil : utf8Length [] = 0 := rfl

@[simp] theorem utf8Length_cons (c : Char) (rest : List Char) :
    utf8Length (c :: rest) = c.utf8Size + utf8Length rest := rfl

@[simp] theorem utf8Length_append (front back : List Char) :
    utf8Length (front ++ back) = utf8Length front + utf8Length back := by
  induction front with
  | nil => simp
  | cons c rest ih => simp [ih, Nat.add_assoc]

/-- Cutting a text at the length of its front gives the front. -/
theorem takeUtf8?_utf8Length_append (front back : List Char) :
    takeUtf8? (utf8Length front) (front ++ back) = some front := by
  induction front with
  | nil => simp [takeUtf8?]
  | cons c rest ih =>
    have hpos := Char.utf8Size_pos c
    obtain ⟨size, hsize⟩ : ∃ size, utf8Length (c :: rest) = size + 1 :=
      ⟨utf8Length (c :: rest) - 1, by simp only [utf8Length_cons]; omega⟩
    have hrest : size + 1 - c.utf8Size = utf8Length rest := by
      simp only [utf8Length_cons] at hsize; omega
    have hle : c.utf8Size ≤ size + 1 := by
      simp only [utf8Length_cons] at hsize; omega
    rw [hsize, List.cons_append, takeUtf8?, if_pos hle, hrest, ih]
    rfl

end ClassroomClient.Text
