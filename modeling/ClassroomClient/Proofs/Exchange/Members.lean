/-
# Notifications from the members of any object

What the server pushes is read leniently: feedback, compile results and stop notices may leave out
any of their fields, give them in any order, and carry members that nobody knows. The slots written
out here are the documented fields with the values that they take. Every body is decoded as they
tell.
-/

import ClassroomClient.Exchange.Record
import ClassroomClient.Proofs.Json.Members

namespace ClassroomClient.Exchange

open Json

/-! ## Kinds of fields -/

section Kinds

variable {σ : Type}

/-- A string, which is empty when it is left out. -/
def textSlot (name : String) (alias? : Option String) (get : σ → String) : Slot σ where
  name
  alias?
  Content := String
  spells text content := Spells 127 text (.string content)
  default := ""
  get

/-- A truth value, false when it is left out. -/
def flagSlot (name : String) (get : σ → Bool) : Slot σ where
  name
  alias? := none
  Content := Bool
  spells text content := Spells 127 text (.boolean content)
  default := false
  get

/-- A string or `null`, which is the same as nothing. -/
def optionalSlot (name : String) (get : σ → Option String) : Slot σ where
  name
  alias? := none
  Content := Option String
  spells text content := Spells 127 text (content.elim .null .string)
  default := none
  get

/-- A value of any kind that nests as deep as the record around it allows. -/
def valueSlot (name : String) (get : σ → Value) : Slot σ where
  name
  alias? := none
  Content := Value
  spells := Spells 127
  default := .null
  get

/-! ## Reading the kinds -/

theorem reads_text_of_spells {depth : Nat} {text : List Char} {value : String}
    (hspells : Spells depth text (.string value)) : Reads readText text value := by
  cases hspells with
  | string hchars =>
      refine ⟨⟨'"', _, rfl, rfl, by decide⟩, fun rest _ => ?_⟩
      rw [List.cons_append, List.append_assoc, readText, skipSpace_cons rfl]
      exact hchars.readString rest

theorem reads_flag_of_spells {depth : Nat} {text : List Char} {value : Bool}
    (hspells : Spells depth text (.boolean value)) : Reads readFlag text value := by
  cases hspells with
  | boolean =>
      cases value with
      | false => exact ⟨⟨'f', _, rfl, rfl, by decide⟩, fun _ _ => rfl⟩
      | true => exact ⟨⟨'t', _, rfl, rfl, by decide⟩, fun _ _ => rfl⟩

theorem reads_optional_of_spells {depth : Nat} {text : List Char} {value : Option String}
    (hspells : Spells depth text (value.elim .null .string)) :
    Reads (readOptional readText) text value := by
  cases value with
  | none =>
      cases hspells
      exact ⟨⟨'n', _, rfl, rfl, by decide⟩, fun _ _ => rfl⟩
  | some value =>
      have hreads := reads_text_of_spells hspells
      cases hspells
      exact hreads.optional (by simp)

/-- A field that stores what it reads serves a slot of its names. -/
theorem isServedBy_of {slots : List (Slot σ)} {slot : Slot σ} {field : Json.Field σ} {depth : Nat}
    (read : Nat → Reader slot.Content) (set : slot.Content → σ → σ)
    (hfield : field = { Field.of slot.name read set with alias? := slot.alias? })
    (hskips : SkipsBlanks (read depth))
    (hreads : ∀ text content, slot.spells text content → Reads (read depth) text content)
    (hget : ∀ content record, slot.get (set content record) = content)
    (hothers : ∀ other ∈ slots, other.name ≠ slot.name →
      ∀ content record, other.get (set content record) = other.get record) :
    slot.IsServedBy slots depth field := by
  subst hfield
  exact ⟨rfl, rfl, rfl, Field.skipsBlanks_of slot.name set hskips, fun text content hspells =>
    ⟨set content, Reads.field slot.name read set depth (hreads text content hspells),
      hget content, fun other hmem hne => hothers other hmem hne content⟩⟩

section Served

variable {slots : List (Slot σ)} {name : String}

theorem isServedBy_text {alias? : Option String} {get : σ → String} (set : String → σ → σ)
    (hget : ∀ content record, get (set content record) = content)
    (hothers : ∀ other ∈ slots, other.name ≠ name →
      ∀ content record, other.get (set content record) = other.get record) :
    (textSlot name alias? get).IsServedBy slots 127
      { Field.of name (fun _ => readText) set with alias? } :=
  isServedBy_of (fun _ => readText) set rfl skipsBlanks_readText
    (fun _ _ => reads_text_of_spells) hget hothers

theorem isServedBy_flag {get : σ → Bool} (set : Bool → σ → σ)
    (hget : ∀ content record, get (set content record) = content)
    (hothers : ∀ other ∈ slots, other.name ≠ name →
      ∀ content record, other.get (set content record) = other.get record) :
    (flagSlot name get).IsServedBy slots 127 (Field.of name (fun _ => readFlag) set) :=
  isServedBy_of (fun _ => readFlag) set rfl skipsBlanks_readFlag
    (fun _ _ => reads_flag_of_spells) hget hothers

theorem isServedBy_optional {get : σ → Option String} (set : Option String → σ → σ)
    (hget : ∀ content record, get (set content record) = content)
    (hothers : ∀ other ∈ slots, other.name ≠ name →
      ∀ content record, other.get (set content record) = other.get record) :
    (optionalSlot name get).IsServedBy slots 127
      (Field.of name (fun _ => readOptional readText) set) :=
  isServedBy_of (fun _ => readOptional readText) set rfl (skipsBlanks_readOptional readText)
    (fun _ _ => reads_optional_of_spells) hget hothers

theorem isServedBy_value {get : σ → Value} (set : Value → σ → σ)
    (hget : ∀ content record, get (set content record) = content)
    (hothers : ∀ other ∈ slots, other.name ≠ name →
      ∀ content record, other.get (set content record) = other.get record) :
    (valueSlot name get).IsServedBy slots 127 (Field.of name readValue set) :=
  isServedBy_of readValue set rfl (skipsBlanks_readValue 127) (fun _ _ => Spells.reads) hget hothers

end Served

end Kinds

/-! ## The records -/

namespace Feedback

/-- The fields of feedback. -/
def slots : List (Slot Feedback) :=
  [textSlot "team" none (·.team), textSlot "text" (some "message") (·.text),
   valueSlot "time" (·.time), optionalSlot "test" (·.test), flagSlot "success" (·.success),
   flagSlot "submit" (·.submit)]

theorem matches_slots : shape.Matches slots where
  served := by
    refine .cons ?team <| .cons ?text <| .cons ?time <| .cons ?test <| .cons ?success <|
      .cons ?submit .nil
    case team =>
      exact isServedBy_text (fun value (feedback : Feedback) => { feedback with team := value })
        (fun _ _ => rfl) (by simp [slots, textSlot, valueSlot, optionalSlot, flagSlot])
    case text =>
      exact isServedBy_text (fun value (feedback : Feedback) => { feedback with text := value })
        (fun _ _ => rfl) (by simp [slots, textSlot, valueSlot, optionalSlot, flagSlot])
    case time =>
      exact isServedBy_value (fun value (feedback : Feedback) => { feedback with time := value })
        (fun _ _ => rfl) (by simp [slots, textSlot, valueSlot, optionalSlot, flagSlot])
    case test =>
      exact isServedBy_optional (fun value (feedback : Feedback) => { feedback with test := value })
        (fun _ _ => rfl) (by simp [slots, textSlot, valueSlot, optionalSlot, flagSlot])
    case success =>
      exact isServedBy_flag (fun value (feedback : Feedback) => { feedback with success := value })
        (fun _ _ => rfl) (by simp [slots, textSlot, valueSlot, optionalSlot, flagSlot])
    case submit =>
      exact isServedBy_flag (fun value (feedback : Feedback) => { feedback with submit := value })
        (fun _ _ => rfl) (by simp [slots, textSlot, valueSlot, optionalSlot, flagSlot])
  distinct := by
    change ["team", "text", "message", "time", "test", "success", "submit"].Nodup
    decide
  blank := by simp [slots, textSlot, valueSlot, optionalSlot, flagSlot, shape, empty]
  ext record other hsame := by
    cases record
    cases other
    simpa [slots, textSlot, valueSlot, optionalSlot, flagSlot] using hsame

end Feedback

namespace CompileResult

/-- The fields of a compile result. -/
def slots : List (Slot CompileResult) :=
  [textSlot "text" (some "message") (·.text), flagSlot "success" (·.success)]

theorem matches_slots : shape.Matches slots where
  served := by
    refine .cons ?text (.cons ?success .nil)
    case text =>
      exact isServedBy_text (fun value (result : CompileResult) => { result with text := value })
        (fun _ _ => rfl) (by simp [slots, textSlot, flagSlot])
    case success =>
      exact isServedBy_flag (fun value (result : CompileResult) => { result with success := value })
        (fun _ _ => rfl) (by simp [slots, textSlot, flagSlot])
  distinct := by
    change ["text", "message", "success"].Nodup
    decide
  blank := by simp [slots, textSlot, flagSlot, shape]
  ext record other hsame := by
    cases record
    cases other
    simpa [slots, textSlot, flagSlot] using hsame

end CompileResult

namespace StopNotice

/-- The fields of a stop notice. -/
def slots : List (Slot StopNotice) :=
  [optionalSlot "taskName" (·.taskName), optionalSlot "uuid" (·.uuid),
   optionalSlot "value" (·.value)]

theorem matches_slots : shape.Matches slots where
  served := by
    refine .cons ?taskName (.cons ?uuid (.cons ?value .nil))
    case taskName =>
      exact isServedBy_optional
        (fun value (notice : StopNotice) => { notice with taskName := value })
        (fun _ _ => rfl) (by simp [slots, optionalSlot])
    case uuid =>
      exact isServedBy_optional (fun value (notice : StopNotice) => { notice with uuid := value })
        (fun _ _ => rfl) (by simp [slots, optionalSlot])
    case value =>
      exact isServedBy_optional (fun value (notice : StopNotice) => { notice with value := value })
        (fun _ _ => rfl) (by simp [slots, optionalSlot])
  distinct := by
    change ["taskName", "uuid", "value"].Nodup
    decide
  blank := by simp [slots, optionalSlot, shape, empty]
  ext record other hsame := by
    cases record
    cases other
    simpa [slots, optionalSlot] using hsame

end StopNotice

/-- Feedback, compile results and stop notices are decoded from the members of any object. Whatever
fields it gives, in whatever order and with whatever other members between them, the record holds
exactly the values that are given and the defaults of all other fields. An object that gives a field
twice, be it under its two names, is refused. -/
theorem decodesMembers_records :
    Feedback.shape.DecodesMembers Feedback.slots ∧
      CompileResult.shape.DecodesMembers CompileResult.slots ∧
      StopNotice.shape.DecodesMembers StopNotice.slots :=
  ⟨Feedback.matches_slots.decodesMembers, CompileResult.matches_slots.decodesMembers,
    StopNotice.matches_slots.decodesMembers⟩

namespace Feedback

/-- A list of half a pair and a number beyond all bounds, which nothing but passing over accepts. -/
def strangeText : List Char :=
  spelledArray .none
    [.bare ('"' :: (['\\', 'u', 'd', '8', '0', '0'] ++ ['"'])), .bare ['1', 'e', '9', '9', '9']]

theorem isValue_strangeText : IsValue strangeText := by
  have hunit : HexUnit ['d', '8', '0', '0'] 0xD800 :=
    @HexUnit.digits 'd' '8' '0' '0' 13 8 0 0 (by decide) (by decide) (by decide) (by decide)
  have hone : IsDigits ['1'] := ⟨by decide, List.all_eq_true.1 (by decide)⟩
  have hnines : IsDigits ['9', '9', '9'] := ⟨by decide, List.all_eq_true.1 (by decide)⟩
  have hexponent : IsExponent ['e', '9', '9', '9'] :=
    @IsExponent.digits 'e' [] _ (.inl rfl) (.inl rfl) hnines
  refine .array .none (List.forall_mem_cons.2 ⟨?_, List.forall_mem_singleton.2 ?_⟩)
  · exact .string (.unit hunit .nil)
  · exact .numeral false (.parts (.digits (by decide) hone) .none hexponent)

/-- A letter given by its number. -/
def escapedText : List Char := '"' :: (['\\', 'u', '0', '0', '4', '1'] ++ ['"'])

theorem spells_escapedText : Spells 127 escapedText (.string "A") := by
  have hunit : HexUnit ['0', '0', '4', '1'] 0x41 :=
    @HexUnit.digits '0' '0' '4' '1' 0 0 4 1 (by decide) (by decide) (by decide) (by decide)
  have hchars : SpellsChars ['\\', 'u', '0', '0', '4', '1'] ['A'] :=
    .unit hunit (by decide) (by decide) .nil
  exact .string hchars

theorem spells_largest : Spells 127 (Text.signedDecimal 18446744073709551615)
    (.number (.integer 18446744073709551615)) :=
  .integer (by simp [Number.InRange])

/-- Members in another order than the fields, with a strange one in front and the text under its
second name. -/
def scrambledMembers : List Member :=
  [.bare "x" strangeText, .bare "message" escapedText, .bare "success" (flagText true),
   .bare "time" (Text.signedDecimal 18446744073709551615)]

/-- The feedback that these members give. -/
def scrambled : Feedback :=
  { empty with text := "A", time := .number (.integer 18446744073709551615), success := true }

theorem isWellTyped_scrambledMembers : IsWellTyped slots scrambledMembers := by
  intro member hmem
  simp only [scrambledMembers, List.mem_cons, List.not_mem_nil, or_false] at hmem
  rcases hmem with rfl | rfl | rfl | rfl
  · refine .inr ⟨?_, isValue_strangeText⟩
    simp [slots, textSlot, valueSlot, optionalSlot, flagSlot, Slot.IsNamed, Slot.names, Member.bare]
  · refine .inl ⟨textSlot "text" (some "message") (·.text), by simp [slots], ?_, "A",
      spells_escapedText⟩
    simp [textSlot, Slot.IsNamed, Slot.names, Member.bare]
  · exact .inl ⟨flagSlot "success" (·.success), by simp [slots], List.mem_cons_self, true,
      .boolean true⟩
  · exact .inl ⟨valueSlot "time" (·.time), by simp [slots], List.mem_cons_self, _, spells_largest⟩

theorem isUnrepeated_scrambledMembers : IsUnrepeated slots scrambledMembers := by
  simp [IsUnrepeated, scrambledMembers, slots, textSlot, valueSlot, optionalSlot, flagSlot,
    Slot.IsNamed, Slot.names, Member.bare]

theorem isReflected_scrambled : IsReflected slots scrambledMembers scrambled := by
  intro slot hslot
  simp only [slots, List.mem_cons, List.not_mem_nil, or_false] at hslot
  rcases hslot with rfl | rfl | rfl | rfl | rfl | rfl
  all_goals
    simp [scrambledMembers, scrambled, empty, textSlot, valueSlot, optionalSlot, flagSlot,
      Slot.IsNamed, Slot.names, Member.bare, Padded.bare, spells_escapedText, spells_largest,
      Spells.boolean, flagText]

end Feedback

/-- The scrambled members are decoded to the feedback that they give, and refused with the text
given once more under its own name. -/
theorem decodesMembers_records_scrambled :
    let body : Body := ⟨.none, .none, Feedback.scrambledMembers, .none⟩
    let again : Body := ⟨.none, .none,
      Feedback.scrambledMembers ++ [.bare "text" Feedback.escapedText], .none⟩
    body.text = "\x7b\"x\":[\"\\ud800\",1e999],\"message\":\"\\u0041\",\"success\":true," ++
      "\"time\":18446744073709551615\x7d" ∧
      Feedback.shape.decode body.text = .ok Feedback.scrambled ∧
      ∃ fault, Feedback.shape.decode again.text = .error fault := by
  intro body again
  obtain ⟨hdecodes, -, -⟩ := decodesMembers_records
  refine ⟨by decide +kernel, ?_, ?_⟩
  · obtain ⟨record, hdecode, hunique⟩ := hdecodes.decode_unrepeated body
      Feedback.isWellTyped_scrambledMembers Feedback.isUnrepeated_scrambledMembers
    rwa [(hunique Feedback.scrambled).1 Feedback.isReflected_scrambled]
  · have htyped : IsWellTyped Feedback.slots again.members := by
      refine List.forall_mem_append.2 ⟨Feedback.isWellTyped_scrambledMembers,
        List.forall_mem_singleton.2 (.inl ?_)⟩
      exact ⟨textSlot "text" (some "message") (·.text), by simp [Feedback.slots],
        List.mem_cons_self, "A", Feedback.spells_escapedText⟩
    have hrepeated : ¬ IsUnrepeated Feedback.slots again.members := by
      simp [again, IsUnrepeated, Feedback.scrambledMembers, Feedback.slots, textSlot, valueSlot,
        optionalSlot, flagSlot, Slot.IsNamed, Slot.names, Member.bare]
    obtain ⟨-, -, -, fault, hdecode, -⟩ := hdecodes.decode_repeated again htyped hrepeated
    exact ⟨fault, hdecode⟩

/-- An integer beyond 64 bits is no exact time: it is kept as the nearest real. -/
theorem time_rounded :
    ∃ feedback, Feedback.shape.decode "\x7b\"time\":18446744073709551617\x7d" = .ok feedback ∧
      feedback.time ≠ .number (.integer 18446744073709551617) ∧
      feedback.timeText = "1.8446744073709552e+19" := by
  have hread : ((Feedback.shape.decode "\x7b\"time\":18446744073709551617\x7d").toOption.map
      Feedback.timeText) = some "1.8446744073709552e+19" := by
    decide +kernel
  obtain ⟨feedback, hsome, htext⟩ := Option.map_eq_some_iff.1 hread
  have hdecode : Feedback.shape.decode "\x7b\"time\":18446744073709551617\x7d" = .ok feedback := by
    cases hbody : Feedback.shape.decode "\x7b\"time\":18446744073709551617\x7d" with
    | error fault =>
        rw [hbody] at hsome
        cases hsome
    | ok other =>
        rw [hbody] at hsome
        exact congrArg Except.ok (Option.some.inj hsome)
  refine ⟨feedback, hdecode, fun htime => ?_, htext⟩
  rw [Feedback.timeText, htime] at htext
  revert htext
  decide +kernel

end ClassroomClient.Exchange
