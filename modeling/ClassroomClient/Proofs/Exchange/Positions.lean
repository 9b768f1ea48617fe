/-
# Notifications by position and by name

A body that is pushed may be an array of values as well as an object. Feedback, compile results and
stop notices take the values of an array for their documented fields in this order, so it makes no
difference whether a server names the fields: on every topic of such a body both forms mean the
same, or none of them means anything.
-/

import ClassroomClient.Exchange.Notification
import ClassroomClient.Proofs.Exchange.Members
import ClassroomClient.Proofs.Json.Positions

namespace ClassroomClient.Exchange

open Json

/-! ## The records -/

theorem isSettled_text {σ : Type} (name : String) (set : String → σ → σ) :
    (Field.of name (fun _ => readText) set).IsSettled 127 :=
  Field.isSettled_of name set skipsBlanks_readText fun _ hvalue => hvalue.settles_readText

theorem isSettled_flag {σ : Type} (name : String) (set : Bool → σ → σ) :
    (Field.of name (fun _ => readFlag) set).IsSettled 127 :=
  Field.isSettled_of name set skipsBlanks_readFlag fun _ hvalue => hvalue.settles_readFlag

theorem isSettled_optional {σ : Type} (name : String) (set : Option String → σ → σ) :
    (Field.of name (fun _ => readOptional readText) set).IsSettled 127 :=
  Field.isSettled_of name set (skipsBlanks_readOptional readText) fun _ hvalue =>
    hvalue.settles_readOptional hvalue.settles_readText

theorem isSettled_value {σ : Type} (name : String) (set : Value → σ → σ) :
    (Field.of name readValue set).IsSettled 127 :=
  Field.isSettled_of name set (skipsBlanks_readValue 127) fun _ hvalue =>
    hvalue.settles_readValue 127

/-- The fields of feedback in the order in which an array gives them. -/
theorem Feedback.isLenient_shape :
    shape.IsLenient ["team", "text", "time", "test", "success", "submit"] where
  names_eq := rfl
  distinct := by decide
  known := by simp [shape, Field.of, Shape.field?]
  optional := by simp [shape, Field.of]
  mayEndEarly := rfl
  settled := by
    simp only [shape, List.forall_mem_cons, List.not_mem_nil, false_implies, implies_true, and_true]
    exact ⟨isSettled_text _ _, (isSettled_text _ _).alias (some "message"), isSettled_value _ _,
      isSettled_optional _ _, isSettled_flag _ _, isSettled_flag _ _⟩

/-- The fields of a compile result in the order in which an array gives them. -/
theorem CompileResult.isLenient_shape : shape.IsLenient ["text", "success"] where
  names_eq := rfl
  distinct := by decide
  known := by simp [shape, Field.of, Shape.field?]
  optional := by simp [shape, Field.of]
  mayEndEarly := rfl
  settled := by
    simp only [shape, List.forall_mem_cons, List.not_mem_nil, false_implies, implies_true, and_true]
    exact ⟨(isSettled_text _ _).alias (some "message"), isSettled_flag _ _⟩

/-- The fields of a stop notice in the order in which an array gives them. -/
theorem StopNotice.isLenient_shape : shape.IsLenient ["taskName", "uuid", "value"] where
  names_eq := rfl
  distinct := by decide
  known := by simp [shape, Field.of, Shape.field?]
  optional := by simp [shape, Field.of]
  mayEndEarly := rfl
  settled := by
    simp only [shape, List.forall_mem_cons, List.not_mem_nil, false_implies, implies_true, and_true]
    exact ⟨isSettled_optional _ _, isSettled_optional _ _, isSettled_optional _ _⟩

/-! ## The notifications -/

namespace Notification

/-- Whether an array of values means the same on a topic as the object that gives them under the
first of these names: the same notification, or none. -/
def AgreesOnForms (topic : String) (names : List String) : Prop :=
  ∀ (list : ListBody) (body : Body), list.IsWellFormed → body.IsNamed names list →
    ∀ notification, decode topic list.text = .ok notification ↔
      decode topic body.text = .ok notification

section Forms

variable {names : List String} {list : ListBody} {body : Body}

/-- What a readable body means depends on its record alone, and an unreadable one means nothing. -/
theorem readBody_bind_iff {σ : Type} {shape : Shape σ} (hshape : shape.AgreesOnForms names)
    (hvalues : list.IsWellFormed) (hnamed : body.IsNamed names list) (topic : String)
    (make : σ → Notification) (notification : Notification) :
    (readBody shape topic list.text >>= fun record => pure (make record)) = .ok notification ↔
      (readBody shape topic body.text >>= fun record => pure (make record)) =
        .ok notification := by
  unfold readBody
  rcases hshape.decode_cases hvalues hnamed with ⟨record, hlist, hbody⟩ | ⟨_, _, hlist, hbody⟩
  · rw [hlist, hbody]
  · rw [hlist, hbody]
    exact ⟨nofun, nofun⟩

theorem agreesOnForms_feedback (hshape : Feedback.shape.AgreesOnForms names) :
    AgreesOnForms Route.feedback names := fun _ _ hvalues hnamed =>
  readBody_bind_iff hshape hvalues hnamed Route.feedback fun feedback =>
    if feedback.submit then submitResult feedback else testResult feedback

theorem agreesOnForms_broadcasts (hshape : Feedback.shape.AgreesOnForms names) :
    AgreesOnForms Route.broadcasts names := fun _ _ hvalues hnamed =>
  readBody_bind_iff hshape hvalues hnamed Route.broadcasts broadcast

theorem agreesOnForms_compileResults (hshape : CompileResult.shape.AgreesOnForms names) :
    AgreesOnForms Route.compileResults names := fun _ _ hvalues hnamed =>
  readBody_bind_iff hshape hvalues hnamed Route.compileResults compileResult

/-- A stop whose body is unreadable in one form is a stop of no particular task in both. -/
theorem agreesOnForms_roundStop (hshape : StopNotice.shape.AgreesOnForms names) :
    AgreesOnForms Route.roundStop names := by
  intro list body hvalues hnamed notification
  have hdecode (text : String) : decode Route.roundStop text =
      .ok (roundStop ((StopNotice.shape.decode text).toOption.getD StopNotice.empty)) := by
    rw [decode, if_neg (by decide), if_neg (by decide), if_neg (by decide), if_neg (by decide),
      if_pos rfl]
    cases StopNotice.shape.decode text <;> rfl
  rw [hdecode, hdecode]
  rcases hshape.decode_cases hvalues hnamed with ⟨notice, hlist, hbody⟩ | ⟨_, _, hlist, hbody⟩
  · rw [hlist, hbody]
  · rw [hlist, hbody]
    rfl

end Forms

/-- Feedback, compile results and stop notices are decoded from an array of any values exactly as
from the object that gives these values under the names of the first fields, and never from an array
with more values than there are fields. So both forms mean the same notification on every topic on
which such a record comes. -/
theorem agreesOnForms_records :
    (Feedback.shape.AgreesOnForms ["team", "text", "time", "test", "success", "submit"] ∧
      AgreesOnForms Route.feedback ["team", "text", "time", "test", "success", "submit"] ∧
      AgreesOnForms Route.broadcasts ["team", "text", "time", "test", "success", "submit"]) ∧
    (CompileResult.shape.AgreesOnForms ["text", "success"] ∧
      AgreesOnForms Route.compileResults ["text", "success"]) ∧
    StopNotice.shape.AgreesOnForms ["taskName", "uuid", "value"] ∧
      AgreesOnForms Route.roundStop ["taskName", "uuid", "value"] := by
  have hfeedback := Feedback.isLenient_shape.agreesOnForms
  have hcompile := CompileResult.isLenient_shape.agreesOnForms
  have hstop := StopNotice.isLenient_shape.agreesOnForms
  exact ⟨⟨hfeedback, agreesOnForms_feedback hfeedback, agreesOnForms_broadcasts hfeedback⟩,
    ⟨hcompile, agreesOnForms_compileResults hcompile⟩, hstop, agreesOnForms_roundStop hstop⟩

/-- A list of a list of a real. -/
def nestedText : List Char :=
  spelledArray .none [.bare (spelledArray .none [.bare (signed true ['1', '.', '5'])])]

theorem isValue_nestedText : IsValue nestedText := by
  have hone : IsDigits ['1'] := ⟨by decide, List.all_eq_true.1 (by decide)⟩
  have hfive : IsDigits ['5'] := ⟨by decide, List.all_eq_true.1 (by decide)⟩
  have hnumeral : IsNumeral ['1', '.', '5'] :=
    .parts (.digits (by decide) hone) (.digits hfive) .none
  exact .array .none (List.forall_mem_singleton.2
    (.array .none (List.forall_mem_singleton.2 (.numeral true hnumeral))))

theorem isValue_stringText_A : IsValue (stringText "A") :=
  @IsValue.string ['A'] (.plain (by decide) (by decide) (by decide) .nil)

/-- A nested time is accepted in both forms, and a time with half a pair of surrogates in
neither. -/
theorem agreesOnForms_records_nested :
    let list (time : List Char) : ListBody :=
      ⟨.none, .none, [.bare (stringText "A"), .bare (stringText "A"), .bare time], .none⟩
    let body (time : List Char) : Body :=
      ⟨.none, .none, [.bare "team" (stringText "A"), .bare "text" (stringText "A"),
        .bare "time" time], .none⟩
    (list nestedText).text = "[\"A\",\"A\",[[-1.5]]]" ∧
      (body nestedText).text = "\x7b\"team\":\"A\",\"text\":\"A\",\"time\":[[-1.5]]\x7d" ∧
      (∃ notification, decode Route.broadcasts (list nestedText).text = .ok notification ∧
        decode Route.broadcasts (body nestedText).text = .ok notification) ∧
      ∀ notification, decode Route.broadcasts (body Feedback.strangeText).text ≠
        .ok notification := by
  intro list body
  obtain ⟨⟨-, -, hagrees⟩, -⟩ := agreesOnForms_records
  have hnamed (time : List Char) : (body time).IsNamed
      ["team", "text", "time", "test", "success", "submit"] (list time) :=
    ⟨⟨["test", "success", "submit"], rfl⟩, rfl⟩
  have hwellFormed {time : List Char} (hvalue : IsValue time) : (list time).IsWellFormed := by
    simp [ListBody.IsWellFormed, list, Padded.bare, isValue_stringText_A, hvalue]
  have haccepts : (decode Route.broadcasts (list nestedText).text).toBool = true := by
    decide +kernel
  have hrefuses : (decode Route.broadcasts (list Feedback.strangeText).text).toBool = false := by
    decide +kernel
  refine ⟨by decide +kernel, by decide +kernel, ?_, fun notification hdecode => ?_⟩
  · cases hlist : decode Route.broadcasts (list nestedText).text with
    | error fault =>
        rw [hlist] at haccepts
        cases haccepts
    | ok notification =>
        exact ⟨notification, rfl, (hagrees _ _ (hwellFormed isValue_nestedText) (hnamed _)
          notification).1 hlist⟩
  · rw [(hagrees _ _ (hwellFormed Feedback.isValue_strangeText) (hnamed _) notification).2 hdecode]
      at hrefuses
    cases hrefuses

end Notification

end ClassroomClient.Exchange
