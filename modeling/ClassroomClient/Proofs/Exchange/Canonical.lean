/-
# Canonical bodies of records

Every record that is exchanged has one canonical body, the one that is written of it. Whatever body
a record was read from (its members in any order or an array, with other members between them, the
text under its second name, characters escaped), the canonical body is read as the same record, and
written again it stays as it is. For the time of feedback, which may be any value, this rests on
what can be read: it leaves room for the record around it.
-/

import ClassroomClient.Proofs.Exchange.Request
import ClassroomClient.Proofs.Json.Value

namespace ClassroomClient

/-! ## Canonical forms -/

namespace Json.Shape

variable {σ : Type}

/-- A body read as a record and written again. -/
def rewritten (shape : Shape σ) (write : σ → List Char) (body : String) : Except Fault String :=
  (shape.decode body).map fun record => String.ofList (write record)

/-- The bodies that are written are canonical: whatever body a record was read from, as long as the
record is admitted, what is written of it is read as the same record, and to read and write it once
more changes nothing. -/
structure IsCanonical (shape : Shape σ) (write : σ → List Char) (admitted : σ → Prop) : Prop where
  decode_written : ∀ body record, shape.decode body = .ok record → admitted record →
    shape.decode (String.ofList (write record)) = .ok record
  rewritten_rewritten : ∀ body record, shape.decode body = .ok record → admitted record →
    ∃ text, shape.rewritten write body = .ok text ∧ shape.rewritten write text = .ok text

/-- It is enough that every record which can be read is read back. -/
theorem isCanonical_of_decode {shape : Shape σ} {write : σ → List Char} {admitted : σ → Prop}
    (hdecode : ∀ body record, shape.decode body = .ok record → admitted record →
      shape.decode (String.ofList (write record)) = .ok record) :
    shape.IsCanonical write admitted where
  decode_written := hdecode
  rewritten_rewritten := by
    intro body record hbody hadmitted
    have hagain := hdecode body record hbody hadmitted
    refine ⟨String.ofList (write record), ?_, ?_⟩
    · rw [rewritten, hbody]
      rfl
    · rw [rewritten, hagain]
      rfl

end Json.Shape

namespace Exchange

open Json

/-! ## Flags and optional strings -/

theorem reads_flagText (value : Bool) : Reads readFlag (flagText value) value := by
  cases value with
  | false => exact ⟨⟨'f', _, rfl, rfl, by decide⟩, fun _ _ => rfl⟩
  | true => exact ⟨⟨'t', _, rfl, rfl, by decide⟩, fun _ _ => rfl⟩

theorem reads_optionalText (value : Option String) :
    Reads (readOptional readText) (optionalText value) value := by
  cases value with
  | none => exact ⟨⟨'n', _, rfl, rfl, by decide⟩, fun _ _ => rfl⟩
  | some text => exact (reads_stringText text).optional (by simp [stringText])

/-! ## Compile results -/

namespace CompileResult

/-- The fields of a compile result as they are written. -/
def written (result : CompileResult) : List (WrittenField CompileResult) :=
  [{ field := shape.fields.get ⟨0, by decide⟩
     value := stringText result.text
     update := fun other => { other with text := result.text } },
   { field := shape.fields.get ⟨1, by decide⟩
     value := flagText result.success
     update := fun other => { other with success := result.success } }]

theorem isRead_of_mem_written {result : CompileResult} {field : WrittenField CompileResult}
    (hmem : field ∈ result.written) (depth : Nat) : field.IsRead shape depth := by
  simp only [written, List.mem_cons, List.not_mem_nil, or_false] at hmem
  rcases hmem with rfl | rfl
  · exact ⟨rfl, Reads.field "text" (fun _ => readText)
      (fun value (other : CompileResult) => { other with text := value }) depth
        (reads_stringText result.text)⟩
  · exact ⟨rfl, Reads.field "success" (fun _ => readFlag)
      (fun value (other : CompileResult) => { other with success := value }) depth
        (reads_flagText result.success)⟩

/-- A compile result is read back from its text. -/
theorem decode_json (result : CompileResult) :
    shape.decode (String.ofList result.json) = .ok result := by
  have hdistinct : (result.written.map WrittenField.name).Nodup := by
    change ["text", "success"].Nodup
    decide
  have hrequired : ∀ field ∈ shape.fields, field.required = true →
      field.name ∈ result.written.map WrittenField.name := by
    change ∀ field ∈ shape.fields, field.required = true → field.name ∈ ["text", "success"]
    decide
  exact Shape.decode_of_reads (Shape.reads_objectText
    (fun _ hmem => isRead_of_mem_written hmem 127) hdistinct hrequired)

end CompileResult

/-! ## Stop notices -/

namespace StopNotice

/-- The fields of a stop notice as they are written. -/
def written (notice : StopNotice) : List (WrittenField StopNotice) :=
  [{ field := shape.fields.get ⟨0, by decide⟩
     value := optionalText notice.taskName
     update := fun other => { other with taskName := notice.taskName } },
   { field := shape.fields.get ⟨1, by decide⟩
     value := optionalText notice.uuid
     update := fun other => { other with uuid := notice.uuid } },
   { field := shape.fields.get ⟨2, by decide⟩
     value := optionalText notice.value
     update := fun other => { other with value := notice.value } }]

theorem isRead_of_mem_written {notice : StopNotice} {field : WrittenField StopNotice}
    (hmem : field ∈ notice.written) (depth : Nat) : field.IsRead shape depth := by
  simp only [written, List.mem_cons, List.not_mem_nil, or_false] at hmem
  rcases hmem with rfl | rfl | rfl
  · exact ⟨rfl, Reads.field "taskName" (fun _ => readOptional readText)
      (fun value (other : StopNotice) => { other with taskName := value }) depth
        (reads_optionalText notice.taskName)⟩
  · exact ⟨rfl, Reads.field "uuid" (fun _ => readOptional readText)
      (fun value (other : StopNotice) => { other with uuid := value }) depth
        (reads_optionalText notice.uuid)⟩
  · exact ⟨rfl, Reads.field "value" (fun _ => readOptional readText)
      (fun value (other : StopNotice) => { other with value := value }) depth
        (reads_optionalText notice.value)⟩

/-- A stop notice is read back from its text. -/
theorem decode_json (notice : StopNotice) :
    shape.decode (String.ofList notice.json) = .ok notice := by
  have hdistinct : (notice.written.map WrittenField.name).Nodup := by
    change ["taskName", "uuid", "value"].Nodup
    decide
  have hrequired : ∀ field ∈ shape.fields, field.required = true →
      field.name ∈ notice.written.map WrittenField.name := by
    change ∀ field ∈ shape.fields, field.required = true →
      field.name ∈ ["taskName", "uuid", "value"]
    decide
  exact Shape.decode_of_reads (Shape.reads_objectText
    (fun _ hmem => isRead_of_mem_written hmem 127) hdistinct hrequired)

end StopNotice

/-! ## Feedback -/

namespace Feedback

/-- The fields of feedback as they are written. -/
def written (feedback : Feedback) : List (WrittenField Feedback) :=
  [{ field := shape.fields.get ⟨0, by decide⟩
     value := stringText feedback.team
     update := fun other => { other with team := feedback.team } },
   { field := shape.fields.get ⟨1, by decide⟩
     value := stringText feedback.text
     update := fun other => { other with text := feedback.text } },
   { field := shape.fields.get ⟨2, by decide⟩
     value := feedback.time.text
     update := fun other => { other with time := feedback.time } },
   { field := shape.fields.get ⟨3, by decide⟩
     value := optionalText feedback.test
     update := fun other => { other with test := feedback.test } },
   { field := shape.fields.get ⟨4, by decide⟩
     value := flagText feedback.success
     update := fun other => { other with success := feedback.success } },
   { field := shape.fields.get ⟨5, by decide⟩
     value := flagText feedback.submit
     update := fun other => { other with submit := feedback.submit } }]

theorem isRead_of_mem_written {feedback : Feedback} {depth : Nat}
    (htime : Reads (readValue depth) feedback.time.text feedback.time)
    {field : WrittenField Feedback} (hmem : field ∈ feedback.written) :
    field.IsRead shape depth := by
  simp only [written, List.mem_cons, List.not_mem_nil, or_false] at hmem
  rcases hmem with rfl | rfl | rfl | rfl | rfl | rfl
  · exact ⟨rfl, Reads.field "team" (fun _ => readText)
      (fun value (other : Feedback) => { other with team := value }) depth
        (reads_stringText feedback.team)⟩
  · exact ⟨rfl, Reads.field "text" (fun _ => readText)
      (fun value (other : Feedback) => { other with text := value }) depth
        (reads_stringText feedback.text)⟩
  · exact ⟨rfl, Reads.field "time" readValue
      (fun value (other : Feedback) => { other with time := value }) depth htime⟩
  · exact ⟨rfl, Reads.field "test" (fun _ => readOptional readText)
      (fun value (other : Feedback) => { other with test := value }) depth
        (reads_optionalText feedback.test)⟩
  · exact ⟨rfl, Reads.field "success" (fun _ => readFlag)
      (fun value (other : Feedback) => { other with success := value }) depth
        (reads_flagText feedback.success)⟩
  · exact ⟨rfl, Reads.field "submit" (fun _ => readFlag)
      (fun value (other : Feedback) => { other with submit := value }) depth
        (reads_flagText feedback.submit)⟩

/-- Feedback is read back from its text, as long as its time leaves room for the record around it
and holds no reals. -/
theorem decode_json {feedback : Feedback} (hfits : feedback.time.Fits 127)
    (hintegral : feedback.time.isIntegral = true) :
    shape.decode (String.ofList feedback.json) = .ok feedback := by
  have hdistinct : (feedback.written.map WrittenField.name).Nodup := by
    change ["team", "text", "time", "test", "success", "submit"].Nodup
    decide
  have hrequired : ∀ field ∈ shape.fields, field.required = true →
      field.name ∈ feedback.written.map WrittenField.name := by
    change ∀ field ∈ shape.fields, field.required = true →
      field.name ∈ ["team", "text", "time", "test", "success", "submit"]
    decide
  exact Shape.decode_of_reads (Shape.reads_objectText
    (fun _ hmem => isRead_of_mem_written (hfits.reads_text hintegral) hmem) hdistinct hrequired)

/-- Only the field of the time changes the time. -/
theorem fits_of_read_field {field : Json.Field Feedback} (hmem : field ∈ shape.fields) {depth : Nat}
    {text rest : List Char} {update : Feedback → Feedback}
    (hread : field.read depth text = .ok (update, rest)) {feedback : Feedback}
    (hfits : feedback.time.Fits depth) : (update feedback).time.Fits depth := by
  simp only [shape, List.mem_cons, List.not_mem_nil, or_false] at hmem
  rcases hmem with rfl | rfl | rfl | rfl | rfl | rfl
  all_goals
    obtain ⟨⟨value, _⟩, hvalue, hread⟩ := exists_of_bind hread
    cases hread
  case inr.inr.inl => exact fits_of_readValue hvalue
  all_goals exact hfits

/-- The time of feedback that was read leaves room for the record around it. -/
theorem fits_of_decode {body : String} {feedback : Feedback}
    (hdecode : shape.decode body = .ok feedback) : feedback.time.Fits 127 := by
  obtain ⟨rest, hread⟩ := Shape.exists_read_of_decode hdecode
  have hblank : shape.blank.time.Fits 127 := .null
  exact Shape.holds_of_read (fun feedback => feedback.time.Fits 127)
    (fun _ hmem _ _ _ hfield _ hfits => fits_of_read_field hmem hfield hfits) hblank hread

end Feedback

/-! ## All records -/

/-- The bodies that are written of source files, requests, compile results, stop notices and
feedback are canonical. Of the time of feedback, which is kept as any value, the numbers must be
integers. -/
theorem isCanonical_records :
    SourceFile.shape.IsCanonical SourceFile.text (fun _ => True) ∧
      Request.shape.IsCanonical Request.text (fun _ => True) ∧
      CompileResult.shape.IsCanonical CompileResult.json (fun _ => True) ∧
      StopNotice.shape.IsCanonical StopNotice.json (fun _ => True) ∧
      Feedback.shape.IsCanonical Feedback.json fun feedback => feedback.time.isIntegral = true := by
  refine ⟨?_, ?_, ?_, ?_, ?_⟩
  · exact Shape.isCanonical_of_decode fun _ file _ _ => file.decode_text
  · exact Shape.isCanonical_of_decode fun _ request _ _ => request.decode_text
  · exact Shape.isCanonical_of_decode fun _ result _ _ => result.decode_json
  · exact Shape.isCanonical_of_decode fun _ notice _ _ => notice.decode_json
  · exact Shape.isCanonical_of_decode fun _ _ hdecode hintegral =>
      Feedback.decode_json (Feedback.fits_of_decode hdecode) hintegral

/-- Feedback with its members in another order, two values for one name in its time, the text under
its second name and escaped, and a member that is not known. -/
theorem isCanonical_records_scrambled :
    let body :=
      " \x7b\"time\":\x7b\"b\":[1,-2],\"a\":[[0],null],\"b\":\x7b\x7d\x7d ,\"x\":[1e999]," ++
        "\n\"message\":\"\\u00e9\\ud83d\\ude00\\/\"\x7d"
    let text :=
      "\x7b\"team\":\"\",\"text\":\"é😀/\",\"time\":\x7b\"a\":[[0],null],\"b\":\x7b\x7d\x7d," ++
        "\"test\":null,\"success\":false,\"submit\":false\x7d"
    ∃ feedback, Feedback.shape.decode body = .ok feedback ∧ feedback.time.isIntegral = true ∧
      Feedback.shape.decode text = .ok feedback ∧
      Feedback.shape.rewritten Feedback.json body = .ok text ∧
      Feedback.shape.rewritten Feedback.json text = .ok text := by
  intro body text
  have hread : ((Feedback.shape.decode body).toOption.map fun feedback =>
      (feedback.time.isIntegral, String.ofList feedback.json)) = some (true, text) := by
    decide +kernel
  obtain ⟨feedback, hsome, hwrites⟩ := Option.map_eq_some_iff.1 hread
  obtain ⟨hintegral, htext⟩ := Prod.mk.inj hwrites
  have hdecode : Feedback.shape.decode body = .ok feedback := by
    cases hbody : Feedback.shape.decode body with
    | error fault =>
        rw [hbody] at hsome
        cases hsome
    | ok other =>
        rw [hbody] at hsome
        exact congrArg Except.ok (Option.some.inj hsome)
  obtain ⟨_, _, _, _, hcanonical⟩ := isCanonical_records
  have hagain := hcanonical.decode_written body feedback hdecode hintegral
  obtain ⟨written, hwritten, hrest⟩ :=
    hcanonical.rewritten_rewritten body feedback hdecode hintegral
  rw [htext] at hagain
  have hfirst : Feedback.shape.rewritten Feedback.json body = .ok text := by
    rw [Shape.rewritten, hdecode, ← htext]
    rfl
  obtain rfl : written = text := Except.ok.inj (hwritten.symm.trans hfirst)
  exact ⟨feedback, hdecode, hintegral, hagain, hfirst, hrest⟩

end Exchange

end ClassroomClient
