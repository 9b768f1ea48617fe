/-
# Requests read back

The JSON text of a request is read as that request: the team, every source file in its place, and
the names of the tests if there are any. The text holds no control characters, since the strings
in it are escaped and nothing else is written that is one.
-/

import ClassroomClient.Exchange.Record
import ClassroomClient.Proofs.Json.Record

namespace ClassroomClient.Exchange

open Json

/-! ## Reading back -/

namespace SourceFile

/-- The fields of a source file as they are written. -/
def written (file : SourceFile) : List (WrittenField SourceFile) :=
  [{ field := shape.fields.get ⟨0, by decide⟩
     value := stringText file.filename
     update := fun other => { other with filename := file.filename } },
   { field := shape.fields.get ⟨1, by decide⟩
     value := stringText file.content
     update := fun other => { other with content := file.content } }]

theorem isRead_of_mem_written {file : SourceFile} {field : WrittenField SourceFile}
    (hmem : field ∈ file.written) (depth : Nat) : field.IsRead shape depth := by
  simp only [written, List.mem_cons, List.not_mem_nil, or_false] at hmem
  rcases hmem with rfl | rfl
  · exact ⟨rfl, Reads.field "filename" (fun _ => readText)
      (fun value (other : SourceFile) => { other with filename := value }) depth
        (reads_stringText file.filename)⟩
  · exact ⟨rfl, Reads.field "content" (fun _ => readText)
      (fun value (other : SourceFile) => { other with content := value }) depth
        (reads_stringText file.content)⟩

/-- A source file is read back from its text at any depth that leaves room for an object. -/
theorem reads_text (file : SourceFile) (depth : Nat) :
    Reads (shape.read (depth + 2)) file.text file := by
  have hdistinct : (file.written.map WrittenField.name).Nodup := by
    change ["filename", "content"].Nodup
    decide
  have hrequired : ∀ field ∈ shape.fields, field.required = true →
      field.name ∈ file.written.map WrittenField.name := by
    change ∀ field ∈ shape.fields, field.required = true →
      field.name ∈ ["filename", "content"]
    decide
  exact Shape.reads_objectText (fun _ hmem => isRead_of_mem_written hmem (depth + 1)) hdistinct
    hrequired

/-- A source file is read back from its text alone. -/
theorem decode_text (file : SourceFile) : shape.decode (String.ofList file.text) = .ok file :=
  Shape.decode_of_reads (file.reads_text 126)

end SourceFile

namespace Request

/-- The fields of a request as they are written. -/
def written (request : Request) : List (WrittenField Request) :=
  [{ field := shape.fields.get ⟨0, by decide⟩
     value := stringText request.team
     update := fun other => { other with team := request.team } },
   { field := shape.fields.get ⟨1, by decide⟩
     value := arrayText (request.source.map SourceFile.text)
     update := fun other => { other with source := request.source } }] ++
  match request.tests with
  | none => []
  | some names =>
      [{ field := shape.fields.get ⟨2, by decide⟩
         value := arrayText (names.map stringText)
         update := fun other => { other with tests := some names } }]

theorem isRead_of_mem_written {request : Request} {field : WrittenField Request}
    (hmem : field ∈ request.written) (depth : Nat) : field.IsRead shape (depth + 3) := by
  have hsource : Reads (readList (depth + 3) SourceFile.shape.read)
      (arrayText (request.source.map SourceFile.text)) request.source :=
    Reads.list fun file _ => file.reads_text depth
  rw [written, List.mem_append] at hmem
  rcases hmem with hmem | hmem
  · simp only [List.mem_cons, List.not_mem_nil, or_false] at hmem
    rcases hmem with rfl | rfl
    · exact ⟨rfl, Reads.field "team" (fun _ => readText)
        (fun value (other : Request) => { other with team := value }) (depth + 3)
          (reads_stringText request.team)⟩
    · exact ⟨rfl, Reads.field "source" (fun depth => readList depth SourceFile.shape.read)
        (fun value (other : Request) => { other with source := value }) (depth + 3) hsource⟩
  · cases htests : request.tests with
    | none => simp [htests] at hmem
    | some names =>
        have hnames : Reads (readList (depth + 3) fun _ => readText)
            (arrayText (names.map stringText)) names :=
          Reads.list fun name _ => reads_stringText name
        have hoptional := hnames.optional (by simp [arrayText])
        simp only [htests, List.mem_singleton] at hmem
        subst hmem
        exact ⟨rfl, Reads.field "tests"
          (fun depth => readOptional (readList depth fun _ => readText))
          (fun value (other : Request) => { other with tests := value }) (depth + 3) hoptional⟩

theorem text_eq (request : Request) :
    request.text = objectText (request.written.map WrittenField.text) := by
  cases htests : request.tests <;> simp only [text, written, htests] <;> rfl

theorem store_written (request : Request) :
    Shape.storeWritten shape.blank request.written = request := by
  obtain ⟨team, source, tests⟩ := request
  cases tests <;> rfl

/-- A request is read back from its text. -/
theorem decode_text (request : Request) :
    shape.decode (String.ofList request.text) = .ok request := by
  have hnames : request.written.map WrittenField.name = ["team", "source"] ∨
      request.written.map WrittenField.name = ["team", "source", "tests"] := by
    cases htests : request.tests with
    | none => exact .inl (by simp only [written, htests]; rfl)
    | some names => exact .inr (by simp only [written, htests]; rfl)
  have hdistinct : (request.written.map WrittenField.name).Nodup := by
    rcases hnames with hnames | hnames <;> rw [hnames] <;> decide
  have hrequired : ∀ field ∈ shape.fields, field.required = true →
      field.name ∈ request.written.map WrittenField.name := by
    rcases hnames with hnames | hnames <;> rw [hnames] <;> decide
  have hreads : Reads (shape.read maxDepth) request.text request := by
    rw [text_eq]
    have hobject := Shape.reads_objectText (fun _ hmem => isRead_of_mem_written hmem 124)
      hdistinct hrequired
    rwa [store_written] at hobject
  exact Shape.decode_of_reads hreads

/-! ## Control characters -/

theorem isControlFree_sourceFile_text (file : SourceFile) : IsControlFree file.text := by
  apply isControlFree_objectText
  intro text hmem
  simp only [List.mem_cons, List.not_mem_nil, or_false] at hmem
  rcases hmem with rfl | rfl
  · exact isControlFree_memberText "filename" (isControlFree_stringText file.filename)
  · exact isControlFree_memberText "content" (isControlFree_stringText file.content)

/-- The text of a request holds no control characters, whatever its files hold. -/
theorem isControlFree_text (request : Request) : IsControlFree request.text := by
  have hsource : IsControlFree (arrayText (request.source.map SourceFile.text)) := by
    apply isControlFree_arrayText
    intro text hmem
    obtain ⟨file, -, rfl⟩ := List.mem_map.1 hmem
    exact isControlFree_sourceFile_text file
  apply isControlFree_objectText
  intro text hmem
  rcases List.mem_append.1 hmem with hmem | hmem
  · simp only [List.mem_cons, List.not_mem_nil, or_false] at hmem
    rcases hmem with rfl | rfl
    · exact isControlFree_memberText "team" (isControlFree_stringText request.team)
    · exact isControlFree_memberText "source" hsource
  · cases htests : request.tests with
    | none => simp [htests] at hmem
    | some names =>
        simp only [htests, List.mem_singleton] at hmem
        subst hmem
        apply isControlFree_memberText
        apply isControlFree_arrayText
        intro text hmem
        obtain ⟨name, -, rfl⟩ := List.mem_map.1 hmem
        exact isControlFree_stringText name

end Request

end ClassroomClient.Exchange
