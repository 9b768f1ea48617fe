/-
# Files that are read again

Before the request of an action is built, the files that can be edited are read again, one in each
turn. Where all files are shown under names of their own, the request then carries the text that
each of them has on the disk, or the text it was loaded with if it cannot be read any more.

An editor is found by its name, so this fails for files of one name in different directories, and
for a path that is given with two kinds. The first editor of the name takes over the texts of all
of them, of which the last one stays, and the others go on with what they were loaded with. A
request can then carry the text of one file under the entry of another and an old text under its
own.
-/

import ClassroomClient.Proofs.Client.Lock
import ClassroomClient.Proofs.Page.Files
import Mathlib.Data.List.Nodup

namespace ClassroomClient

/-- The text with which a file was loaded. -/
def loadedText (disk : FileReader) (spec : FileSpec) : String :=
  (disk spec.path).toOption.getD ""

/-- The text of a file after it has been read again, which only a file that can be edited is. -/
def currentText (disk later : FileReader) (spec : FileSpec) : String :=
  if spec.kind = .edit then (later spec.path).toOption.getD (loadedText disk spec)
  else loadedText disk spec

variable {disk later : FileReader} {files : List FileSpec} {page : Page}

/-- A loaded page shows every file with the text that it was loaded with. -/
theorem editors_of_loadPage (hload : loadPage disk files = .ok page) :
    page.editors = files.map fun spec =>
      .fresh (displayName spec.path) spec.kind (loadedText disk spec) := by
  have heditors := forall₂_of_loadPage hload
  clear hload
  generalize page.editors = editors at heditors
  induction heditors with
  | nil => rfl
  | @cons spec editor _ _ hfresh _ ih =>
      obtain ⟨content, hread, rfl⟩ := freshEditor_eq_ok hfresh
      rw [List.map_cons, ih, loadedText, hread]
      rfl

/-- Read again, the first editor of a name takes over the last text that is read under the name,
and the others keep theirs. -/
theorem editors_of_refreshEditors (hload : loadPage disk files = .ok page)
    (reread : List FileSpec) :
    (refreshEditors later page reread).editors = files.mapIdx fun i spec =>
      (Editor.fresh (displayName spec.path) spec.kind (loadedText disk spec)).renewed
        ((displayNames files).take i) (lastRead? later reread (displayName spec.path)) := by
  apply List.ext_getElem?
  intro i
  rw [getElem?_refreshEditors, map_filename_of_loadPage hload, editors_of_loadPage hload,
    List.getElem?_map, List.getElem?_mapIdx, Option.map_map]
  rfl

/-- Files with names of their own are all shown with their current texts. -/
theorem editors_of_nodup (hload : loadPage disk files = .ok page)
    (hnames : (displayNames files).Nodup) :
    (refreshEditors later page (files.filter (·.kind == .edit))).editors =
      files.map fun spec =>
        .fresh (displayName spec.path) spec.kind (currentText disk later spec) := by
  rw [editors_of_refreshEditors hload]
  apply List.ext_getElem?
  intro i
  rw [List.getElem?_mapIdx, List.getElem?_map]
  cases hspec : files[i]? with
  | none => rfl
  | some spec =>
      have hmem : spec ∈ files := List.mem_of_getElem? hspec
      have hunique (other : FileSpec) (hother : other ∈ files)
          (hname : displayName other.path = displayName spec.path) : other = spec :=
        List.inj_on_of_nodup_map hnames hother hmem hname
      have hbefore : displayName spec.path ∉ (displayNames files).take i := by
        have hat : ((displayNames files).drop i)[0]? = some (displayName spec.path) := by
          simp [displayNames, hspec]
        intro htaken
        exact List.disjoint_take_drop hnames (Nat.le_refl i) htaken (List.mem_of_getElem? hat)
      have hfound : lastRead? later (files.filter (·.kind == .edit)) (displayName spec.path) =
          if spec.kind = .edit then (later spec.path).toOption else none := by
        by_cases hkind : spec.kind = .edit
        · rw [if_pos hkind]
          apply lastRead?_of_unique
          · simp [hmem, hkind]
          · intro other hother hname
            exact hunique other (List.mem_of_mem_filter hother) hname
        · rw [if_neg hkind]
          apply lastRead?_eq_none
          intro other hother hname
          rw [List.mem_filter] at hother
          rw [hunique other hother.1 hname] at hother
          exact hkind (beq_iff_eq.1 hother.2)
      rw [Option.map_some, Option.map_some, hfound]
      by_cases hkind : spec.kind = .edit
      · simp [Editor.renewed, Editor.fresh, currentText, hbefore, hkind]
      · simp [Editor.renewed, Editor.fresh, currentText, hkind]

/-- A file that can be edited is sent with its current text, under an entry of its own. -/
theorem sources_of_nodup (hload : loadPage disk files = .ok page)
    (hnames : (displayNames files).Nodup) :
    (refreshEditors later page (files.filter (·.kind == .edit))).sources =
      (files.filter (·.kind == .edit)).map fun spec =>
        { filename := displayName spec.path, content := currentText disk later spec } := by
  have hsubmittable (name content : String) (kind : FileKind) :
      (Editor.fresh name kind content).isSubmittable = (kind == .edit) := by
    cases kind <;> rfl
  rw [Page.sources, editors_of_nodup hload hnames, List.filter_map, List.map_map]
  simp only [Function.comp_def, hsubmittable]
  rfl

/-- Reading files again keeps the lock. -/
theorem lockState_refreshEditors (read : FileReader) (page : Page) (files : List FileSpec) :
    (refreshEditors read page files).lockState = page.lockState := by
  induction files generalizing page with
  | nil => rfl
  | cons spec rest ih => exact (ih _).trans (lockState_refreshEditor read page spec)

namespace Client

variable {client : Client} {action : Action}

/-- The files that are left are read again in a turn for each, and nothing else happens. -/
theorem run_turns_of_rereading {left : List FileSpec}
    (hstage : client.stage = .refreshing action left) (read : FileReader) (now : Int) :
    client.run (turns (left.map fun _ => (read, now))) =
      ({ client with page := refreshEditors read client.page left,
                     stage := .refreshing action [] }, []) := by
  induction left generalizing client with
  | nil =>
      rw [← hstage]
      rfl
  | cons spec left ih =>
      have hrunning : client.stage ≠ .ended := by
        rw [hstage]
        nofun
      have hnext : client.step (.advance read now) =
          ({ client with page := refreshEditor read client.page spec,
                         stage := .refreshing action left }, []) := by
        rw [step, if_neg hrunning]
        simp only [advance, hstage]
      have hrest := @ih { client with page := refreshEditor read client.page spec,
                                      stage := .refreshing action left } rfl
      change client.run (.advance read now :: turns (left.map fun _ => (read, now))) = _
      rw [run_cons, hnext, hrest]
      rfl

/-- The first action after the start reads the files that can be edited again. Its request is built
of what the editors show then, and where all files have names of their own, that is the current text
of each. -/
theorem request_of_rereading (hload : loadPage disk client.config.files = .ok client.page)
    (hstage : client.stage = .refreshing action client.config.editableFiles)
    (hcontrol : client.hasControl = true) (later : FileReader) (now : Int) :
    ∃ refreshed request,
      client.run (turns (client.config.editableFiles.map fun _ => (later, now))) =
          ({ client with page := refreshed, stage := .refreshing action [] }, []) ∧
        (step { client with page := refreshed, stage := .refreshing action [] }
          (.advance later now)).1.stage = .sending action request ∧
        request.source = refreshed.sources ∧
        (refreshed.editors = client.config.files.mapIdx fun i spec =>
          (Editor.fresh (displayName spec.path) spec.kind (loadedText disk spec)).renewed
            ((displayNames client.config.files).take i)
            (lastRead? later client.config.editableFiles (displayName spec.path))) ∧
        ((displayNames client.config.files).Nodup →
          (refreshed.editors = client.config.files.map fun spec =>
            .fresh (displayName spec.path) spec.kind (currentText disk later spec)) ∧
          request.source = client.config.editableFiles.map fun spec =>
            { filename := displayName spec.path, content := currentText disk later spec }) := by
  let refreshed := refreshEditors later client.page client.config.editableFiles
  let reread : Client := { client with page := refreshed, stage := .refreshing action [] }
  have hopen : refreshed.IsOpen :=
    (isOpen_of_loadPage hload).of_lockState (lockState_refreshEditors later client.page _)
  have hprepared : (reread.step (.advance later now)).1.stage =
      .sending action (Submission.request client.config.team refreshed action) := by
    have hrunning : reread.stage ≠ .ended := nofun
    have hprepare : reread.prepareAction action = _ :=
      prepareAction_of_enabled hcontrol (hopen.enabled action)
    rw [step, if_neg hrunning]
    exact congrArg (·.1.stage) hprepare
  refine ⟨refreshed, Submission.request client.config.team refreshed action,
    run_turns_of_rereading hstage later now, hprepared, rfl, editors_of_refreshEditors hload _, ?_⟩
  intro hnames
  exact ⟨editors_of_nodup hload hnames, sources_of_nodup hload hnames⟩

/-- One file is sent with its new text and one that cannot be read any more with its old text. A
test is not read again and not sent. -/
theorem request_of_rereading_unreadable :
    let files : List FileSpec := [{ path := "src/A.java", kind := .edit },
      { path := "src/B.java", kind := .edit }, { path := "TestA.java", kind := .test }]
    let config : Config := { Session.localConfig with files }
    let disk : FileReader := fun _ => .ok "old"
    let later : FileReader := fun path => if path = "src/B.java" then .error "gone" else .ok "new"
    ∃ client outputs refreshed request,
      start config disk (fun _ => Manager.grantedAttempt) = (.ok client, outputs) ∧
        let asked :=
          (client.run [.answer 0 (.failed "refused"), .line "compile", .advance disk 0]).1
        asked.run (turns [(later, 1), (later, 1)]) =
            ({ asked with page := refreshed, stage := .refreshing .compile [] }, []) ∧
          (step { asked with page := refreshed, stage := .refreshing .compile [] }
            (.advance later 1)).1.stage = .sending .compile request ∧
          refreshed.editors.map Editor.content = ["new", "old", "old"] ∧
          request.source = [{ filename := "A.java", content := "new" },
            { filename := "B.java", content := "old" }] := by
  intro files config disk later
  obtain ⟨client, hclient⟩ : ∃ client,
      (start config disk fun _ => Manager.grantedAttempt).1 = .ok client :=
    exists_of_isOk (by decide +kernel)
  let page : Page := ((Page.empty.addEditor (.fresh "A.java" .edit "old")).addEditor
    (.fresh "B.java" .edit "old")).addEditor (.fresh "TestA.java" .test "old")
  have hload : loadPage disk files = .ok page := by decide
  have hstarted : ((start config disk fun _ => Manager.grantedAttempt).1.toOption.map fun client =>
      let asked := (client.run [.answer 0 (.failed "refused"), .line "compile", .advance disk 0]).1
      (asked.config.files, asked.page, asked.stage, asked.hasControl)) =
      some (files, page, .refreshing .compile config.editableFiles, true) := by
    decide +kernel
  rw [hclient] at hstarted
  simp only [Except.toOption, Option.map_some, Option.some.injEq, Prod.mk.injEq] at hstarted
  refine ⟨client, ?_⟩
  generalize (client.run [.answer 0 (.failed "refused"), .line "compile",
    .advance disk 0]).1 = asked at hstarted ⊢
  obtain ⟨hfiles, hpage, hstage, hcontrol⟩ := hstarted
  have heditable : asked.config.editableFiles = config.editableFiles := by
    rw [Config.editableFiles, hfiles]
    rfl
  rw [← hfiles, ← hpage] at hload
  rw [← heditable] at hstage
  obtain ⟨refreshed, request, hrun, hnext, _, _, hdistinct⟩ :=
    request_of_rereading hload hstage hcontrol later 1
  rw [hfiles, heditable] at hdistinct
  obtain ⟨heditors, hsource⟩ := hdistinct (by decide)
  rw [heditable] at hrun
  refine ⟨_, refreshed, request, Prod.ext hclient rfl, hrun, hnext, ?_, ?_⟩
  · rw [heditors]
    decide
  · rw [hsource]
    decide

/-- Two files of one name in different directories. The first editor has got the text of the second
file, and the second one has kept its old text. -/
theorem rereading_confuses_names :
    let files : List FileSpec :=
      [{ path := "a/X.java", kind := .edit }, { path := "b/X.java", kind := .edit }]
    let disk : FileReader := fun path => .ok (if path = "a/X.java" then "old a" else "old b")
    let later : FileReader := fun path => .ok (if path = "a/X.java" then "new a" else "new b")
    ∃ page, loadPage disk files = .ok page ∧
      (refreshEditors later page (files.filter (·.kind == .edit))).sources =
        [{ filename := "X.java", content := "new b" },
          { filename := "X.java", content := "old b" }] ∧
      (refreshEditors later page (files.filter (·.kind == .edit))).editors ≠ files.map fun spec =>
        .fresh (displayName spec.path) spec.kind (currentText disk later spec) :=
  ⟨_, rfl, by decide, by decide⟩

end Client

end ClassroomClient
