/-
# Files that are not edited stay secret

Nobody else can tell what stands in the files that are only shown to the student. Two disks that
agree on the files that are edited and on which files can be read lead to the same run: the client
starts or fails alike, and whatever is typed and whatever the server does, it puts the same on the
connections, asks for the same downloads and prints the same.

The pages of the two runs differ in contents that are withheld. No step lets such a content out, and
the only files that are read again are those that are edited, on which the disks agree.
-/

import ClassroomClient.Proofs.Client.View
import ClassroomClient.Proofs.Page.Files
import ClassroomClient.Proofs.Page.Withheld

namespace ClassroomClient

open Exchange

/-- The disks agree on which of the files can be read, on why the others cannot, and on the texts of
those that are edited. -/
structure AgreeOn (files : List FileSpec) (read other : FileReader) : Prop where
  unreadable : ∀ spec ∈ files, ∀ reason,
    other spec.path = .error reason ↔ read spec.path = .error reason
  edited : ∀ spec ∈ files, spec.kind = .edit → other spec.path = read spec.path

/-- The events differ at most in the disk that the client finds. -/
inductive Event.AlikeOn (files : List FileSpec) : Event → Event → Prop
  | same (event : Event) : AlikeOn files event event
  | disk {read other : FileReader} (hagree : AgreeOn files read other) (now : Int) :
      AlikeOn files (.advance read now) (.advance other now)

/-! ## Loading -/

/-- A file gets editors that differ in nothing but a content that is withheld. -/
theorem AgreeOn.freshEditor {files : List FileSpec} {read other : FileReader}
    (hagree : AgreeOn files read other) {spec : FileSpec} (hspec : spec ∈ files) :
    (freshEditor other spec).map Editor.redacted = (freshEditor read spec).map Editor.redacted := by
  unfold ClassroomClient.freshEditor readFile
  by_cases hkind : spec.kind = .edit
  · rw [hagree.edited spec hspec hkind]
  · have hblank (content shown : String) :
        (Editor.fresh (displayName spec.path) spec.kind shown).redacted =
          (Editor.fresh (displayName spec.path) spec.kind content).redacted := by
      simp [Editor.redacted, Editor.fresh, Editor.isSubmittable, hkind]
    cases hread : read spec.path with
    | error reason => rw [(hagree.unreadable spec hspec reason).2 hread]
    | ok content =>
        cases hother : other spec.path with
        | error reason =>
            rw [(hagree.unreadable spec hspec reason).1 hother] at hread
            cases hread
        | ok shown => exact congrArg Except.ok (hblank content shown)

/-- Disks that agree load pages that differ in nothing but withheld contents, or fail alike. -/
theorem AgreeOn.loadPage {files : List FileSpec} {read other : FileReader}
    (hagree : AgreeOn files read other) :
    (loadPage other files).map Page.redacted = (loadPage read files).map Page.redacted := by
  have hredacted (disk : FileReader) (specs : List FileSpec) :
      (specs.mapM (ClassroomClient.freshEditor disk)).map (List.map Editor.redacted) =
        specs.mapM fun spec => (ClassroomClient.freshEditor disk spec).map Editor.redacted := by
    induction specs with
    | nil => rfl
    | cons spec rest ih =>
        rw [List.mapM_cons, List.mapM_cons, ← ih]
        cases ClassroomClient.freshEditor disk spec with
        | error error => rfl
        | ok editor => cases rest.mapM (ClassroomClient.freshEditor disk) <;> rfl
  have heditors (specs : List FileSpec) (hspecs : ∀ spec ∈ specs, spec ∈ files) :
      (specs.mapM fun spec => (ClassroomClient.freshEditor other spec).map Editor.redacted) =
        specs.mapM fun spec => (ClassroomClient.freshEditor read spec).map Editor.redacted := by
    induction specs with
    | nil => rfl
    | cons spec rest ih =>
        rw [List.mapM_cons, List.mapM_cons, hagree.freshEditor (hspecs spec List.mem_cons_self),
          ih fun spec hspec => hspecs spec (List.mem_cons_of_mem _ hspec)]
  have hpage (disk : FileReader) : (ClassroomClient.loadPage disk files).map Page.redacted =
      ((files.mapM (ClassroomClient.freshEditor disk)).map (List.map Editor.redacted)).map
        fun editors => { Page.empty with editors } := by
    rw [loadPage_eq]
    cases files.mapM (ClassroomClient.freshEditor disk) <;> rfl
  rw [hpage, hpage, hredacted, hredacted, heditors files fun _ hspec => hspec]

/-- Either neither page can be loaded, for the same reason, or both can. -/
theorem AgreeOn.cases_loadPage {files : List FileSpec} {read other : FileReader}
    (hagree : AgreeOn files read other) :
    (∃ error, ClassroomClient.loadPage read files = .error error ∧
        ClassroomClient.loadPage other files = .error error) ∨
      ∃ page shown, ClassroomClient.loadPage read files = .ok page ∧
        ClassroomClient.loadPage other files = .ok shown ∧ shown.redacted = page.redacted := by
  have hload := hagree.loadPage
  cases hread : ClassroomClient.loadPage read files with
  | error error =>
      cases hother : ClassroomClient.loadPage other files with
      | error reason =>
          rw [hread, hother] at hload
          cases hload
          exact .inl ⟨error, rfl, rfl⟩
      | ok shown =>
          rw [hread, hother] at hload
          cases hload
  | ok page =>
      cases hother : ClassroomClient.loadPage other files with
      | error reason =>
          rw [hread, hother] at hload
          cases hload
      | ok shown =>
          rw [hread, hother] at hload
          exact .inr ⟨page, shown, rfl, rfl, Except.ok.inj hload⟩

namespace Client

/-- The run of a client from its start on: whether it can start, and what it puts out. -/
def execute (config : Config) (read : FileReader) (attempt : Channel → Attempt)
    (meanwhile : Task → List Incident) (events : List Event) :
    Except ClientError Unit × List Output :=
  match start config read attempt meanwhile with
  | (.error error, outputs) => (.error error, outputs)
  | (.ok client, outputs) => (.ok (), outputs ++ (client.run events).2)

/-- All outputs are seen, and of the page all but the contents that are withheld. -/
def outsideView : View Output where
  Alike page other := other.redacted = page.redacted
  seen? := some
  perform {page other} hsame happening := by
    rw [← Page.redacted_perform other, hsame, Page.redacted_perform]
  isDisabled {page other} hsame action := by
    rw [← Page.isDisabled_redacted other, hsame, Page.isDisabled_redacted]
  request {page other} hsame team action := by
    rw [← Page.request_redacted other, hsame, Page.request_redacted]
  region {page other} hsame name := by
    rw [← Page.printRegion_redacted other, hsame, Page.printRegion_redacted]
  reloaded {page other} hsame := by
    rw [← Page.reloadCount_redacted other, hsame, Page.reloadCount_redacted]
  display {page other} hsame := by
    rw [← Page.display_redacted other, hsame, Page.display_redacted]

theorem seen_outsideView (outputs : List Output) : outsideView.seen outputs = outputs := by
  rw [View.seen, show outsideView.seen? = some from rfl, List.filterMap_some]

/-! ## Reading again -/

/-- A running client has this configuration, and of its files only those that are edited are left to
be read again. -/
structure Rereads (config : Config) (client : Client) : Prop where
  configured : client.stage ≠ .ended → client.config = config
  editable : ∀ action left, client.stage = .refreshing action left →
    ∀ spec ∈ left, spec ∈ config.editableFiles

/-- A stage on which no file is left asks for no more than the configuration. -/
theorem Rereads.of_moves {config : Config} {client : Client} (hrereads : Rereads config client)
    {page : Page} {stage : Stage} {listings : Nat} {result : Client × List Output}
    (hrunning : client.stage ≠ .ended) (hmoves : client.Moves page stage listings result)
    (hleft : ∀ action left, stage = .refreshing action left →
      ∀ spec ∈ left, spec ∈ config.editableFiles) : Rereads config result.1 where
  configured _ := hmoves.config.trans (hrereads.configured hrunning)
  editable := by
    rw [hmoves.stage]
    exact hleft

theorem Rereads.step {config : Config} {client : Client} (hrereads : Rereads config client)
    (event : Event) : Rereads config (client.step event).1 := by
  by_cases hended : client.stage = .ended
  · rw [step_of_ended hended]
    exact hrereads
  have hchange := client.step_change event
  generalize client.step event = result at hchange ⊢
  cases hchange with
  | quiet hmoves => exact hrereads.of_moves hended hmoves hrereads.editable
  | stopped hrenders hmoves => exact hrereads.of_moves hended hmoves hrereads.editable
  | started hrenders hmoves => exact hrereads.of_moves hended hmoves hrereads.editable
  | began hready hlines haction hmoves =>
      apply hrereads.of_moves hended hmoves
      intro action left hstage spec hspec
      cases hstage
      rwa [hrereads.configured hended] at hspec
  | refreshed hbefore hmoves =>
      apply hrereads.of_moves hended hmoves
      intro action left hstage spec hspec
      cases hstage
      exact hrereads.editable _ _ hbefore spec (List.mem_cons_of_mem _ hspec)
  | asked hready hmoves => exact hrereads.of_moves hended hmoves nofun
  | listed hrunning hlisting hmoves => exact hrereads.of_moves hended hmoves nofun
  | unserved hstage hcontrol hmoves => exact hrereads.of_moves hended hmoves nofun
  | refused hstage hdisabled hanswer hmoves => exact hrereads.of_moves hended hmoves nofun
  | prepared hstage henabled hmoves => exact hrereads.of_moves hended hmoves nofun
  | sent hstage hmoves => exact ⟨fun _ => hmoves.config.trans (hrereads.configured hended), by
      rw [hmoves.stage]
      nofun⟩
  | ended hready hpage hlast => exact ⟨fun hrunning => absurd hlast hrunning, by
      rw [hlast]
      nofun⟩

/-- A turn does the same on disks that agree. -/
theorem Rereads.step_advance {config : Config} {client : Client} (hrereads : Rereads config client)
    {read other : FileReader} (hagree : AgreeOn config.files read other) (now : Int) :
    client.step (.advance other now) = client.step (.advance read now) := by
  unfold Client.step
  dsimp only
  unfold advance
  split
  · rfl
  · split
    · rfl
    · rfl
    · rfl
    · next action spec left hstage =>
      have hspec := hrereads.editable action _ hstage spec List.mem_cons_self
      rw [Config.editableFiles, List.mem_filter, beq_iff_eq] at hspec
      rw [refreshEditor, refreshEditor, hagree.edited spec hspec.1 hspec.2]
    · rfl
    · rfl

/-! ## Runs -/

/-- Events that differ in disks that agree have the same outcome on pages that differ in withheld
contents. -/
theorem matches_of_alikeOn {config : Config} {client : Client} {page : Page}
    {event other : Event} (hrereads : Rereads config client)
    (hpage : outsideView.Alike client.page page) (halike : event.AlikeOn config.files other) :
    outsideView.Matches (client.step event) ((client.withPage page).step other) := by
  cases halike with
  | same => exact outsideView.matches_step hpage event
  | @disk read disk hagree now =>
      have hother : Rereads config (client.withPage page) :=
        ⟨hrereads.configured, hrereads.editable⟩
      rw [hother.step_advance hagree]
      exact outsideView.matches_step hpage (.advance read now)

theorem matches_run_of_alikeOn {config : Config} {client : Client} {page : Page}
    {events others : List Event} (hrereads : Rereads config client)
    (hpage : outsideView.Alike client.page page)
    (hevents : List.Forall₂ (Event.AlikeOn config.files) events others) :
    outsideView.Matches (client.run events) ((client.withPage page).run others) := by
  induction hevents generalizing client page with
  | nil => exact ⟨rfl, hpage, rfl⟩
  | cons halike _ ih =>
      have hstep := matches_of_alikeOn hrereads hpage halike
      have hrest := ih (hrereads.step _) hstep.page
      rw [← hstep.same] at hrest
      exact hstep.append hrest

/-- Runs on disks that agree cannot be told apart: either neither client starts, for the same
reason, or both put out the same from the start on. -/
theorem execute_eq_of_agreeOn {config : Config} {read other : FileReader}
    {events others : List Event} (hdisk : AgreeOn config.files read other)
    (hevents : List.Forall₂ (Event.AlikeOn config.files) events others)
    (attempt : Channel → Attempt) (meanwhile : Task → List Incident) :
    execute config other attempt meanwhile others =
      execute config read attempt meanwhile events := by
  unfold execute start
  rcases hdisk.cases_loadPage with ⟨error, hread, hother⟩ | ⟨page, shown, hread, hother, hshown⟩
  · rw [hread, hother]
  rw [hread, hother]
  dsimp only
  rcases hresult : ((Manager.empty : Manager Unit).opening config () attempt meanwhile).result with
    error | _
  · rfl
  let begun := opened config page (firstOpening config attempt meanwhile)
  have halike : outsideView.Alike begun.page shown := hshown
  have hfetch : outsideView.Matches (begun.fetchListing .listing)
      ((begun.withPage shown).fetchListing .listing) :=
    outsideView.matches_fetchListing halike .listing
  have hbegun : Rereads config begun := ⟨fun _ => rfl, nofun⟩
  have hrereads : Rereads config (begun.fetchListing .listing).1 := by
    rcases begun.moves_fetchListing with hmoves | hmoves
    · exact hbegun.of_moves nofun hmoves nofun
    · exact hbegun.of_moves nofun hmoves nofun
  have hrun := matches_run_of_alikeOn hrereads hfetch.page hevents
  rw [← hfetch.same] at hrun
  have hfetched := hfetch.seen
  have houtputs := hrun.seen
  rw [seen_outsideView, seen_outsideView] at hfetched houtputs
  change (_, (wireOutputs _ ++ _ :: ((begun.withPage shown).fetchListing .listing).2) ++ _) = _
  rw [hfetched]
  exact congrArg (fun later => (Except.ok (), _ ++ later)) houtputs

/-- The page is shown and a submission is sent, although a file that is not edited differs and even
has the name of the one that is. -/
theorem execute_eq_of_agreeOn_shown :
    let files : List FileSpec := [{ path := "shown/X.java", kind := .readOnly },
      { path := "X.java", kind := .edit }, { path := "Task.md", kind := .task }]
    let disk (text : String) : FileReader := fun path =>
      .ok (if path = "X.java" then "class X {}" else text)
    let events (text : String) : List Event := [.answer 0 (.failed "refused"), .line "show",
      .line "submit"] ++ List.replicate 5 (.advance (disk text) 0)
    let run (text : String) : Except ClientError Unit × List Output :=
      execute { Session.localConfig with files } (disk text) (fun _ => Manager.grantedAttempt)
        (fun _ => []) (events text)
    AgreeOn files (disk "one") (disk "two") ∧ disk "one" "Task.md" ≠ disk "two" "Task.md" ∧
      (Output.wires (run "one").2).length = 10 ∧ run "two" = run "one" := by
  intro files disk events run
  have hagree : AgreeOn files (disk "one") (disk "two") := by
    constructor
    · intro spec hspec reason
      simp [disk]
    · simp [files, disk]
  have hevents : List.Forall₂ (Event.AlikeOn files) (events "one") (events "two") :=
    .cons (.same _) (.cons (.same _) (.cons (.same _) (.cons (.disk hagree 0) (.cons
      (.disk hagree 0) (.cons (.disk hagree 0) (.cons (.disk hagree 0) (.cons (.disk hagree 0)
        .nil)))))))
  exact ⟨hagree, by simp [disk], by decide +kernel, execute_eq_of_agreeOn hagree hevents _ _⟩

end Client

end ClassroomClient
