/-
# What a new round leaves of the past

A new round starts the page over. Of all that happened before, it keeps the files with their
contents and the number of rounds; the results, the lock, the chosen tests and every region are
gone. So two runs that begin on the same page cannot be told apart behind their last new round, once
they have seen equally many rounds and left the same contents in the editors. What a run cannot
change either is what belongs to the assignment in every editor: its name, its kind and whether it
is read-only.
-/

import ClassroomClient.Client.Step
import ClassroomClient.Proofs.Page.Files
import ClassroomClient.Proofs.Page.Responses

namespace ClassroomClient

open Exchange

/-! ## Editors -/

namespace Editor

/-- What the assignment says about the file of an editor. -/
def assigned (editor : Editor) : String × FileKind × Bool :=
  (editor.filename, editor.kind, editor.readOnly)

/-- The editor with its lock lifted. -/
def unlocked (editor : Editor) : Editor := { editor with locked := false }

/-- The unlocked editor of a file with a content. -/
def ofAssigned (file : String × FileKind × Bool) (content : String) : Editor where
  filename := file.1
  kind := file.2.1
  content
  readOnly := file.2.2
  locked := false

/-- Unlocked editors are made of their files and contents. -/
theorem map_unlocked (editors : List Editor) :
    editors.map unlocked =
      List.zipWith ofAssigned (editors.map assigned) (editors.map content) := by
  rw [List.zipWith_map, List.zipWith_self]
  rfl

end Editor

namespace Page

/-- The files of the editors, as the assignment has them. -/
def files (page : Page) : List (String × FileKind × Bool) := page.editors.map Editor.assigned

theorem map_assigned_setFirstContent (filename content : String) (editors : List Editor) :
    (setFirstContent filename content editors).map Editor.assigned =
      editors.map Editor.assigned := by
  induction editors with
  | nil => rfl
  | cons editor rest ih =>
      unfold setFirstContent
      split
      · rfl
      · rw [List.map_cons, List.map_cons, ih]

/-- Locking all editors or none leaves their files alone. -/
theorem map_assigned_lock (locked : Bool) (editors : List Editor) :
    (editors.map fun editor => { editor with locked }).map Editor.assigned =
      editors.map Editor.assigned := by
  rw [List.map_map]
  rfl

theorem files_render (page : Page) (now : Int) (notification : Notification) :
    (page.render now notification).1.files = page.files := by
  cases notification with
  | testResult feedback =>
      unfold render showTestResult
      dsimp only
      split <;> rfl
  | roundStart => exact map_assigned_lock false page.editors
  | roundStop notice => exact map_assigned_lock true page.editors
  | _ => rfl

theorem files_pageAfter (page : Page) (action : Action) :
    (Submission.pageAfter page action).files = page.files := by
  cases action with
  | submit => exact map_assigned_lock true page.editors
  | _ => rfl

/-- Nothing that happens to a page changes what the assignment says about its files. -/
theorem files_perform (page : Page) (happening : Happening) :
    (page.perform happening).files = page.files := by
  cases happening with
  | rendered now notification => exact page.files_render now notification
  | acted team action =>
      cases hdisabled : page.isDisabled action with
      | true => rw [(acted_of_disabled hdisabled team).1]
      | false => rw [(acted_of_enabled hdisabled team).1, files_pageAfter]
  | edited filename content => exact map_assigned_setFirstContent filename content page.editors
  | selected tests => rfl
  | written name text => rfl

theorem files_after (page : Page) (happenings : List Happening) :
    (page.after happenings).files = page.files := by
  induction happenings generalizing page with
  | nil => rfl
  | cons happening rest ih => rw [after_cons, ih, files_perform]

/-! ## Rounds -/

/-- A new round is counted, and nothing else is. -/
theorem reloadCount_perform (page : Page) (happening : Happening) :
    (page.perform happening).reloadCount =
      page.reloadCount + if happening.reloads then 1 else 0 := by
  cases happening with
  | rendered now notification =>
      cases notification with
      | testResult feedback =>
          simp only [perform, render, showTestResult]
          split <;> rfl
      | _ => rfl
  | acted team action =>
      cases hdisabled : page.isDisabled action with
      | true =>
          rw [(acted_of_disabled hdisabled team).1]
          rfl
      | false =>
          rw [(acted_of_enabled hdisabled team).1]
          cases action <;> rfl
  | _ => rfl

theorem reloadCount_after (page : Page) (happenings : List Happening) :
    (page.after happenings).reloadCount =
      page.reloadCount + happenings.countP Happening.reloads := by
  induction happenings generalizing page with
  | nil => rfl
  | cons happening rest ih =>
      rw [after_cons, ih, reloadCount_perform, List.countP_cons, Nat.add_assoc,
        Nat.add_comm (ite _ _ _)]

/-- The page that a new round leaves: the files with their contents, and no more of the past than
the number of rounds. -/
theorem render_roundStart (page : Page) (now : Int) :
    (page.render now .roundStart).1 =
      { Page.empty with
        editors :=
          List.zipWith Editor.ofAssigned page.files (page.editors.map Editor.content)
        reloadCount := page.reloadCount + 1
        updatedAt := some now } := by
  rw [files, ← Editor.map_unlocked]
  rfl

/-! ## What comes of a run -/

/-- What comes of something that happens to a page: what has to be fetched and what is printed after
a notification, the request of an action or its refusal, and what is printed of a region that has
been written. -/
inductive Outcome
  | rendered (next : FollowUp) (printed : List Output)
  | acted (result : Except DispatchError Request)
  | written (printed : List Output)
  | quiet

/-- What has to be fetched after a notification. -/
def Outcome.followUp? : Outcome → Option FollowUp
  | .rendered next _ => some next
  | _ => none

/-- What comes of something that happens to the page. -/
def outcome (page : Page) : Happening → Outcome
  | .rendered now notification =>
    let (after, next) := page.render now notification
    .rendered next (Client.announce after notification)
  | .acted team action => .acted (Submission.prepare team page action).2
  | .written name text => .written (Client.printRegion (page.setRegion name text) name)
  | .edited _ _ | .selected _ => .quiet

/-- What comes of a run, each outcome with the page after it. -/
def outcomes (page : Page) : List Happening → List (Outcome × Page)
  | [] => []
  | happening :: rest =>
    (page.outcome happening, page.perform happening) :: (page.perform happening).outcomes rest

/-- Everything has to be fetched again after a new round, and after nothing else. -/
theorem followUp?_outcome (page : Page) (happening : Happening) :
    (page.outcome happening).followUp? = some .reloaded ↔ happening.reloads = true := by
  cases happening with
  | rendered now notification =>
      cases notification <;> simp [outcome, Outcome.followUp?, render, Happening.reloads]
  | _ => simp [outcome, Outcome.followUp?, Happening.reloads]

theorem forall₂_outcomes (page : Page) (happenings : List Happening) :
    List.Forall₂ (fun result happening =>
      result.1.followUp? = some .reloaded ↔ happening.reloads = true)
      (page.outcomes happenings) happenings := by
  induction happenings generalizing page with
  | nil => exact .nil
  | cons happening rest ih => exact .cons (page.followUp?_outcome happening) (ih _)

/-- A page that was just loaded has seen no new round. -/
theorem reloadCount_of_loadPage {read : FileReader} {specs : List FileSpec} {page : Page}
    (hload : loadPage read specs = .ok page) : page.reloadCount = 0 := by
  apply loadPage_induction hload
  · rfl
  · intro page name kind content hcount
    exact hcount

/-- A run that ends with a new round ends on a page on which nothing is left of it but the contents
of the editors and the number of rounds. -/
theorem after_of_getLast? {page : Page} {happenings : List Happening} {now : Int}
    (hlast : happenings.getLast? = some (.rendered now .roundStart)) :
    page.after happenings =
      { Page.empty with
        editors := List.zipWith Editor.ofAssigned page.files
          ((page.after happenings).editors.map Editor.content)
        reloadCount := page.reloadCount + happenings.countP Happening.reloads
        updatedAt := some now } := by
  obtain ⟨earlier, rfl⟩ := List.getLast?_eq_some_iff.1 hlast
  have hend : page.after (earlier ++ [.rendered now .roundStart]) =
      ((page.after earlier).render now .roundStart).1 := by
    rw [after_append]
    rfl
  have hcontents : (((page.after earlier).render now .roundStart).1.editors.map Editor.content) =
      (page.after earlier).editors.map Editor.content :=
    List.map_map
  have hcount := page.reloadCount_after (earlier ++ [.rendered now .roundStart])
  rw [hend] at hcount
  rw [hend, hcontents, ← hcount, render_roundStart, files_after]

/-- Two runs on a page that was just loaded, with whatever results, broadcasts, signals, actions,
edits and downloads in whatever order, end with a new round at the same time. If they have seen
equally many rounds and leave the same contents in the editors, they end on the same page, which
counts these rounds, and nothing that happens later can tell them apart. In every run a new round is
what makes everything be fetched again, once each time, and nothing else does. -/
theorem after_eq_of_reload {read : FileReader} {specs : List FileSpec} {page : Page}
    (hload : loadPage read specs = .ok page) {first second : List Happening} {now : Int}
    (hfirst : first.getLast? = some (.rendered now .roundStart))
    (hsecond : second.getLast? = some (.rendered now .roundStart))
    (hrounds : first.countP Happening.reloads = second.countP Happening.reloads)
    (hcontents : (page.after first).editors.map Editor.content =
      (page.after second).editors.map Editor.content) :
    page.after first = page.after second ∧
      (page.after first).reloadCount = first.countP Happening.reloads ∧
      (∀ run : List Happening, List.Forall₂ (fun result happening =>
        result.1.followUp? = some .reloaded ↔ happening.reloads = true)
        (page.outcomes run) run) ∧
      ∀ later, (page.after first).outcomes later = (page.after second).outcomes later := by
  have hcount := reloadCount_of_loadPage hload
  have hsame : page.after first = page.after second := by
    rw [after_of_getLast? hfirst, after_of_getLast? hsecond, hrounds, hcontents]
  refine ⟨hsame, ?_, page.forall₂_outcomes, fun later => by rw [hsame]⟩
  rw [reloadCount_after, hcount, Nat.zero_add]

/-- One run shows a result, is stopped and chooses tests, the other one submits and writes a region
between its rounds. Both have edited the file to the same text when their second round begins. -/
theorem after_eq_of_reload_noisy :
    let result : Feedback := { Feedback.empty with test := some "first", text := "failed" }
    let first : List Happening :=
      [.rendered 1 (.testResult result), .edited "A.java" "new", .rendered 2 .roundStart,
        .selected ["first"], .rendered 3 (.roundStop .empty), .rendered 9 .roundStart]
    let second : List Happening :=
      [.edited "A.java" "old", .rendered 4 .roundStart, .acted "team1" .submit,
        .written Region.rankings "1. team2", .edited "A.java" "new", .rendered 9 .roundStart]
    ∃ page, loadPage (fun _ => .ok "") [{ path := "A.java", kind := .edit }] = .ok page ∧
      first.getLast? = some (.rendered 9 .roundStart) ∧
      second.getLast? = some (.rendered 9 .roundStart) ∧
      first.countP Happening.reloads = second.countP Happening.reloads ∧
      (page.after first).editors.map Editor.content =
        (page.after second).editors.map Editor.content ∧
      page.after first = page.after second ∧ (page.after first).reloadCount = 2 := by
  intro result first second
  have hload : loadPage (fun _ => .ok "") [{ path := "A.java", kind := .edit }] =
      .ok (Page.empty.addEditor (.fresh "A.java" .edit "")) := rfl
  have hcontents : ((Page.empty.addEditor (.fresh "A.java" .edit "")).after first).editors.map
        Editor.content =
      ((Page.empty.addEditor (.fresh "A.java" .edit "")).after second).editors.map
        Editor.content := by
    decide
  have hfirst : first.getLast? = some (.rendered 9 .roundStart) := rfl
  have hsecond : second.getLast? = some (.rendered 9 .roundStart) := rfl
  obtain ⟨hsame, hcount, -, -⟩ := after_eq_of_reload hload hfirst hsecond rfl hcontents
  exact ⟨_, hload, hfirst, hsecond, rfl, hcontents, hsame, hcount⟩

end Page

end ClassroomClient
