/-
# The log of broadcasts

Broadcasts are shown in the region for responses, each as three lines: its team, its text and its
time. Appending puts a line feed between two texts unless the first of them is empty, so a line
would be lost if a region could hold an empty text. It cannot: the first line is the name of a team
with a colon. As long as no test takes the region over, it holds the lines of all broadcasts since
the last new round.
-/

import Mathlib.Data.List.Basic
import ClassroomClient.Proofs.Page.Shared

namespace ClassroomClient

open Exchange

namespace Page

/-! ## What the history says -/

/-- The feedback that is broadcast, if one is. -/
def Happening.broadcast? : Happening → Option Feedback
  | .rendered _ (.broadcast feedback) => some feedback
  | _ => none

/-- Whether a new round is rendered. -/
def Happening.reloads : Happening → Bool
  | .rendered _ .roundStart => true
  | _ => false

/-- The broadcasts that were rendered since the last new round, from the first to the last. -/
def broadcastsSince (happenings : List Happening) : List Feedback :=
  (happenings.reverse.takeWhile fun happening => !happening.reloads).reverse.filterMap
    Happening.broadcast?

/-- The lines of a broadcast. -/
def broadcastLines (feedback : Feedback) : List String :=
  [feedback.team ++ ": ", feedback.text, feedback.timeText]

variable {happenings : List Happening} {happening : Happening}

theorem broadcastsSince_concat_of_reloads (hreloads : happening.reloads = true) :
    broadcastsSince (happenings ++ [happening]) = [] := by
  simp [broadcastsSince, hreloads]

theorem broadcastsSince_concat (hkeeps : happening.reloads = false) :
    broadcastsSince (happenings ++ [happening]) =
      broadcastsSince happenings ++ happening.broadcast?.toList := by
  cases hbroadcast : happening.broadcast? <;> simp [broadcastsSince, hkeeps, hbroadcast]

/-! ## Appending lines -/

/-- A region holds lines, of which the first is not empty, or is absent without any. -/
structure HoldsLines (page : Page) (name : String) (lines : List String) : Prop where
  region : page.region? name = if lines = [] then none else some ("\n".intercalate lines)
  head_ne : lines.head? ≠ some ""

variable {page : Page} {name : String} {lines : List String}

/-- Lines of which the first is not empty make up a text that is not empty. -/
theorem intercalate_ne_empty (hnonempty : lines ≠ []) (hhead : lines.head? ≠ some "") :
    "\n".intercalate lines ≠ "" := by
  cases lines with
  | nil => exact absurd rfl hnonempty
  | cons first rest =>
      have hfirst : first ≠ "" := by simpa using hhead
      cases rest with
      | nil => simpa using hfirst
      | cons second others => simp [hfirst]

/-- What is appended stands behind a line feed, unless the region was empty. -/
theorem region?_appendRegion (page : Page) (name text : String) :
    (page.appendRegion name text).region? name =
      some (if ((page.region? name).getD "").isEmpty then text
        else (page.region? name).getD "" ++ "\n" ++ text) := by
  have hpanel := page.panel_setRegion name
    (if ((page.region? name).getD "").isEmpty then text
      else (page.region? name).getD "" ++ "\n" ++ text) name
  rw [if_pos rfl] at hpanel
  exact congrArg (·.1) hpanel

/-- A text becomes the next line. Only the first line must not be empty. -/
theorem HoldsLines.appendRegion (hholds : page.HoldsLines name lines) (text : String)
    (hfirst : lines = [] → text ≠ "") :
    (page.appendRegion name text).HoldsLines name (lines ++ [text]) := by
  have happended := page.region?_appendRegion name text
  by_cases hnone : lines = []
  · subst hnone
    have hregion : page.region? name = none := hholds.region
    constructor
    · rw [happended, hregion]
      simp
    · simpa using hfirst rfl
  · have hregion : page.region? name = some ("\n".intercalate lines) := by
      rw [hholds.region, if_neg hnone]
    have hold := intercalate_ne_empty hnone hholds.head_ne
    constructor
    · rw [happended, hregion, Option.getD_some, if_neg (by simpa using hold),
        if_neg (by simp), String.intercalate_append_of_ne_nil hnone (by simp),
        String.intercalate_singleton]
    · rw [List.head?_append_of_ne_nil _ hnone]
      exact hholds.head_ne

/-- A broadcast adds its three lines, even if its text or its time is empty. -/
theorem HoldsLines.showBroadcast (hholds : page.HoldsLines Region.response lines)
    (feedback : Feedback) :
    (page.showBroadcast feedback).HoldsLines Region.response
      (lines ++ broadcastLines feedback) := by
  have hteam : s!"{feedback.team}: " = feedback.team ++ ": " := rfl
  have hnonempty : feedback.team ++ ": " ≠ "" := by simp
  have hlines : lines ++ broadcastLines feedback =
      ((lines ++ [feedback.team ++ ": "]) ++ [feedback.text]) ++ [feedback.timeText] := by
    simp [broadcastLines]
  have hfirst := hholds.appendRegion (feedback.team ++ ": ") fun _ => hnonempty
  have hsecond := hfirst.appendRegion feedback.text (by simp)
  have hthird := hsecond.appendRegion feedback.timeText (by simp)
  rw [hlines, Page.showBroadcast, hteam]
  exact hthird

/-! ## The log -/

/-- The region for responses holds the broadcasts since the last new round, and is not known as the
region of a test. -/
structure Logs (page : Page) (happenings : List Happening) : Prop where
  holds : page.HoldsLines Region.response ((broadcastsSince happenings).flatMap broadcastLines)
  untracked : page.testRegions.contains Region.response = false

theorem HoldsLines.of_region {next : Page} (hholds : page.HoldsLines name lines)
    (hregion : next.region? name = page.region? name) : next.HoldsLines name lines where
  region := hregion.trans hholds.region
  head_ne := hholds.head_ne

/-- Nothing but a new round, broadcasts and writing changes what the region holds. -/
theorem written?_response {old : Option String} (hkeeps : happening.reloads = false)
    (hwritten : ∀ name text, happening = .written name text → name ≠ Region.response) :
    written? Region.response old happening = old := by
  cases happening with
  | rendered now notification =>
      cases notification with
      | roundStart => cases hkeeps
      | _ => rfl
  | written other text => exact if_neg (Ne.symm (hwritten other text rfl))
  | _ => rfl

/-- Whatever happens keeps the log, as long as no test takes the region over and nothing else is
written into it. -/
theorem Logs.perform (hlogs : page.Logs happenings) (hspares : happening.Spares Region.response)
    (hwritten : ∀ name text, happening = .written name text → name ≠ Region.response) :
    (page.perform happening).Logs (happenings ++ [happening]) := by
  cases hbroadcast : happening.broadcast? with
  | some feedback =>
      obtain ⟨now, rfl⟩ : ∃ now, happening = .rendered now (.broadcast feedback) := by
        unfold Happening.broadcast? at hbroadcast
        split at hbroadcast <;> cases hbroadcast
        exact ⟨_, rfl⟩
      have htouched : (page.touch now).HoldsLines Region.response _ := hlogs.holds.of_region rfl
      have hshown := htouched.showBroadcast feedback
      constructor
      · rw [broadcastsSince_concat rfl, List.flatMap_append]
        exact hshown
      · exact hlogs.untracked
  | none =>
      have hquiet : ∀ feedback, happening.notification? ≠ some (.broadcast feedback) := by
        intro feedback hnotification
        unfold Happening.notification? at hnotification
        split at hnotification <;> cases hnotification
        cases hbroadcast
      obtain ⟨hregion, huntracked⟩ :=
        region?_perform hlogs.untracked hspares (by decide) (.inr hquiet)
      refine ⟨?_, huntracked⟩
      cases hreloads : happening.reloads with
      | true =>
          rw [broadcastsSince_concat_of_reloads hreloads]
          have hstart : ∃ now, happening = .rendered now .roundStart := by
            unfold Happening.reloads at hreloads
            split at hreloads <;> cases hreloads
            exact ⟨_, rfl⟩
          obtain ⟨now, rfl⟩ := hstart
          exact ⟨rfl, nofun⟩
      | false =>
          rw [broadcastsSince_concat hreloads, hbroadcast, Option.toList_none, List.append_nil]
          rw [written?_response hreloads hwritten] at hregion
          exact hlogs.holds.of_region hregion

/-- The log is kept through a whole run. -/
theorem Logs.after (hlogs : page.Logs happenings) {later : List Happening}
    (hspares : ∀ happening ∈ later, happening.Spares Region.response)
    (hwritten : ∀ name text, .written name text ∈ later → name ≠ Region.response) :
    (page.after later).Logs (happenings ++ later) := by
  induction later generalizing page happenings with
  | nil =>
      rw [List.append_nil]
      exact hlogs
  | cons happening rest ih =>
      have hfirst : (page.perform happening).Logs (happenings ++ [happening]) := by
        apply hlogs.perform (hspares happening List.mem_cons_self)
        rintro name text rfl
        exact hwritten name text List.mem_cons_self
      have hrest := ih hfirst (fun other hmem => hspares other (List.mem_cons_of_mem _ hmem))
        fun name text hmem => hwritten name text (List.mem_cons_of_mem _ hmem)
      rw [List.append_assoc] at hrest
      exact hrest

/-- A page that was just loaded has no log. -/
theorem logs_of_loadPage {read : FileReader} {files : List FileSpec}
    (hload : loadPage read files = .ok page) : page.Logs [] := by
  apply loadPage_induction hload
  · exact ⟨⟨rfl, nofun⟩, rfl⟩
  · intro page name kind content hlogs
    exact ⟨hlogs.holds.of_region rfl, hlogs.untracked⟩

/-- However notifications, actions, edits and downloads follow each other on a page that was just
loaded, the region for responses is absent if nothing was broadcast since the last new round.
Otherwise it holds the lines of all broadcasts since then, in the order in which they were rendered:
team, text and time of each. Runs in which a test has the name of the region are left out. -/
theorem region_response_of_loadPage {read : FileReader} {files : List FileSpec}
    (hload : loadPage read files = .ok page) (happenings : List Happening)
    (hspares : ∀ now feedback, .rendered now (.testResult feedback) ∈ happenings →
      feedback.test ≠ some Region.response)
    (hwritten : ∀ name text, .written name text ∈ happenings → name ≠ Region.response) :
    (page.after happenings).region? Region.response =
      if broadcastsSince happenings = [] then none
      else some ("\n".intercalate ((broadcastsSince happenings).flatMap fun feedback =>
        [feedback.team ++ ": ", feedback.text, feedback.timeText])) := by
  have hspared : ∀ happening ∈ happenings, happening.Spares Region.response := by
    intro happening hmem feedback hnotification
    unfold Happening.notification? at hnotification
    split at hnotification <;> cases hnotification
    exact hspares _ feedback hmem
  have hlogs := (logs_of_loadPage hload).after hspared hwritten
  have hnone : (broadcastsSince happenings).flatMap broadcastLines = [] ↔
      broadcastsSince happenings = [] := by
    cases broadcastsSince happenings <;> simp [broadcastLines]
  rw [hlogs.holds.region, List.nil_append]
  simp only [hnone]
  rfl

/-- The broadcast before the new round is gone. Behind it stand one without text and time and, after
a test action and a listing, one of two lines. -/
theorem region_response_of_loadPage_restarted :
    let broadcast : String → String → Json.Value → Notification := fun team text time =>
      .broadcast { Feedback.empty with team, text, time }
    let happenings : List Happening :=
      [.rendered 1 (broadcast "team0" "old" .null), .rendered 2 .roundStart,
        .rendered 3 (broadcast "" "" .null), .acted "team1" .test,
        .written Region.files "A.java",
        .rendered 4 (.testResult { Feedback.empty with test := some "first", text := "failed" }),
        .rendered 5 (broadcast "team2" "a\nb" (.string "noon"))]
    ∃ page, loadPage (fun _ => .ok "class A {}") [{ path := "A.java", kind := .edit }] = .ok page ∧
      (page.after happenings).region? Region.response =
        some ": \n\n\nteam2: \na\nb\nnoon" := by
  intro broadcast happenings
  have hload : loadPage (fun _ => .ok "class A {}") [{ path := "A.java", kind := .edit }] =
      .ok (Page.empty.addEditor (.fresh "A.java" .edit "class A {}")) := rfl
  refine ⟨_, hload, ?_⟩
  have hregion := region_response_of_loadPage hload happenings
    (by simp [happenings, broadcast, Region.response])
    (by simp [happenings, Region.response, Region.files])
  exact hregion.trans (by decide)

end Page

end ClassroomClient
