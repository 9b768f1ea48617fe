/-
# Ways of looking at a client

A view says which pages look alike and what is seen of the outputs. Nothing that the client does to
a page may tell pages apart that look alike, and nothing that it decides from a page or prints of it
may be seen to differ. Two clients that differ in nothing but such pages then stay so at every step,
and no difference is seen in what they put out.

The work of a step is gone through once here. A statement about two runs chooses its view and has
only to look at the operations of the page.
-/

import ClassroomClient.Proofs.Client.Bodies
import ClassroomClient.Proofs.Page.Run

namespace ClassroomClient

open Exchange

/-- What has to be fetched after a notification does not depend on the page. -/
theorem Page.followUp_render (page other : Page) (now : Int) (notification : Notification) :
    (other.render now notification).2 = (page.render now notification).2 := by
  cases notification <;> rfl

namespace Client

/-- The client with another page. -/
def withPage (client : Client) (page : Page) : Client := { client with page }

section

variable (client : Client) (page : Page)

@[simp] theorem config_withPage : (client.withPage page).config = client.config := rfl

@[simp] theorem downloads_withPage : (client.withPage page).downloads = client.downloads := rfl

@[simp] theorem hasInput_withPage : (client.withPage page).hasInput = client.hasInput := rfl

@[simp] theorem lines_withPage : (client.withPage page).lines = client.lines := rfl

@[simp] theorem manager_withPage : (client.withPage page).manager = client.manager := rfl

@[simp] theorem page_withPage : (client.withPage page).page = page := rfl

@[simp] theorem queue_withPage : (client.withPage page).queue = client.queue := rfl

@[simp] theorem stage_withPage : (client.withPage page).stage = client.stage := rfl

@[simp] theorem watched_withPage : (client.withPage page).watched = client.watched := rfl

theorem fetchRankings_withPage :
    (client.withPage page).fetchRankings =
      (client.fetchRankings.1.withPage page, client.fetchRankings.2) := by
  unfold fetchRankings withPage
  dsimp only
  split
  · rfl
  · split <;> rfl

theorem fetchListing_withPage (purpose : Purpose) :
    (client.withPage page).fetchListing purpose =
      ((client.fetchListing purpose).1.withPage page, (client.fetchListing purpose).2) := by
  have hrankings := client.fetchRankings_withPage page
  unfold fetchListing
  rw [config_withPage]
  split
  · split
    · exact hrankings
    · rfl
  · rfl

end

/-- A way of looking at clients. -/
structure View (α : Type) where
  /-- Pages between which no difference is seen. -/
  Alike : Page → Page → Prop
  /-- What is seen of an output. -/
  seen? : Output → Option α
  perform : ∀ {page other}, Alike page other → ∀ happening,
    Alike (page.perform happening) (other.perform happening)
  isDisabled : ∀ {page other}, Alike page other → ∀ action,
    other.isDisabled action = page.isDisabled action
  request : ∀ {page other}, Alike page other → ∀ team action,
    Submission.request team other action = Submission.request team page action
  region : ∀ {page other}, Alike page other → ∀ name,
    (printRegion other name).filterMap seen? = (printRegion page name).filterMap seen?
  reloaded : ∀ {page other}, Alike page other →
    seen? (.print (Display.reloaded other.reloadCount)) =
      seen? (.print (Display.reloaded page.reloadCount))
  display : ∀ {page other}, Alike page other →
    seen? (.print (Display.page other)) = seen? (.print (Display.page page))

namespace View

variable {α : Type} (view : View α)

/-- What is seen of outputs. -/
def seen (outputs : List Output) : List α := outputs.filterMap view.seen?

theorem seen_append (first second : List Output) :
    view.seen (first ++ second) = view.seen first ++ view.seen second := List.filterMap_append

/-- The clients differ in nothing but pages that look alike, and no difference is seen in what was
put out. -/
structure Matches (first second : Client × List Output) : Prop where
  same : second.1 = first.1.withPage second.1.page
  page : view.Alike first.1.page second.1.page
  seen : view.seen second.2 = view.seen first.2

variable {client : Client} {page : Page}

/-- What is the same on every page goes on alike. -/
theorem matches_of_withPage (hpage : view.Alike client.page page)
    {result : Client × List Output} (hkept : result.1.page = client.page) :
    view.Matches result (result.1.withPage page, result.2) where
  same := rfl
  page := by
    rw [hkept]
    exact hpage
  seen := rfl

/-- One result after the other, with what both put out. -/
theorem Matches.append {view : View α} {first second next last : Client × List Output}
    (hfirst : view.Matches first second) (hnext : view.Matches next last) :
    view.Matches (next.1, first.2 ++ next.2) (last.1, second.2 ++ last.2) := by
  refine ⟨hnext.same, hnext.page, ?_⟩
  rw [seen_append, seen_append, hfirst.seen, hnext.seen]

/-- More work is done on both sides. -/
theorem Matches.andThen {view : View α} {first second : Client × List Output}
    (hmatches : view.Matches first second) (work : Client → Client × List Output)
    (hwork : ∀ page, view.Alike first.1.page page →
      view.Matches (work first.1) (work (first.1.withPage page))) :
    view.Matches ((work first.1).1, first.2 ++ (work first.1).2)
      ((work second.1).1, second.2 ++ (work second.1).2) := by
  have hnext := hwork second.1.page hmatches.page
  rw [← hmatches.same] at hnext
  exact hmatches.append hnext

/-! ## Downloads -/

theorem matches_fetchRankings (hpage : view.Alike client.page page) :
    view.Matches client.fetchRankings (client.withPage page).fetchRankings := by
  rw [fetchRankings_withPage]
  exact view.matches_of_withPage hpage (congrArg (·.1) client.core_fetchRankings)

theorem matches_fetchListing (hpage : view.Alike client.page page) (purpose : Purpose) :
    view.Matches (client.fetchListing purpose) ((client.withPage page).fetchListing purpose) := by
  rw [fetchListing_withPage]
  exact view.matches_of_withPage hpage (congrArg (·.1) (client.core_fetchListing purpose))

theorem matches_showListing (hpage : view.Alike client.page page)
    (result : Except HttpError (Option String)) :
    view.Matches (client.showListing result) ((client.withPage page).showListing result) := by
  unfold showListing
  split
  · next listing =>
    have hshown := view.perform hpage (.written Region.files listing)
    exact ⟨rfl, hshown, view.region hshown _⟩
  · exact ⟨rfl, hpage, rfl⟩

theorem matches_showRankings (hpage : view.Alike client.page page)
    (result : Except HttpError (Option String)) :
    view.Matches (client.showRankings result) ((client.withPage page).showRankings result) := by
  unfold showRankings
  split
  · next fragment =>
    have hshown := view.perform hpage (.written Region.rankings fragment)
    exact ⟨rfl, hshown, view.region hshown _⟩
  · exact ⟨rfl, hpage, rfl⟩

theorem matches_takeAnswer (hpage : view.Alike client.page page) (number : Nat)
    (answer : HttpAnswer) :
    view.Matches (client.takeAnswer number answer)
      ((client.withPage page).takeAnswer number answer) := by
  have hanswered : view.Alike (client.answered number).page page := hpage
  have hlisting := view.matches_showListing hanswered (Download.files.read answer)
  have hrankings := view.matches_showRankings hanswered
    ((rankingsDownload (client.config.rankingsPath.getD "")).read answer)
  unfold takeAnswer
  rw [downloads_withPage]
  split
  · exact ⟨rfl, hpage, rfl⟩
  · next purpose _ =>
    cases purpose with
    | listing => exact hlisting.andThen endListing fun _ hother => ⟨rfl, hother, rfl⟩
    | reloadedListing => exact hlisting.andThen fetchRankings fun _ => view.matches_fetchRankings
    | rankings =>
        exact hrankings.andThen (fun client => (client, [client.prompt]))
          fun _ hother => ⟨rfl, hother, rfl⟩

/-! ## Lines -/

/-- The page is seen to be shown the same, and other lines are handled alike. -/
theorem matches_handleCommand (hpage : view.Alike client.page page) (command : UserCommand) :
    view.Matches (client.handleCommand command) ((client.withPage page).handleCommand command) := by
  cases command with
  | page =>
      refine ⟨rfl, hpage, ?_⟩
      change [Output.print _, _].filterMap view.seen? = [Output.print _, _].filterMap view.seen?
      rw [List.filterMap_cons, List.filterMap_cons, page_withPage, view.display hpage]
      rfl
  | files =>
      have hwaiting : view.Alike ({ client with stage := .listing } : Client).page page := hpage
      exact view.matches_fetchListing hwaiting .listing
  | test names =>
      refine ⟨rfl, ?_, rfl⟩
      change view.Alike (selectTests client.page names) (selectTests page names)
      unfold selectTests
      rw [view.isDisabled hpage]
      split
      · exact hpage
      · exact view.perform hpage (.selected names)
  | _ => exact ⟨rfl, hpage, rfl⟩

theorem matches_prepareAction (hpage : view.Alike client.page page) (action : Action) :
    view.Matches (client.prepareAction action) ((client.withPage page).prepareAction action) := by
  have hsame : (client.withPage page).hasControl = client.hasControl := rfl
  cases hcontrol : client.hasControl with
  | false =>
      rw [prepareAction_of_unserved hcontrol, prepareAction_of_unserved (hsame.trans hcontrol)]
      exact ⟨rfl, hpage, rfl⟩
  | true =>
      have hother := hsame.trans hcontrol
      have hdisabled := view.isDisabled hpage action
      cases hcase : client.page.isDisabled action with
      | true =>
          rw [prepareAction_of_disabled hcontrol hcase,
            prepareAction_of_disabled hother (hdisabled.trans hcase)]
          exact ⟨rfl, hpage, rfl⟩
      | false =>
          have hrequest : Submission.request (client.withPage page).config.team
              (client.withPage page).page action =
                Submission.request client.config.team client.page action :=
            view.request hpage client.config.team action
          have hacted := view.perform hpage (.acted client.config.team action)
          rw [(Page.acted_of_enabled hcase _).1,
            (Page.acted_of_enabled (hdisabled.trans hcase) _).1] at hacted
          rw [prepareAction_of_enabled hcontrol hcase,
            prepareAction_of_enabled hother (hdisabled.trans hcase), hrequest]
          exact ⟨rfl, hacted, rfl⟩

/-- The same file is read again on both pages. -/
theorem alike_refreshEditor (hpage : view.Alike client.page page) (read : FileReader)
    (spec : FileSpec) :
    view.Alike (refreshEditor read client.page spec) (refreshEditor read page spec) := by
  unfold refreshEditor
  split
  · exact view.perform hpage (.edited _ _)
  · exact hpage

theorem matches_advance (hpage : view.Alike client.page page) (read : FileReader) (now : Int) :
    view.Matches (client.advance read now) ((client.withPage page).advance read now) := by
  unfold advance
  rw [stage_withPage]
  split
  · rw [lines_withPage]
    split
    · next line rest _ =>
      have hrest : view.Alike ({ client with lines := rest } : Client).page page := hpage
      exact view.matches_handleCommand hrest (.ofLine line)
    · rw [hasInput_withPage]
      split
      · exact ⟨rfl, hpage, rfl⟩
      · exact ⟨rfl, hpage, rfl⟩
  · exact ⟨rfl, hpage, rfl⟩
  · exact ⟨rfl, hpage, rfl⟩
  · next action spec left _ => exact ⟨rfl, view.alike_refreshEditor hpage read spec, rfl⟩
  · exact view.matches_prepareAction hpage _
  · exact ⟨rfl, hpage, rfl⟩

/-! ## Messages -/

theorem matches_followUp (hpage : view.Alike client.page page) (next : FollowUp) :
    view.Matches (client.followUp next) ((client.withPage page).followUp next) := by
  cases next with
  | none => exact ⟨rfl, hpage, rfl⟩
  | reloaded => exact view.matches_fetchListing hpage .reloadedListing
  | refreshRankings => exact view.matches_fetchRankings hpage

/-- Of pages that look alike the same is seen to be announced. -/
theorem seen_announce {page other : Page} (halike : view.Alike page other)
    (notification : Notification) :
    view.seen (announce other notification) = view.seen (announce page notification) := by
  have hregion (name : String) :
      view.seen (printRegion other name) = view.seen (printRegion page name) :=
    view.region halike name
  cases notification with
  | roundStart =>
      simp only [announce, seen, List.filterMap_cons, view.reloaded halike]
  | testResult feedback =>
      simp only [announce, shownRegion?]
      split
      · exact hregion _
      · rfl
  | compileResult result => exact hregion Region.output
  | broadcast feedback => exact hregion Region.response
  | _ => rfl

/-- What is seen alike may be printed before the prompt and what both put out after it. -/
theorem Matches.announced {view : View α} {first second : Client × List Output}
    (hmatches : view.Matches first second) {printed others : List Output}
    (hseen : view.seen others = view.seen printed) :
    view.Matches (first.1, printed ++ first.1.prompt :: first.2)
      (second.1, others ++ second.1.prompt :: second.2) := by
  refine ⟨hmatches.same, hmatches.page, ?_⟩
  have hprompt : second.1.prompt = first.1.prompt := by
    rw [hmatches.same]
    rfl
  have hrest : view.seen ([first.1.prompt] ++ second.2) =
      view.seen ([first.1.prompt] ++ first.2) := by
    rw [view.seen_append, view.seen_append, hmatches.seen]
  rw [view.seen_append, view.seen_append, hseen, hprompt]
  exact congrArg (view.seen printed ++ ·) hrest

theorem matches_renderNotification (hpage : view.Alike client.page page) (now : Int)
    (notification : Notification) :
    view.Matches (client.renderNotification now notification)
      ((client.withPage page).renderNotification now notification) := by
  have hrendered : view.Alike (client.withPage (client.page.render now notification).1).page
      (page.render now notification).1 := view.perform hpage (.rendered now notification)
  have hfollow := view.matches_followUp hrendered (client.page.render now notification).2
  unfold renderNotification
  dsimp only
  rw [page_withPage, Page.followUp_render client.page page]
  exact hfollow.announced (view.seen_announce hrendered notification)

theorem matches_renderMessage (hpage : view.Alike client.page page) (now : Int)
    (message : Inbound) :
    view.Matches (client.renderMessage now message)
      ((client.withPage page).renderMessage now message) := by
  unfold renderMessage
  split
  · exact view.matches_renderNotification hpage now _
  · exact ⟨rfl, hpage, rfl⟩

theorem matches_renderNext (hpage : view.Alike client.page page) (now : Int) :
    view.Matches (client.renderNext now) ((client.withPage page).renderNext now) := by
  cases hqueue : client.queue with
  | nil =>
      rw [renderNext, renderNext, queue_withPage, hqueue]
      exact ⟨rfl, hpage, rfl⟩
  | cons message rest =>
      have hrest : view.Alike (client.withQueue rest).page page := hpage
      rw [client.renderNext_of_queue hqueue, (client.withPage page).renderNext_of_queue hqueue]
      exact view.matches_renderMessage hrest now message

/-! ## Steps -/

/-- A step keeps clients that look alike so, and what they put out is seen to be the same. -/
theorem matches_step (hpage : view.Alike client.page page) (event : Event) :
    view.Matches (client.step event) ((client.withPage page).step event) := by
  unfold step
  rw [stage_withPage]
  split
  · exact ⟨rfl, hpage, rfl⟩
  · cases event with
    | line text =>
        dsimp only
        unfold takeLine
        rw [hasInput_withPage]
        dsimp only
        split
        · exact ⟨rfl, hpage, rfl⟩
        · exact ⟨rfl, hpage, rfl⟩
    | endOfInput => exact ⟨rfl, hpage, rfl⟩
    | advance read now => exact view.matches_advance hpage read now
    | receive channel incoming => exact ⟨rfl, hpage, rfl⟩
    | lose channel reason => exact ⟨rfl, hpage, rfl⟩
    | render now => exact view.matches_renderNext hpage now
    | answer number answer => exact view.matches_takeAnswer hpage number answer
    | look channel =>
        dsimp only
        unfold look
        rw [watched_withPage, manager_withPage]
        split
        · exact ⟨rfl, hpage, rfl⟩
        · exact ⟨rfl, hpage, rfl⟩

end View

end Client

end ClassroomClient
