/-
# The page of a client

Whatever the client does, its page is one that a run of the page leads to from the page that was
loaded at the start: what is proved of all runs of the page holds in every state of the client.
`happening?` says what a step does to the page, and `happenings` is the run of the page in a run of
the client. The only regions that the client writes beside the results are those of its downloads.
-/

import ClassroomClient.Proofs.Client.Effect
import ClassroomClient.Proofs.Client.Run
import ClassroomClient.Proofs.Page.Run

namespace ClassroomClient

open Exchange

/-! ## What happens in a step -/

/-- The region in which the answer of a download is shown. -/
def Purpose.region : Purpose → String
  | .rankings => Region.rankings
  | _ => Region.files

/-- What is downloaded when the rankings are on a path. -/
def Purpose.download (path : String) : Purpose → Download
  | .rankings => Client.rankingsDownload path
  | _ => .files

/-- What the result of a download does to the page. -/
def shown? (name : String) : Except HttpError (Option String) → Option Page.Happening
  | .ok (some text) => some (.written name text)
  | _ => none

namespace Client

/-- What the next message does to the page when it is rendered. -/
def rendered? (client : Client) (now : Int) : Option Page.Happening :=
  client.queue.head?.bind fun message =>
    match Notification.decode message.topic message.body with
    | .ok notification => some (.rendered now notification)
    | .error _ => none

/-- What the answer of a download does to the page. -/
def downloaded? (client : Client) (number : Nat) (answer : HttpAnswer) : Option Page.Happening :=
  (client.downloads.lookup number).bind fun purpose =>
    shown? purpose.region ((purpose.download (client.config.rankingsPath.getD "")).read answer)

/-- What a turn in handling lines does to the page. -/
def handled? (client : Client) (read : FileReader) : Option Page.Happening :=
  match client.stage with
  | .ready =>
    client.lines.head?.bind fun line =>
      match UserCommand.ofLine line with
      | .test names => if client.page.isDisabled .test then none else some (.selected names)
      | _ => none
  | .refreshing _ (spec :: _) => (read spec.path).toOption.map (.edited (displayName spec.path))
  | .refreshing action [] =>
    if client.hasControl then some (.acted client.config.team action) else none
  | _ => none

/-- What happens to the page at an event. -/
def happening? (client : Client) (event : Event) : Option Page.Happening :=
  if client.stage = .ended then none
  else
    match event with
    | .advance read _ => client.handled? read
    | .render now => client.rendered? now
    | .answer number answer => client.downloaded? number answer
    | _ => none

/-- Where something that happens to the page comes from. -/
def Origin (client : Client) (event : Event) : Page.Happening → Prop
  | .rendered now _ => event = .render now
  | .written name _ => ∃ number answer purpose, event = .answer number answer ∧
      client.downloads.lookup number = some purpose ∧ name = purpose.region
  | _ => ∃ read now, event = .advance read now

theorem origin_of_happening? {client : Client} {event : Event} {happening : Page.Happening}
    (hhappening : client.happening? event = some happening) : client.Origin event happening := by
  unfold happening? at hhappening
  split at hhappening
  · cases hhappening
  · cases event with
    | answer number answer =>
        obtain ⟨purpose, hfound, hshown⟩ := Option.bind_eq_some_iff.1 hhappening
        unfold shown? at hshown
        split at hshown
        · cases hshown
          exact ⟨number, answer, purpose, rfl, hfound, rfl⟩
        · cases hshown
    | render now =>
        obtain ⟨message, _, hrendered⟩ := Option.bind_eq_some_iff.1 hhappening
        split at hrendered
        · cases hrendered
          rfl
        · cases hrendered
    | advance read now =>
        dsimp only at hhappening
        unfold handled? at hhappening
        split at hhappening
        · obtain ⟨line, _, hselected⟩ := Option.bind_eq_some_iff.1 hhappening
          split at hselected
          · split at hselected
            · cases hselected
            · cases hselected
              exact ⟨read, now, rfl⟩
          · cases hselected
        · obtain ⟨_, _, hedited⟩ := Option.map_eq_some_iff.1 hhappening
          cases hedited
          exact ⟨read, now, rfl⟩
        · split at hhappening
          · cases hhappening
            exact ⟨read, now, rfl⟩
          · cases hhappening
        · cases hhappening
    | _ => cases hhappening

/-- Nothing but downloads is written into regions. -/
theorem region_of_written {client : Client} {event : Event} {name text : String}
    (hwritten : client.happening? event = some (.written name text)) :
    ∃ number answer purpose, event = .answer number answer ∧
      client.downloads.lookup number = some purpose ∧ name = purpose.region :=
  origin_of_happening? hwritten

/-! ## The page after a step -/

theorem page_showListing (client : Client) (result : Except HttpError (Option String)) :
    (client.showListing result).1.page =
      client.page.after (shown? Region.files result).toList := by
  rcases result with error | _ | text <;> rfl

theorem page_showRankings (client : Client) (result : Except HttpError (Option String)) :
    (client.showRankings result).1.page =
      client.page.after (shown? Region.rankings result).toList := by
  rcases result with error | _ | text <;> rfl

theorem page_takeAnswer (client : Client) (number : Nat) (answer : HttpAnswer) :
    (client.takeAnswer number answer).1.page =
      client.page.after (client.downloaded? number answer).toList := by
  unfold takeAnswer downloaded?
  split
  · next hfound =>
    rw [hfound]
    rfl
  · next purpose hfound =>
    rw [hfound]
    cases purpose with
    | listing => exact page_showListing _ _
    | reloadedListing =>
        dsimp only
        rw [show (fetchRankings _).1.page = _ from congrArg (·.1) (core_fetchRankings _)]
        exact page_showListing _ _
    | rankings => exact page_showRankings _ _

theorem page_renderNext (client : Client) (now : Int) :
    (client.renderNext now).1.page = client.page.after (client.rendered? now).toList := by
  unfold renderNext rendered?
  split
  · next hqueue =>
    rw [hqueue]
    rfl
  · next message rest hqueue =>
    rw [hqueue]
    dsimp only [List.head?_cons, Option.bind_some]
    cases Notification.decode message.topic message.body with
    | ok notification =>
        exact congrArg (·.1)
          (core_renderNotification { client with queue := rest } now notification)
    | error error => rfl

theorem page_handleCommand (client : Client) (command : UserCommand) :
    (client.handleCommand command).1.page =
      match command with
      | .test names => selectTests client.page names
      | _ => client.page := by
  cases command with
  | files => exact congrArg (·.1) (core_fetchListing { client with stage := .listing } .listing)
  | _ => rfl

theorem page_prepareAction (client : Client) (action : Action) :
    (client.prepareAction action).1.page =
      if client.hasControl then client.page.perform (.acted client.config.team action)
      else client.page := by
  cases hcontrol : client.hasControl with
  | false =>
      rw [prepareAction_of_unserved hcontrol]
      rfl
  | true =>
      cases hdisabled : client.page.isDisabled action with
      | false =>
          rw [prepareAction_of_enabled hcontrol hdisabled, if_pos rfl,
            (Page.acted_of_enabled hdisabled _).1]
      | true =>
          rw [prepareAction_of_disabled hcontrol hdisabled, if_pos rfl,
            (Page.acted_of_disabled hdisabled _).1]

theorem page_advance (client : Client) (read : FileReader) (now : Int) :
    (client.advance read now).1.page = client.page.after (client.handled? read).toList := by
  unfold advance handled?
  cases hstage : client.stage with
  | ready =>
      dsimp only
      cases hlines : client.lines with
      | nil =>
          dsimp only
          split <;> rfl
      | cons line rest =>
          dsimp only [List.head?_cons, Option.bind_some]
          rw [page_handleCommand]
          cases UserCommand.ofLine line with
          | test names =>
              dsimp only
              unfold selectTests
              split <;> rfl
          | _ => rfl
  | refreshing action left =>
      cases left with
      | nil =>
          dsimp only
          rw [page_prepareAction]
          split <;> rfl
      | cons spec left =>
          dsimp only
          unfold refreshEditor
          cases read spec.path <;> rfl
  | _ => rfl

/-- A step does to the page what happens at its event. -/
theorem page_step (client : Client) (event : Event) :
    (client.step event).1.page = client.page.after (client.happening? event).toList := by
  unfold step happening?
  split
  · rfl
  · cases event with
    | advance read now => exact client.page_advance read now
    | render now => exact client.page_renderNext now
    | answer number answer => exact client.page_takeAnswer number answer
    | line text =>
        dsimp only
        unfold takeLine
        dsimp only
        split <;> rfl
    | look channel =>
        dsimp only
        unfold look
        split <;> rfl
    | _ => rfl

/-! ## Runs -/

/-- What happens to the page at a moment of a run. -/
def Moment.happening? (moment : Moment) : Option Page.Happening :=
  moment.before.happening? moment.event

/-- What happens to the page in a run. -/
def happenings (client : Client) (events : List Event) : List Page.Happening :=
  (client.moments events).filterMap Moment.happening?

theorem happenings_cons (client : Client) (event : Event) (rest : List Event) :
    client.happenings (event :: rest) =
      (client.happening? event).toList ++ (client.step event).1.happenings rest := by
  rw [happenings, moments_cons, List.filterMap_cons, Moment.happening?]
  cases client.happening? event <;> rfl

/-- The notifications that are rendered in a run. -/
def notifications (client : Client) (events : List Event) : List Notification :=
  (client.happenings events).filterMap Page.Happening.notification?

/-- In a run of the client its page makes a run of the page. -/
theorem page_run (client : Client) (events : List Event) :
    (client.run events).1.page = client.page.after (client.happenings events) := by
  induction events generalizing client with
  | nil => rfl
  | cons event rest ih =>
      rw [run_cons, ih, page_step, happenings_cons, Page.after_append]

end Client

end ClassroomClient
