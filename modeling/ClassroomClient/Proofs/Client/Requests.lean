/-
# Downloads and what becomes of them

A client asks for the listing of the files when it starts, for every line that wants it, and after
every new round; it asks for the rankings when they may have changed, and after the listing of a new
round has been answered. Nothing else makes it ask for anything. Whatever an answer says, it shows
at most one text in one region, and everything else on the page stays as it is.
-/

import ClassroomClient.Proofs.Client.Downloads
import ClassroomClient.Proofs.Client.Lines
import Mathlib.Data.List.Perm.Basic

namespace ClassroomClient

open Exchange Stomp

namespace Client

variable {client : Client} {config : Config} {log : List Moment}

/-! ## How often each download is asked for -/

/-- The lines that are taken up in a run. -/
def taken (log : List Moment) : List String := log.filterMap Moment.taken?

theorem notifications_eq (client : Client) (events : List Event) :
    client.notifications events = (client.moments events).filterMap Moment.notification? :=
  List.filterMap_filterMap

theorem config_of_mem_moments {events : List Event} {moment : Moment}
    (hmem : moment ∈ client.moments events) : moment.before.config = client.config := by
  induction events generalizing client with
  | nil => cases hmem
  | cons event rest ih =>
      rcases List.mem_cons.1 hmem with rfl | hlater
      · rfl
      · rw [ih hlater, config_step_eq]

/-- What is asked for at some moments is, but for its order, what the lines, the notifications and
the answers ask for. -/
theorem flatMap_asked_perm (hconfig : ∀ moment ∈ log, moment.before.config = config) :
    (log.flatMap Moment.asked).Perm
      (((taken log).flatMap fun line => (UserCommand.ofLine line).downloads) ++
        ((log.filterMap Moment.notification?).flatMap (·.downloads config)) ++
        (answers log).flatMap (·.2.followers config)) := by
  have helim {α : Type} (found? : Option α) (f : α → List Purpose) :
      found?.elim [] f = found?.toList.flatMap f := by
    cases found? <;> simp
  rw [taken, answers, List.filterMap_eq_flatMap_toList, List.filterMap_eq_flatMap_toList,
    List.filterMap_eq_flatMap_toList, List.flatMap_assoc, List.flatMap_assoc, List.flatMap_assoc]
  have hmoments : log.flatMap Moment.asked = log.flatMap fun moment =>
      (moment.taken?.toList.flatMap fun line => (UserCommand.ofLine line).downloads) ++
        moment.notification?.toList.flatMap (·.downloads config) ++
        moment.answered?.toList.flatMap (·.2.followers config) := by
    apply List.flatMap_congr
    intro moment hmem
    rw [Moment.asked, helim, helim, helim, hconfig moment hmem]
  rw [hmoments]
  exact (List.flatMap_append_perm _ _ _).symm.trans
    ((List.flatMap_append_perm _ _ _).symm.append_right _)

/-- What some of the entries ask for once is asked for as often as there are such entries. -/
theorem count_flatMap_eq_mul {α : Type} {entries : List α} {purpose : Purpose}
    {downloads : α → List Purpose} {asks : α → Bool} {times : Nat}
    (htimes : ∀ entry, (downloads entry).count purpose = if asks entry then times else 0) :
    (entries.flatMap downloads).count purpose = times * entries.countP asks := by
  induction entries with
  | nil => rfl
  | cons entry rest ih =>
      rw [List.flatMap_cons, List.count_append, htimes, ih, List.countP_cons, Nat.mul_add,
        Nat.add_comm]
      split <;> simp

theorem count_flatMap_eq_zero {α : Type} {entries : List α} {purpose : Purpose}
    {downloads : α → List Purpose} (hnone : ∀ entry, (downloads entry).count purpose = 0) :
    (entries.flatMap downloads).count purpose = 0 := by
  induction entries with
  | nil => rfl
  | cons entry rest ih => rw [List.flatMap_cons, List.count_append, hnone, ih]

/-- Only rankings are asked for as rankings. -/
theorem count_rankings_eq_zero (config : Config) {purpose : Purpose}
    (hother : purpose ≠ .rankings) : config.rankings.count purpose = 0 := by
  unfold Config.rankings
  cases config.rankingsPath with
  | none => rfl
  | some path =>
      dsimp only
      cases config.baseUrl.join path with
      | error error => rfl
      | ok url =>
          dsimp only
          split
          · exact List.count_eq_zero.2 fun hmem => hother (List.mem_singleton.1 hmem)
          · rfl

/-- The rankings on a path that leads to a page of a web server are asked for. -/
theorem count_rankings_of_resolves
    (hresolves : ∀ path, config.rankingsPath = some path →
      ∃ url, config.baseUrl.join path = .ok url ∧
        (url.scheme = "http".toList ∨ url.scheme = "https".toList)) :
    config.rankings.count .rankings = if config.rankingsPath.isSome then 1 else 0 := by
  unfold Config.rankings
  cases hpath : config.rankingsPath with
  | none => rfl
  | some path =>
      obtain ⟨url, hurl, hscheme⟩ := hresolves path hpath
      dsimp only
      rw [hurl]
      dsimp only
      rw [if_pos (Url.isWeb_iff.2 hscheme)]
      rfl

/-- Lines ask for the listing at once, new rounds beside everything else. -/
theorem count_asked_listing (hconfig : ∀ moment ∈ log, moment.before.config = config) :
    (asked log).count .listing = 1 + (taken log).countP (UserCommand.ofLine · == .files) := by
  have hlines (line : String) : (UserCommand.ofLine line).downloads.count .listing =
      if UserCommand.ofLine line == .files then 1 else 0 := by
    cases UserCommand.ofLine line <;> rfl
  have hrendered (notification : Notification) :
      (notification.downloads config).count .listing = 0 := by
    cases notification with
    | rankingsChange => exact count_rankings_eq_zero config nofun
    | _ => rfl
  have hanswered (answered : Nat × Purpose) :
      (answered.2.followers config).count .listing = 0 := by
    obtain ⟨_, purpose⟩ := answered
    cases purpose with
    | reloadedListing => exact count_rankings_eq_zero config nofun
    | _ => rfl
  rw [asked, List.count_cons, (flatMap_asked_perm hconfig).count_eq, List.count_append,
    List.count_append, count_flatMap_eq_mul hlines, count_flatMap_eq_zero hrendered,
    count_flatMap_eq_zero hanswered, Nat.one_mul]
  exact Nat.add_comm _ 1

theorem count_asked_reloadedListing (hconfig : ∀ moment ∈ log, moment.before.config = config) :
    (asked log).count .reloadedListing =
      (log.filterMap Moment.notification?).countP (· matches .roundStart) := by
  have hlines (line : String) : (UserCommand.ofLine line).downloads.count .reloadedListing = 0 := by
    cases UserCommand.ofLine line <;> rfl
  have hrendered (notification : Notification) :
      (notification.downloads config).count .reloadedListing =
        if notification matches .roundStart then 1 else 0 := by
    cases notification with
    | rankingsChange => exact count_rankings_eq_zero config nofun
    | _ => rfl
  have hanswered (answered : Nat × Purpose) :
      (answered.2.followers config).count .reloadedListing = 0 := by
    obtain ⟨_, purpose⟩ := answered
    cases purpose with
    | reloadedListing => exact count_rankings_eq_zero config nofun
    | _ => rfl
  rw [asked, List.count_cons, (flatMap_asked_perm hconfig).count_eq, List.count_append,
    List.count_append, count_flatMap_eq_zero hlines, count_flatMap_eq_mul hrendered,
    count_flatMap_eq_zero hanswered, Nat.one_mul, Nat.zero_add]
  rfl

/-- The rankings are asked for when they may have changed and when the listing of a new round has
been answered. -/
theorem count_asked_rankings (hconfig : ∀ moment ∈ log, moment.before.config = config) :
    (asked log).count .rankings =
      config.rankings.count .rankings *
        ((log.filterMap Moment.notification?).countP (· matches .rankingsChange) +
          (answers log).countP (·.2 == .reloadedListing)) := by
  have hlines (line : String) : (UserCommand.ofLine line).downloads.count .rankings = 0 := by
    cases UserCommand.ofLine line <;> rfl
  have hrendered (notification : Notification) :
      (notification.downloads config).count .rankings =
        if notification matches .rankingsChange then config.rankings.count .rankings else 0 := by
    cases notification <;> rfl
  have hanswered (answered : Nat × Purpose) :
      (answered.2.followers config).count .rankings =
        if answered.2 == .reloadedListing then config.rankings.count .rankings else 0 := by
    obtain ⟨_, purpose⟩ := answered
    cases purpose <;> rfl
  rw [asked, List.count_cons, (flatMap_asked_perm hconfig).count_eq, List.count_append,
    List.count_append, count_flatMap_eq_zero hlines, count_flatMap_eq_mul hrendered,
    count_flatMap_eq_mul hanswered, Nat.zero_add, Nat.mul_add]
  rfl

/-! ## The lines that are taken up -/

/-- A client that has ended takes up no line. -/
theorem taken?_of_ended (hended : client.stage = .ended) (event : Event) :
    Moment.taken? ⟨client, event⟩ = none := by
  unfold Moment.taken?
  split
  · rw [if_neg (by rw [hended]; nofun)]
  · rfl

/-- A turn takes up the line that waits first, or none. -/
theorem lines_advance (client : Client) (read : FileReader) (now : Int) :
    client.lines =
      (Moment.taken? ⟨client, .advance read now⟩).toList ++ (client.advance read now).1.lines := by
  cases htaken : Moment.taken? ⟨client, .advance read now⟩ with
  | none =>
      rcases client.typing_advance read now with hsame | ⟨line, rest, hready, hlines, _⟩
      · exact (congrArg (·.1) hsame).symm
      · have hfirst : Moment.taken? ⟨client, .advance read now⟩ = client.lines.head? :=
          if_pos hready
        rw [htaken, hlines] at hfirst
        cases hfirst
  | some line =>
      have hready : client.stage = .ready := by
        by_contra hother
        have hnone : Moment.taken? ⟨client, .advance read now⟩ = none := if_neg hother
        rw [htaken] at hnone
        cases hnone
      have hfirst : Moment.taken? ⟨client, .advance read now⟩ = client.lines.head? :=
        if_pos hready
      obtain ⟨rest, hlines⟩ := List.head?_eq_some_iff.1 (hfirst.symm.trans htaken)
      have hturn : client.advance read now =
          { client with lines := rest }.handleCommand (.ofLine line) := by
        simp only [advance, hready, hlines]
      have hleft : (client.advance read now).1.lines = rest := by
        rw [hturn]
        exact congrArg (·.1) (typing_handleCommand _ _)
      rw [hlines, hleft]
      rfl

/-- The lines that come in wait behind the others. -/
theorem lines_append_entered (hrunning : client.stage ≠ .ended) (event : Event) :
    client.lines ++ client.entered event =
      (Moment.taken? ⟨client, event⟩).toList ++ (client.step event).1.lines := by
  by_cases hturn : ∃ read now, event = .advance read now
  · obtain ⟨read, now, rfl⟩ := hturn
    rw [step, if_neg hrunning]
    exact (List.append_nil _).trans (client.lines_advance read now)
  · have hother (read : FileReader) (now : Int) : event ≠ .advance read now := by
      intro hevent
      exact hturn ⟨read, now, hevent⟩
    have htaken : Moment.taken? ⟨client, event⟩ = none := by
      cases event with
      | advance read now => exact absurd rfl (hother read now)
      | _ => rfl
    have hlines : (client.step event).1.lines = client.lines ++ client.entered event :=
      congrArg (·.1) (typing_step hrunning hother)
    rw [htaken, hlines]
    rfl

theorem before_of_ended (hended : client.stage = .ended) {events : List Event} {moment : Moment}
    (hmem : moment ∈ client.moments events) : moment.before.stage = .ended := by
  induction events with
  | nil => cases hmem
  | cons event rest ih =>
      rw [moments_cons, step_of_ended hended] at hmem
      rcases List.mem_cons.1 hmem with rfl | hlater
      · exact hended
      · exact ih hlater

theorem taken_cons (moment : Moment) (log : List Moment) :
    taken (moment :: log) = moment.taken?.toList ++ taken log := by
  rw [taken, List.filterMap_cons]
  cases moment.taken? <;> rfl

/-- The lines are taken up in the order in which they are typed, and as long as the client runs on
those that have not been taken up wait. -/
theorem exists_left_of_taken (client : Client) (events : List Event) :
    ∃ left,
      client.lines ++ (if client.hasInput then typedLines events else []) =
        taken (client.moments events) ++ left ∧
      ((client.run events).1.stage ≠ .ended → left = (client.run events).1.lines) := by
  induction events generalizing client with
  | nil =>
      refine ⟨client.lines, ?_, fun _ => rfl⟩
      cases client.hasInput <;> simp [typedLines, taken]
  | cons event rest ih =>
      by_cases hended : client.stage = .ended
      · have hnone : taken (client.moments (event :: rest)) = [] := by
          apply List.filterMap_eq_nil_iff.2
          intro moment hmem
          exact taken?_of_ended (before_of_ended hended hmem) moment.event
        refine ⟨_, by rw [hnone]; rfl, ?_⟩
        rw [run_of_ended hended]
        exact fun hrunning => absurd hended hrunning
      · obtain ⟨left, hleft, hwaits⟩ := ih (client.step event).1
        refine ⟨left, ?_, hwaits⟩
        have hentered := entered_append_typedLines hended event rest
        have hlines := lines_append_entered hended event
        rw [← hentered, ← List.append_assoc, hlines, List.append_assoc, hleft, moments_cons,
          taken_cons, List.append_assoc]

/-! ## What an answer shows -/

end Client

/-- The text that an answer brings: what a page that was found says or, of the rankings, the part
that is shown. -/
def Purpose.brought? (purpose : Purpose) : HttpAnswer → Option String
  | .failed _ => none
  | .response status body =>
    if 200 ≤ status ∧ status < 300 then
      match purpose with
      | .rankings => extractFragment body Region.rankings
      | _ => some body
    else none

theorem shown?_read (purpose : Purpose) (path : String) (answer : HttpAnswer) :
    shown? purpose.region ((purpose.download path).read answer) =
      (purpose.brought? answer).map (.written purpose.region) := by
  cases answer with
  | failed reason => cases purpose <;> rfl
  | response status body =>
      by_cases hfound : 200 ≤ status ∧ status < 300
      · have hbody : Download.body (.response status body) = .ok body := by
          simp [Download.body, hfound]
        cases purpose with
        | rankings =>
            simp only [Purpose.brought?, if_pos hfound, Download.read, hbody, Purpose.download,
              Client.rankingsDownload]
            cases extractFragment body Region.rankings <;> rfl
        | _ =>
            simp [Purpose.brought?, if_pos hfound, Download.read, hbody, Purpose.download, shown?]
      · have hbody : Download.body (.response status body) = .error (.status status) := by
          simpa [Download.body] using hfound
        simp [Purpose.brought?, if_neg hfound, Download.read, hbody, shown?]

namespace Client

variable {client : Client} {config : Config}

/-- The region in which an answer is shown at a moment, with its text. -/
def Moment.brought? (moment : Moment) : Option (String × String) :=
  match moment.event with
  | .answer _ answer =>
    moment.answered?.bind fun (_, purpose) =>
      (purpose.brought? answer).map (purpose.region, ·)
  | _ => none

/-- The text of a region is replaced at a moment, and nothing else on the page changes. -/
structure Moment.Replaces (moment : Moment) (name text : String) : Prop where
  region : moment.after.page.region? name = some text
  others : ∀ other, other ≠ name →
    moment.after.page.region? other = moment.before.page.region? other
  rest : moment.after.page =
    { moment.before.page with regions := moment.after.page.regions }

/-- An answer replaces the text of the region in which it is shown, or leaves the page as it is. -/
theorem page_of_answer {moment : Moment} {number : Nat} {answer : HttpAnswer}
    (hanswer : moment.event = .answer number answer) :
    (moment.brought? = none → moment.after.page = moment.before.page) ∧
      ∀ name text, moment.brought? = some (name, text) → moment.Replaces name text := by
  obtain ⟨client, event⟩ := moment
  cases hanswer
  have hhappening : client.happening? (.answer number answer) =
      (Moment.brought? ⟨client, .answer number answer⟩).map fun shown =>
        .written shown.1 shown.2 := by
    unfold happening? Moment.brought? Moment.answered?
    split
    · rfl
    · dsimp only
      unfold downloaded?
      cases client.downloads.lookup number with
      | none => rfl
      | some purpose =>
          dsimp only [Option.bind_some, Option.map_some]
          rw [shown?_read, Option.map_map]
          rfl
  have hpage : (client.step (.answer number answer)).1.page = _ := client.page_step _
  rw [hhappening] at hpage
  constructor
  · intro hnone
    rw [hnone] at hpage
    exact hpage
  · intro name text hbrought
    rw [hbrought] at hpage
    have hregion (other : String) : (client.page.setRegion name text).region? other =
        if other = name then some text else client.page.region? other :=
      congrArg (·.1) (client.page.panel_setRegion name text other)
    constructor
    · exact (congrArg (·.region? name) hpage).trans ((hregion name).trans (if_pos rfl))
    · intro other hother
      exact (congrArg (·.region? other) hpage).trans ((hregion other).trans (if_neg hother))
    · rw [Moment.after, hpage]
      rfl

/-! ## Runs -/

/-- What the client asks for in a run from its start, and what becomes of the answers. -/
structure Fetches (config : Config) (client : Client) (events : List Event)
    (requests : List (Nat × Url)) : Prop where
  /-- The requests are those for what is asked for at the start and at the moments of the run. -/
  requests : List.Forall₂ (IsRequest config) (numberedFrom 0 (asked (client.moments events)))
    requests
  /-- A step requests what is asked for at its moment, and nothing else. -/
  issued : ∀ moment ∈ client.moments events,
    List.Forall₂ (IsRequest config) (numberedFrom moment.before.downloadCount moment.asked)
      (Output.requests moment.outputs)
  listings : (asked (client.moments events)).count .listing =
    1 + (taken (client.moments events)).countP (UserCommand.ofLine · == .files)
  /-- Lines are taken up in the order in which they were typed, and the others wait. -/
  typed : ∃ left, typedLines events = taken (client.moments events) ++ left ∧
    ((client.run events).1.stage ≠ .ended → left = (client.run events).1.lines)
  reloads : (asked (client.moments events)).count .reloadedListing =
    (client.notifications events).countP (· matches .roundStart)
  rankings : (asked (client.moments events)).count .rankings =
    if config.rankingsPath.isSome then
      (client.notifications events).countP (· matches .rankingsChange) +
        (answers (client.moments events)).countP (·.2 == .reloadedListing)
    else 0
  /-- A download is waited for until it is answered, in whatever way. -/
  waiting : ∀ number purpose, (client.run events).1.downloads.lookup number = some purpose ↔
    (asked (client.moments events))[number]? = some purpose ∧
      number ∉ (answers (client.moments events)).map (·.1)
  answered : ∀ number purpose, (number, purpose) ∈ answers (client.moments events) →
    (asked (client.moments events))[number]? = some purpose
  once : ((answers (client.moments events)).map (·.1)).Nodup
  /-- An answer replaces the text of one region, or it changes nothing on the page. -/
  isolated : ∀ moment ∈ client.moments events, ∀ number answer,
    moment.event = .answer number answer →
      (moment.brought? = none → moment.after.page = moment.before.page) ∧
        ∀ name text, moment.brought? = some (name, text) → moment.Replaces name text

theorem requests_of_mem_moments {events : List Event} {moment : Moment}
    (hmem : moment ∈ client.moments events) :
    List.Forall₂ (IsRequest client.config)
      (numberedFrom moment.before.downloadCount moment.asked) (Output.requests moment.outputs) := by
  have hrequests := (moment.before.asks_step moment.event).requests
  rw [config_relieved, downloadCount_relieved, config_of_mem_moments hmem] at hrequests
  exact hrequests

end Client

end ClassroomClient
