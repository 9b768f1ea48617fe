/-
# Numbers of downloads

Every download that the client asks for gets the next number, so that the numbers tell in which
order the downloads were asked for, however long their answers take. A download waits under its
number until it is answered, and each is answered at most once. `Moment.asked` says what is asked
for at an event, `Asks` how a step goes on with the numbers, and `Numbered` what holds of them in a
run.
-/

import ClassroomClient.Proofs.Client.Page
import ClassroomClient.Proofs.Client.Results
import ClassroomClient.Proofs.Config
import Mathlib.Data.List.Forall2

namespace ClassroomClient

open Exchange

/-- The URL at which a download for a purpose is asked for: that of the configured rankings, or
`/files` on the server of the base URL. -/
def Purpose.IsAt (purpose : Purpose) (config : Config) (url : Url) : Prop :=
  match purpose with
  | .rankings => ∃ path, config.rankingsPath = some path ∧ config.baseUrl.join path = .ok url ∧
      (url.scheme = "http".toList ∨ url.scheme = "https".toList)
  | _ => url = { config.baseUrl with
      path := .segments ["files".toList], query := none, fragment := none }

theorem Output.requests_wireOutputs (log : WireLog) :
    Output.requests (Client.wireOutputs log) = [] := by
  induction log with
  | nil => rfl
  | cons event rest ih => exact ih

/-! ## What is asked for -/

/-- The rankings, if they are on a path that leads to a page of a web server. -/
def Config.rankings (config : Config) : List Purpose :=
  match config.rankingsPath with
  | none => []
  | some path =>
    match config.baseUrl.join path with
    | .ok url => if url.isWeb then [.rankings] else []
    | .error _ => []

section

variable {config : Config} {path : String}

/-- Rankings that can be asked for are asked for at their URL. -/
theorem rankings_of_url {url : Url} (hpath : config.rankingsPath = some path)
    (hurl : (Client.rankingsDownload path).url config.baseUrl = .ok url) :
    config.rankings = [.rankings] ∧ Purpose.rankings.IsAt config url := by
  obtain ⟨hjoin, hweb⟩ := Download.url_eq_ok.1 hurl
  have hjoined : config.baseUrl.join path = .ok url := hjoin
  refine ⟨?_, path, hpath, hjoined, Url.isWeb_iff.1 hweb⟩
  simp only [Config.rankings, hpath, hjoined, hweb, if_true]

theorem rankings_of_error {error : HttpError} (hpath : config.rankingsPath = some path)
    (hurl : (Client.rankingsDownload path).url config.baseUrl = .error error) :
    config.rankings = [] := by
  simp only [Config.rankings, hpath]
  cases hjoin : config.baseUrl.join path with
  | error reason => rfl
  | ok url =>
      dsimp only
      rw [if_neg]
      intro hweb
      have hjoined : config.baseUrl.join (Client.rankingsDownload path).path = .ok url := hjoin
      rw [Download.url_eq_ok.2 ⟨hjoined, hweb⟩] at hurl
      cases hurl

end

/-- What a command asks for. -/
def UserCommand.downloads : UserCommand → List Purpose
  | .files => [.listing]
  | _ => []

/-- What is asked for after a notification. -/
def Exchange.Notification.downloads (config : Config) : Notification → List Purpose
  | .roundStart => [.reloadedListing]
  | .rankingsChange => config.rankings
  | _ => []

/-- What is asked for after the answer of a download. -/
def Purpose.followers (config : Config) : Purpose → List Purpose
  | .reloadedListing => config.rankings
  | _ => []

/-- Purposes with numbers that go up from the first. -/
def numberedFrom (first : Nat) (purposes : List Purpose) : List (Nat × Purpose) :=
  (purposes.zipIdx first).map Prod.swap

theorem numberedFrom_append (first : Nat) (purposes later : List Purpose) :
    numberedFrom first (purposes ++ later) =
      numberedFrom first purposes ++ numberedFrom (first + purposes.length) later := by
  rw [numberedFrom, List.zipIdx_append, List.map_append]
  rfl

theorem mem_numberedFrom {first number : Nat} {purpose : Purpose} {purposes : List Purpose} :
    (number, purpose) ∈ numberedFrom first purposes ↔
      first ≤ number ∧ purposes[number - first]? = some purpose := by
  rw [← List.mk_mem_zipIdx_iff_le_and_getElem?_sub]
  constructor
  · intro hmem
    obtain ⟨_, hpair, hswap⟩ := List.mem_map.1 hmem
    cases hswap
    exact hpair
  · intro hmem
    exact List.mem_map.2 ⟨_, hmem, rfl⟩

theorem map_fst_numberedFrom (first : Nat) (purposes : List Purpose) :
    (numberedFrom first purposes).map (·.1) = List.range' first purposes.length := by
  rw [numberedFrom, List.map_map]
  exact List.zipIdx_map_snd first purposes

theorem map_snd_numberedFrom (first : Nat) (purposes : List Purpose) :
    (numberedFrom first purposes).map (·.2) = purposes := by
  rw [numberedFrom, List.map_map]
  exact List.zipIdx_map_fst first purposes

/-- A request asks under a number for what the number stands for. -/
def IsRequest (config : Config) (numbered : Nat × Purpose) (request : Nat × Url) : Prop :=
  request.1 = numbered.1 ∧ numbered.2.IsAt config request.2

section

variable {config : Config} {numbered : List (Nat × Purpose)} {requests : List (Nat × Url)}

/-- Requests have the numbers of what they ask for. -/
theorem map_fst_of_isRequest (hrequests : List.Forall₂ (IsRequest config) numbered requests) :
    requests.map (·.1) = numbered.map (·.1) := by
  induction hrequests with
  | nil => rfl
  | cons hfirst _ ih => rw [List.map_cons, List.map_cons, hfirst.1, ih]

/-- Whatever is numbered has been requested. -/
theorem exists_request_of_mem (hrequests : List.Forall₂ (IsRequest config) numbered requests)
    {number : Nat} {purpose : Purpose} (hmem : (number, purpose) ∈ numbered) :
    ∃ url, (number, url) ∈ requests ∧ purpose.IsAt config url := by
  induction hrequests with
  | nil => cases hmem
  | @cons first request _ _ hfirst _ ih =>
      rcases List.mem_cons.1 hmem with rfl | hlater
      · obtain ⟨_, url⟩ := request
        obtain ⟨rfl, hurl⟩ := hfirst
        exact ⟨url, List.mem_cons_self, hurl⟩
      · obtain ⟨url, hasked, hurl⟩ := ih hlater
        exact ⟨url, List.mem_cons_of_mem _ hasked, hurl⟩

end

namespace Client

/-! ## Requests -/

/-- How the client asks for downloads: it keeps its configuration, the numbers go on, and what is
asked for waits behind what has waited before. -/
structure Asks (client : Client) (purposes : List Purpose) (result : Client × List Output) :
    Prop where
  config : result.1.config = client.config
  count : result.1.downloadCount = client.downloadCount + purposes.length
  downloads : result.1.downloads =
    client.downloads ++ numberedFrom client.downloadCount purposes
  requests : List.Forall₂ (IsRequest client.config) (numberedFrom client.downloadCount purposes)
    (Output.requests result.2)

variable {client : Client} {purposes later : List Purpose} {result next : Client × List Output}

/-- What asks for no download. -/
theorem asks_nothing (hconfig : result.1.config = client.config)
    (hcount : result.1.downloadCount = client.downloadCount)
    (hdownloads : result.1.downloads = client.downloads)
    (hnone : Output.requests result.2 = []) : client.Asks [] result where
  config := hconfig
  count := hcount
  downloads := hdownloads.trans (List.append_nil _).symm
  requests := by
    rw [hnone]
    exact .nil

theorem asks_self (client : Client) {outputs : List Output}
    (hnone : Output.requests outputs = []) : client.Asks [] (client, outputs) :=
  asks_nothing rfl rfl rfl hnone

/-- One after the other, with what both put out. -/
theorem Asks.andThen (hfirst : client.Asks purposes result) (hnext : result.1.Asks later next) :
    client.Asks (purposes ++ later) (next.1, result.2 ++ next.2) where
  config := hnext.config.trans hfirst.config
  count := by rw [List.length_append, hnext.count, hfirst.count, Nat.add_assoc]
  downloads := by
    rw [numberedFrom_append, hnext.downloads, hfirst.downloads, hfirst.count, List.append_assoc]
  requests := by
    have hrequests := hnext.requests
    rw [hfirst.config, hfirst.count] at hrequests
    rw [numberedFrom_append, Output.requests_append]
    exact List.rel_append hfirst.requests hrequests

/-- One download is asked for. -/
theorem asks_fetch {purpose : Purpose} {url : Url} (hurl : purpose.IsAt client.config url) :
    client.Asks [purpose]
      ({ client with
          downloads := client.downloads ++ [(client.downloadCount, purpose)]
          downloadCount := client.downloadCount + 1 },
        [.fetch client.downloadCount url]) where
  config := rfl
  count := rfl
  downloads := rfl
  requests := .cons ⟨rfl, hurl⟩ .nil

/-! ## What asks -/

theorem asks_fetchRankings (client : Client) :
    client.Asks client.config.rankings client.fetchRankings := by
  unfold fetchRankings
  cases hpath : client.config.rankingsPath with
  | none =>
      rw [Config.rankings, hpath]
      exact client.asks_self rfl
  | some path =>
      dsimp only
      cases hurl : (rankingsDownload path).url client.config.baseUrl with
      | error error =>
          rw [rankings_of_error hpath hurl]
          exact client.asks_self rfl
      | ok url =>
          obtain ⟨hrankings, hat⟩ := rankings_of_url hpath hurl
          rw [hrankings]
          exact asks_fetch hat

theorem asks_endListing (client : Client) : client.Asks [] client.endListing :=
  asks_nothing rfl rfl rfl rfl

theorem asks_fetchListing (client : Client) {purpose : Purpose} (hother : purpose ≠ .rankings) :
    client.Asks [purpose] (client.fetchListing purpose) := by
  unfold fetchListing
  rw [client.config.url_files]
  apply asks_fetch
  cases purpose with
  | rankings => exact absurd rfl hother
  | _ => rfl

theorem asks_showListing (client : Client) (result : Except HttpError (Option String)) :
    client.Asks [] (client.showListing result) := by
  unfold showListing
  split
  · exact asks_nothing rfl rfl rfl (requests_printRegion _ _)
  · exact client.asks_self rfl

theorem asks_showRankings (client : Client) (result : Except HttpError (Option String)) :
    client.Asks [] (client.showRankings result) := by
  unfold showRankings
  split
  · exact asks_nothing rfl rfl rfl (requests_printRegion _ _)
  · exact client.asks_self rfl

/-- The download that is answered does not wait any more. -/
theorem asks_takeAnswer {number : Nat} {purpose : Purpose}
    (hfound : client.downloads.lookup number = some purpose) (answer : HttpAnswer) :
    (client.answered number).Asks (purpose.followers client.config)
      (client.takeAnswer number answer) := by
  have hlisting := (client.answered number).asks_showListing (Download.files.read answer)
  unfold takeAnswer
  rw [hfound]
  cases purpose with
  | listing => exact hlisting.andThen (asks_endListing _)
  | reloadedListing =>
      have hboth := hlisting.andThen (asks_fetchRankings _)
      rw [hlisting.config] at hboth
      exact hboth
  | rankings =>
      have hrankings := (client.answered number).asks_showRankings
        ((rankingsDownload (client.config.rankingsPath.getD "")).read answer)
      have hprompt (client : Client) : client.Asks [] (client, [client.prompt]) :=
        client.asks_self rfl
      exact hrankings.andThen (hprompt _)

/-- What is announced asks for nothing. -/
theorem asks_renderNotification (client : Client) (now : Int) (notification : Notification) :
    client.Asks (notification.downloads client.config)
      (client.renderNotification now notification) := by
  have hfollowed : ({ client with page := (client.page.render now notification).1 } : Client).Asks
      (notification.downloads client.config)
      (followUp { client with page := (client.page.render now notification).1 }
        (client.page.render now notification).2) := by
    cases notification with
    | roundStart => exact asks_fetchListing _ nofun
    | rankingsChange => exact asks_fetchRankings _
    | _ => exact asks_self _ rfl
  refine ⟨hfollowed.config, hfollowed.count, hfollowed.downloads, ?_⟩
  rw [requests_renderNotification]
  exact hfollowed.requests

theorem asks_renderNext (client : Client) (now : Int) :
    client.Asks
      (((client.rendered? now).bind Page.Happening.notification?).elim []
        fun notification => notification.downloads client.config)
      (client.renderNext now) := by
  unfold renderNext rendered?
  split
  · next hqueue =>
    rw [hqueue]
    exact client.asks_self rfl
  · next message rest hqueue =>
    rw [hqueue]
    dsimp only [List.head?_cons, Option.bind_some]
    cases Notification.decode message.topic message.body with
    | ok notification =>
        have hrendered := asks_renderNotification { client with queue := rest } now notification
        exact ⟨hrendered.config, hrendered.count, hrendered.downloads, hrendered.requests⟩
    | error error => exact asks_nothing rfl rfl rfl rfl

theorem asks_handleCommand (client : Client) (command : UserCommand) :
    client.Asks command.downloads (client.handleCommand command) := by
  cases command with
  | quit => exact asks_nothing rfl rfl rfl (Output.requests_wireOutputs _)
  | files =>
      have hother : Purpose.listing ≠ .rankings := nofun
      have hasked := asks_fetchListing { client with stage := .listing } hother
      exact ⟨hasked.config, hasked.count, hasked.downloads, hasked.requests⟩
  | _ => exact asks_nothing rfl rfl rfl rfl

theorem asks_prepareAction (client : Client) (action : Action) :
    client.Asks [] (client.prepareAction action) := by
  unfold prepareAction
  split
  · exact asks_nothing rfl rfl rfl rfl
  · split <;> exact asks_nothing rfl rfl rfl rfl

theorem asks_sendRequest (client : Client) (now : Int) (action : Action) (request : Request) :
    client.Asks [] (client.sendRequest now action request) := by
  have hnone : Output.requests (client.sendRequest now action request).2 = [] := by
    unfold sendRequest
    dsimp only
    rw [Output.requests_append, Output.requests_wireOutputs]
    rfl
  exact asks_nothing rfl rfl rfl hnone

/-! ## Moments -/

/-- The line that a turn takes up at a moment. -/
def Moment.taken? (moment : Moment) : Option String :=
  match moment.event with
  | .advance _ _ => if moment.before.stage = .ready then moment.before.lines.head? else none
  | _ => none

/-- The notification that is rendered at a moment. -/
def Moment.notification? (moment : Moment) : Option Notification :=
  moment.happening?.bind Page.Happening.notification?

/-- The download that is answered at a moment, with what it is for. -/
def Moment.answered? (moment : Moment) : Option (Nat × Purpose) :=
  match moment.event with
  | .answer number _ =>
    if moment.before.stage = .ended then none
    else (moment.before.downloads.lookup number).map (number, ·)
  | _ => none

/-- What is asked for at a moment: what the line that is taken up asks for, what is asked for after
the notification that is rendered, and what is asked for after the download that is answered. -/
def Moment.asked (moment : Moment) : List Purpose :=
  let config := moment.before.config
  (moment.taken?.elim [] fun line => (UserCommand.ofLine line).downloads) ++
    (moment.notification?.elim [] fun notification => notification.downloads config) ++
    moment.answered?.elim [] fun answered => answered.2.followers config

/-- Notifications are rendered when rendering has its turn. -/
theorem notification?_eq_none {event : Event} (hother : ∀ now, event ≠ .render now) :
    Moment.notification? ⟨client, event⟩ = none := by
  rw [Option.eq_none_iff_forall_not_mem]
  intro notification hrendered
  obtain ⟨happening, hhappening, hnotification⟩ := Option.bind_eq_some_iff.1 hrendered
  have horigin := origin_of_happening? hhappening
  cases happening with
  | rendered now _ => exact hother now horigin
  | _ => cases hnotification

/-- The client without the download that is answered at an event. -/
def relieved (client : Client) (event : Event) : Client :=
  (Moment.answered? ⟨client, event⟩).elim client fun answered => client.answered answered.1

theorem asks_advance (client : Client) (read : FileReader) (now : Int) :
    client.Asks
      ((Moment.taken? ⟨client, .advance read now⟩).elim []
        fun line => (UserCommand.ofLine line).downloads)
      (client.advance read now) := by
  have hidle (hother : client.stage ≠ .ready) :
      Moment.taken? ⟨client, .advance read now⟩ = none := if_neg hother
  unfold advance
  split
  · next hready =>
    have htaken : Moment.taken? ⟨client, .advance read now⟩ = client.lines.head? := if_pos hready
    rw [htaken]
    split
    · next line rest hlines =>
      rw [hlines]
      have hasked := asks_handleCommand { client with lines := rest } (.ofLine line)
      exact ⟨hasked.config, hasked.count, hasked.downloads, hasked.requests⟩
    · next hlines =>
      rw [hlines]
      split
      · exact client.asks_self rfl
      · exact asks_nothing rfl rfl rfl (Output.requests_wireOutputs _)
  · next hstage =>
    rw [hidle (by rw [hstage]; nofun)]
    exact client.asks_self rfl
  · next hstage =>
    rw [hidle (by rw [hstage]; nofun)]
    exact client.asks_self rfl
  · next hstage =>
    rw [hidle (by rw [hstage]; nofun)]
    exact asks_nothing rfl rfl rfl rfl
  · next hstage =>
    rw [hidle (by rw [hstage]; nofun)]
    exact client.asks_prepareAction _
  · next hstage =>
    rw [hidle (by rw [hstage]; nofun)]
    exact client.asks_sendRequest _ _ _

/-- Nothing is asked for when the client has ended. -/
theorem asked_of_ended (hended : client.stage = .ended) (event : Event) :
    Moment.asked ⟨client, event⟩ = [] ∧ Moment.answered? ⟨client, event⟩ = none := by
  have htaken : Moment.taken? ⟨client, event⟩ = none := by
    unfold Moment.taken?
    split
    · rw [if_neg (by rw [hended]; nofun)]
    · rfl
  have hanswered : Moment.answered? ⟨client, event⟩ = none := by
    unfold Moment.answered?
    split
    · exact if_pos hended
    · rfl
  have hhappening : client.happening? event = none := if_pos hended
  have hnotification : Moment.notification? ⟨client, event⟩ = none :=
    congrArg (Option.bind · _) hhappening
  refine ⟨?_, hanswered⟩
  rw [Moment.asked, htaken, hnotification, hanswered]
  rfl

/-- A step asks for what is asked for at its moment. -/
theorem asks_step (client : Client) (event : Event) :
    (client.relieved event).Asks (Moment.asked ⟨client, event⟩) (client.step event) := by
  by_cases hended : client.stage = .ended
  · obtain ⟨hasked, hanswered⟩ := asked_of_ended hended event
    rw [step_of_ended hended, relieved, hasked, hanswered]
    exact client.asks_self rfl
  · have hsilent (hother : ∀ now, event ≠ .render now) :
        Moment.notification? ⟨client, event⟩ = none := notification?_eq_none hother
    cases event with
    | advance read now =>
        rw [step, if_neg hended, Moment.asked, hsilent nofun]
        simpa [Moment.answered?, relieved] using client.asks_advance read now
    | render now =>
        have hhappening : client.happening? (.render now) = client.rendered? now := if_neg hended
        have hnotification : Moment.notification? ⟨client, .render now⟩ =
            (client.rendered? now).bind Page.Happening.notification? :=
          congrArg (Option.bind · _) hhappening
        rw [step, if_neg hended, Moment.asked, hnotification]
        simpa [Moment.answered?, Moment.taken?, relieved] using client.asks_renderNext now
    | answer number answer =>
        rw [step, if_neg hended, Moment.asked, hsilent nofun]
        cases hfound : client.downloads.lookup number with
        | some purpose =>
            simpa [Moment.answered?, Moment.taken?, relieved, hended, hfound] using
              asks_takeAnswer hfound answer
        | none =>
            have hunknown : client.takeAnswer number answer = (client, []) := by
              rw [takeAnswer, hfound]
            have hnothing : client.Asks [] (client, []) := client.asks_self rfl
            simpa [Moment.answered?, Moment.taken?, relieved, hended, hfound, hunknown] using
              hnothing
    | line text =>
        rw [step, if_neg hended, Moment.asked, hsilent nofun, takeLine]
        dsimp only
        split
        · exact client.asks_self rfl
        · exact asks_nothing rfl rfl rfl rfl
    | look channel =>
        rw [step, if_neg hended, Moment.asked, hsilent nofun, look]
        dsimp only
        split
        · exact asks_nothing rfl rfl rfl rfl
        · exact client.asks_self rfl
    | _ =>
        rw [step, if_neg hended, Moment.asked, hsilent nofun]
        exact asks_nothing rfl rfl rfl rfl

theorem config_relieved (client : Client) (event : Event) :
    (client.relieved event).config = client.config := by
  unfold relieved
  cases Moment.answered? ⟨client, event⟩ <;> rfl

theorem downloadCount_relieved (client : Client) (event : Event) :
    (client.relieved event).downloadCount = client.downloadCount := by
  unfold relieved
  cases Moment.answered? ⟨client, event⟩ <;> rfl

/-- No step changes the configuration. -/
theorem config_step_eq (client : Client) (event : Event) :
    (client.step event).1.config = client.config := by
  rw [(client.asks_step event).config, config_relieved]

theorem config_run (client : Client) (events : List Event) :
    (client.run events).1.config = client.config := by
  induction events generalizing client with
  | nil => rfl
  | cons event rest ih =>
      rw [run_cons, ih, config_step_eq]

/-! ## Numbers and answers of a run -/

/-- The downloads that are answered in a run. -/
def answers (log : List Moment) : List (Nat × Purpose) := log.filterMap Moment.answered?

/-- The downloads that are asked for at the start and in a run. -/
def asked (log : List Moment) : List Purpose := .listing :: log.flatMap Moment.asked

theorem answers_concat (log : List Moment) (moment : Moment) :
    answers (log ++ [moment]) = answers log ++ moment.answered?.toList := by
  rw [answers, List.filterMap_append, List.filterMap_cons, List.filterMap_nil]
  cases moment.answered? <;> rfl

theorem asked_concat (log : List Moment) (moment : Moment) :
    asked (log ++ [moment]) = asked log ++ moment.asked := by
  rw [asked, List.flatMap_append, List.flatMap_singleton]
  rfl

/-- How the numbers, the downloads that wait and those that have been answered stand to what has
been asked for. -/
structure Numbered (client : Client) (requests : List (Nat × Url)) (log : List Moment) : Prop where
  count : client.downloadCount = (asked log).length
  requests : List.Forall₂ (IsRequest client.config) (numberedFrom 0 (asked log)) requests
  /-- What waits has been asked for and not been answered. -/
  waiting : ∀ number purpose, (number, purpose) ∈ client.downloads ↔
    (asked log)[number]? = some purpose ∧ number ∉ (answers log).map (·.1)
  answered : ∀ number purpose, (number, purpose) ∈ answers log →
    (asked log)[number]? = some purpose
  once : ((answers log).map (·.1)).Nodup

variable {requests : List (Nat × Url)} {log : List Moment}

theorem Numbered.numbers (hnumbered : client.Numbered requests log) :
    requests.map (·.1) = List.range (asked log).length := by
  rw [map_fst_of_isRequest hnumbered.requests, map_fst_numberedFrom, List.range_eq_range']

/-- What has been answered has been requested. -/
theorem Numbered.served (hnumbered : client.Numbered requests log) (number : Nat)
    (purpose : Purpose) (hmem : (number, purpose) ∈ answers log) :
    ∃ url, (number, url) ∈ requests ∧ purpose.IsAt client.config url := by
  apply exists_request_of_mem hnumbered.requests
  exact mem_numberedFrom.2 ⟨Nat.zero_le _, hnumbered.answered number purpose hmem⟩

/-- A download that waits is found under its number. -/
theorem Numbered.lookup_eq_some_iff (hnumbered : client.Numbered requests log) {number : Nat}
    {purpose : Purpose} : client.downloads.lookup number = some purpose ↔
      (asked log)[number]? = some purpose ∧ number ∉ (answers log).map (·.1) := by
  rw [← hnumbered.waiting]
  constructor
  · intro hfound
    obtain ⟨front, back, hsplit, _⟩ := List.lookup_eq_some_iff.1 hfound
    rw [hsplit]
    simp
  · intro hmem
    cases hfound : client.downloads.lookup number with
    | none =>
        have hother := List.lookup_eq_none_iff.1 hfound _ hmem
        simp at hother
    | some other =>
        obtain ⟨front, back, hsplit, _⟩ := List.lookup_eq_some_iff.1 hfound
        have hmemOther : (number, other) ∈ client.downloads := by
          rw [hsplit]
          simp
        rw [← ((hnumbered.waiting _ _).1 hmem).1, ((hnumbered.waiting _ _).1 hmemOther).1]

/-- What is answered has waited. -/
theorem lookup_of_answered? {event : Event} {number : Nat} {purpose : Purpose}
    (hanswered : Moment.answered? ⟨client, event⟩ = some (number, purpose)) :
    client.downloads.lookup number = some purpose := by
  unfold Moment.answered? at hanswered
  split at hanswered
  · split at hanswered
    · cases hanswered
    · obtain ⟨found, hfound, hpair⟩ := Option.map_eq_some_iff.1 hanswered
      cases hpair
      exact hfound
  · cases hanswered

/-- What waits when an answer has been taken has waited before it and is not what is answered. -/
theorem mem_downloads_relieved {event : Event} {number : Nat} {purpose : Purpose} :
    (number, purpose) ∈ (client.relieved event).downloads ↔
      (number, purpose) ∈ client.downloads ∧
        number ∉ (Moment.answered? ⟨client, event⟩).toList.map (·.1) := by
  unfold relieved
  cases Moment.answered? ⟨client, event⟩ with
  | none => simp
  | some answered => simp [Client.answered]

theorem Numbered.step (hnumbered : client.Numbered requests log) (event : Event) :
    (client.step event).1.Numbered (requests ++ Output.requests (client.step event).2)
      (log ++ [⟨client, event⟩]) := by
  have hasks := client.asks_step event
  have hcount : (client.relieved event).downloadCount = (asked log).length :=
    (client.downloadCount_relieved event).trans hnumbered.count
  have hwaited {number : Nat} {purpose : Purpose}
      (hanswered : Moment.answered? ⟨client, event⟩ = some (number, purpose)) :=
    hnumbered.lookup_eq_some_iff.1 (lookup_of_answered? hanswered)
  have hlog (number : Nat) (purpose : Purpose)
      (hmem : (number, purpose) ∈ answers (log ++ [⟨client, event⟩])) :
      (asked log)[number]? = some purpose := by
    rw [answers_concat] at hmem
    rcases List.mem_append.1 hmem with hold | hnew
    · exact hnumbered.answered number purpose hold
    · exact (hwaited (Option.mem_toList.1 hnew)).1
  constructor
  · rw [hasks.count, hcount, asked_concat, List.length_append]
  · have hnew := hasks.requests
    rw [hcount, config_relieved] at hnew
    rw [hasks.config, config_relieved, asked_concat, numberedFrom_append, Nat.zero_add]
    exact List.rel_append hnumbered.requests hnew
  · intro number purpose
    have hsplit : (asked (log ++ [⟨client, event⟩]))[number]? = some purpose ↔
        (asked log)[number]? = some purpose ∨
          (asked log).length ≤ number ∧
            (Moment.asked ⟨client, event⟩)[number - (asked log).length]? = some purpose := by
      rw [asked_concat, List.getElem?_append]
      split
      · next hlt => simp [Nat.not_le.2 hlt]
      · next hle => simp [Nat.not_lt.1 hle]
    -- What is asked for now has not been answered.
    have hold : number ∈ (answers (log ++ [⟨client, event⟩])).map (·.1) →
        number < (asked log).length := by
      intro hanswered
      obtain ⟨⟨_, other⟩, hmem, rfl⟩ := List.mem_map.1 hanswered
      exact (List.getElem?_eq_some_iff.1 (hlog _ other hmem)).1
    rw [hasks.downloads, List.mem_append, mem_downloads_relieved, hnumbered.waiting,
      mem_numberedFrom, hcount, hsplit]
    rw [answers_concat, List.map_append, List.mem_append] at hold ⊢
    constructor
    · rintro (⟨⟨hasked, hopen⟩, hother⟩ | ⟨hle, hasked⟩)
      · exact ⟨.inl hasked, not_or.2 ⟨hopen, hother⟩⟩
      · exact ⟨.inr ⟨hle, hasked⟩, fun hanswered => Nat.not_le.2 (hold hanswered) hle⟩
    · rintro ⟨hasked | hasked, hopen⟩
      · exact .inl ⟨⟨hasked, fun h => hopen (.inl h)⟩, fun h => hopen (.inr h)⟩
      · exact .inr hasked
  · intro number purpose hmem
    have hasked := hlog number purpose hmem
    obtain ⟨hlt, _⟩ := List.getElem?_eq_some_iff.1 hasked
    rw [asked_concat, List.getElem?_append_left hlt, hasked]
  · rw [answers_concat, List.map_append]
    refine List.nodup_append.2 ⟨hnumbered.once, ?_, ?_⟩
    · cases Moment.answered? ⟨client, event⟩ <;> simp
    · rintro number hold _ hnew rfl
      obtain ⟨⟨_, purpose⟩, hserved, rfl⟩ := List.mem_map.1 hnew
      exact (hwaited (Option.mem_toList.1 hserved)).2 hold

theorem Numbered.run (hnumbered : client.Numbered requests log) (events : List Event) :
    (client.run events).1.Numbered (requests ++ Output.requests (client.run events).2)
      (log ++ client.moments events) := by
  induction events generalizing client requests log with
  | nil =>
      change client.Numbered (requests ++ []) (log ++ [])
      rw [List.append_nil, List.append_nil]
      exact hnumbered
  | cons event rest ih =>
      have hrest := ih (hnumbered.step event)
      rw [List.append_assoc, List.append_assoc, ← Output.requests_append] at hrest
      exact hrest

/-- A client that starts has asked for the listing and for nothing else. -/
theorem exists_requests_of_start {config : Config} {read : FileReader} {attempt : Channel → Attempt}
    {meanwhile : Task → List Incident} {outputs : List Output}
    (hstart : start config read attempt meanwhile = (.ok client, outputs)) :
    ∃ page opening, client = ((opened config page opening).fetchListing .listing).1 ∧
      Output.requests outputs =
        Output.requests ((opened config page opening).fetchListing .listing).2 := by
  unfold start at hstart
  split at hstart
  · cases hstart
  · next page _ =>
    dsimp only at hstart
    split at hstart
    · cases hstart
    · cases hstart
      refine ⟨page, firstOpening config attempt meanwhile, rfl, ?_⟩
      rw [Output.requests_append, Output.requests_wireOutputs]
      rfl

theorem config_of_start {config : Config} {read : FileReader} {attempt : Channel → Attempt}
    {meanwhile : Task → List Incident} {outputs : List Output}
    (hstart : start config read attempt meanwhile = (.ok client, outputs)) :
    client.config = config := by
  obtain ⟨page, opening, rfl, _⟩ := exists_requests_of_start hstart
  have hother : Purpose.listing ≠ .rankings := nofun
  exact ((opened config page opening).asks_fetchListing hother).config

/-- The numbers begin at the start. -/
theorem numbered_of_start {config : Config} {read : FileReader} {attempt : Channel → Attempt}
    {meanwhile : Task → List Incident} {outputs : List Output}
    (hstart : start config read attempt meanwhile = (.ok client, outputs)) :
    client.Numbered (Output.requests outputs) [] := by
  obtain ⟨page, opening, rfl, hrequests⟩ := exists_requests_of_start hstart
  have hother : Purpose.listing ≠ .rankings := nofun
  have hasks := (opened config page opening).asks_fetchListing hother
  rw [hrequests]
  constructor
  · exact hasks.count
  · rw [hasks.config]
    exact hasks.requests
  · intro number purpose
    rw [hasks.downloads]
    change (number, purpose) ∈ numberedFrom 0 [.listing] ↔ _
    rw [mem_numberedFrom]
    simp [asked, answers]
  · nofun
  · exact List.nodup_nil

end Client

end ClassroomClient
