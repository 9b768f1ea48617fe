/-
# Rankings in the order of their answers

Whenever the rankings may have changed, the client asks for them again, beside everything else and
without waiting for earlier answers. Each answer is shown when it comes: what the page shows are the
rankings answered last since the last new round was rendered. If the answers come in the order of
the requests, these are the newest. If they do not, an earlier request that is answered late
replaces what a later one has brought.
-/

import ClassroomClient.Proofs.Client.Downloads
import ClassroomClient.Proofs.Page.Shared

namespace ClassroomClient

open Exchange Stomp

namespace Client

/-! ## Rankings that are brought -/

/-- Whether a new round is rendered at a moment. -/
def Moment.reloads (moment : Moment) : Bool :=
  moment.happening?.bind Page.Happening.notification? matches some .roundStart

/-- The rankings that an answer brings at a moment, with the number of their download. -/
def Moment.rankings? (moment : Moment) : Option (Nat × String) :=
  match moment.event, moment.happening? with
  | .answer number _, some (.written name text) =>
    if name = Region.rankings then some (number, text) else none
  | _, _ => none

/-- The rankings that have been brought since the last new round was rendered, in the order of the
answers. -/
def rankingsSince (log : List Moment) : List (Nat × String) :=
  (log.reverse.takeWhile fun moment => !moment.reloads).reverse.filterMap Moment.rankings?

variable {log : List Moment} {moment : Moment}

theorem rankingsSince_concat_of_reloads (hreloads : moment.reloads = true) :
    rankingsSince (log ++ [moment]) = [] := by
  simp [rankingsSince, hreloads]

theorem rankingsSince_concat (hkeeps : moment.reloads = false) :
    rankingsSince (log ++ [moment]) = rankingsSince log ++ moment.rankings?.toList := by
  cases hbrought : moment.rankings? <;> simp [rankingsSince, hkeeps, hbrought]

/-- Only what is written into a region can be rankings. -/
theorem rankings?_eq_none
    (hother : ∀ name text, moment.happening? ≠ some (.written name text)) :
    moment.rankings? = none := by
  unfold Moment.rankings?
  split
  · next name text _ hhappening => exact absurd hhappening (hother name text)
  · rfl

/-- Rankings are the answer of a download for them. -/
theorem answered?_of_rankings? {number : Nat} {text : String}
    (hbrought : moment.rankings? = some (number, text)) :
    moment.answered? = some (number, .rankings) := by
  obtain ⟨client, event⟩ := moment
  unfold Moment.rankings? at hbrought
  split at hbrought
  · next other answer name written hevent hhappening =>
    cases hevent
    split at hbrought
    · next hname =>
      obtain ⟨rfl, rfl⟩ := Prod.mk.inj (Option.some.inj hbrought)
      obtain ⟨_, _, purpose, hsame, hfound, hregion⟩ := region_of_written hhappening
      cases hsame
      have hrunning : client.stage ≠ .ended := by
        intro hended
        rw [Moment.happening?, happening?, if_pos hended] at hhappening
        cases hhappening
      have hpurpose : purpose = .rankings := by
        rw [hname] at hregion
        cases purpose with
        | rankings => rfl
        | _ => exact absurd hregion (by decide)
      rw [Moment.answered?]
      dsimp only
      rw [if_neg hrunning, hfound, hpurpose]
      rfl
    · cases hbrought
  · cases hbrought

/-- Rankings that were brought are downloads that were answered, in the same order. -/
theorem map_rankingsSince_sublist (log : List Moment) :
    ((rankingsSince log).map fun brought => (brought.1, Purpose.rankings)).Sublist
      (answers log) := by
  have hanswers (moments : List Moment) :
      ((moments.filterMap Moment.rankings?).map fun brought =>
        (brought.1, Purpose.rankings)).Sublist (answers moments) := by
    induction moments with
    | nil => exact .slnil
    | cons moment rest ih =>
        rw [answers, List.filterMap_cons, List.filterMap_cons]
        cases hbrought : moment.rankings? with
        | none =>
            cases moment.answered? with
            | none => exact ih
            | some answered => exact ih.cons answered
        | some brought =>
            rw [answered?_of_rankings? hbrought]
            exact ih.cons_cons (brought.1, .rankings)
  have hsince : (log.reverse.takeWhile fun moment => !moment.reloads).reverse.Sublist log := by
    rw [← List.sublist_reverse_iff]
    exact List.takeWhile_sublist _
  exact (hanswers _).trans (hsince.filterMap _)

/-- What happens to the page at a moment, seen by the region for rankings. -/
theorem written?_of_happening? {happening : Page.Happening}
    (hhappening : moment.happening? = some happening) (old : Option String) :
    Page.written? Region.rankings old happening =
      if moment.reloads then none else (moment.rankings?.map (·.2)).or old := by
  obtain ⟨client, event⟩ := moment
  cases happening with
  | rendered now notification =>
      have hnone : Moment.rankings? ⟨client, event⟩ = none := by
        apply rankings?_eq_none
        rw [hhappening]
        rintro _ _ ⟨⟩
      rw [Moment.reloads, hhappening, hnone]
      cases notification <;> rfl
  | written name text =>
      obtain ⟨number, answer, _, rfl, _, _⟩ := region_of_written hhappening
      rw [Moment.reloads, Moment.rankings?, hhappening]
      dsimp only [Page.written?]
      by_cases hname : name = Region.rankings
      · subst hname
        rfl
      · rw [if_neg hname, if_neg (Ne.symm hname)]
        rfl
  | _ =>
      have hnone : Moment.rankings? ⟨client, event⟩ = none := by
        apply rankings?_eq_none
        rw [hhappening]
        rintro _ _ ⟨⟩
      rw [Moment.reloads, hhappening, hnone]
      rfl

/-! ## The invariant -/

/-- The page shows the rankings that were answered last, and does not take them for the output of a
test. -/
structure ShowsRankings (client : Client) (log : List Moment) : Prop where
  region : client.page.region? Region.rankings = (rankingsSince log).getLast?.map (·.2)
  untracked : client.page.testRegions.contains Region.rankings = false

variable {client : Client}

theorem ShowsRankings.step (hshows : client.ShowsRankings log) (event : Event)
    (hspares : ∀ happening, client.happening? event = some happening →
      happening.Spares Region.rankings) :
    (client.step event).1.ShowsRankings (log ++ [⟨client, event⟩]) := by
  have hpage := client.page_step event
  cases hhappening : client.happening? event with
  | none =>
      have hkeeps : Moment.reloads ⟨client, event⟩ = false := by
        rw [Moment.reloads, Moment.happening?, hhappening]
        rfl
      have hnone : Moment.rankings? ⟨client, event⟩ = none := by
        apply rankings?_eq_none
        rw [Moment.happening?, hhappening]
        rintro _ _ ⟨⟩
      have hsame : (client.step event).1.page = client.page := by
        rw [hpage, hhappening]
        rfl
      constructor
      · rw [hsame, rankingsSince_concat hkeeps, hnone, Option.toList_none, List.append_nil]
        exact hshows.region
      · rw [hsame]
        exact hshows.untracked
  | some happening =>
      have hperformed : (client.step event).1.page = client.page.perform happening := by
        rw [hpage, hhappening]
        rfl
      obtain ⟨hregion, huntracked⟩ := Page.region?_perform hshows.untracked
        (hspares happening hhappening) (by decide) (.inl (by decide))
      have hmoment : Moment.happening? ⟨client, event⟩ = some happening := hhappening
      rw [written?_of_happening? hmoment] at hregion
      rw [← hperformed] at hregion huntracked
      refine ⟨hregion.trans ?_, huntracked⟩
      cases hreloads : Moment.reloads ⟨client, event⟩ with
      | true =>
          rw [rankingsSince_concat_of_reloads hreloads]
          rfl
      | false =>
          rw [rankingsSince_concat hreloads, hshows.region]
          cases Moment.rankings? ⟨client, event⟩ <;> simp

theorem ShowsRankings.run (hshows : client.ShowsRankings log) {events : List Event}
    (hspares : ∀ happening ∈ client.happenings events, happening.Spares Region.rankings) :
    (client.run events).1.ShowsRankings (log ++ client.moments events) := by
  induction events generalizing client log with
  | nil =>
      rw [moments_nil, List.append_nil]
      exact hshows
  | cons event rest ih =>
      rw [happenings_cons] at hspares
      have hfirst := hshows.step event fun happening hhappening =>
        hspares happening (List.mem_append_left _ (Option.mem_toList.2 hhappening))
      have hrest := ih hfirst fun happening hmem =>
        hspares happening (List.mem_append_right _ hmem)
      rw [List.append_assoc] at hrest
      exact hrest

/-- A client starts without rankings. -/
theorem showsRankings_of_start {config : Config} {read : FileReader} {attempt : Channel → Attempt}
    {meanwhile : Task → List Incident} {outputs : List Output}
    (hstart : start config read attempt meanwhile = (.ok client, outputs)) :
    client.ShowsRankings [] := by
  obtain ⟨page, hload, _, hcore⟩ := core_of_start hstart
  have hpage : client.page = page := congrArg (·.1) hcore
  have hfresh : page.region? Region.rankings = none ∧
      page.testRegions.contains Region.rankings = false := by
    apply loadPage_induction hload
    · exact ⟨rfl, rfl⟩
    · intro page name kind content hfresh
      exact hfresh
  rw [← hpage] at hfresh
  exact ⟨hfresh.1, hfresh.2⟩

/-! ## The newest rankings -/

/-- What is answered in the order of the requests leaves the newest answer as the last. -/
theorem getLast?_of_pairwise {brought : List (Nat × String)}
    (hordered : (brought.map (·.1)).Pairwise (· < ·)) {newest : Nat × String}
    (hmem : newest ∈ brought) (hnewest : ∀ other ∈ brought, other.1 ≤ newest.1) :
    brought.getLast? = some newest := by
  induction brought with
  | nil => cases hmem
  | cons first rest ih =>
      rw [List.map_cons, List.pairwise_cons] at hordered
      obtain ⟨hfirst, hrest⟩ := hordered
      rcases List.mem_cons.1 hmem with rfl | hlater
      · cases rest with
        | nil => rfl
        | cons second others =>
            have hlt := hfirst second.1 List.mem_cons_self
            have hle := hnewest second (List.mem_cons_of_mem _ List.mem_cons_self)
            omega
      · rw [List.getLast?_cons, ih hrest hlater fun other hother =>
          hnewest other (List.mem_cons_of_mem _ hother)]
        rfl

/-- The rankings that a client shows after any events among which is no result of a test with the
name of their region. Requests are numbered in their order, and what has been brought answers as
many different requests for the rankings. The page shows the rankings that were answered last since
the last new round was rendered, and none if there are none. If the answers came in the order of the
requests, these are the newest ones: no answer to an earlier request has replaced that to a later
one. -/
theorem rankings_of_start {config : Config} {read : FileReader} {attempt : Channel → Attempt}
    {meanwhile : Task → List Incident} {outputs : List Output}
    (hstart : start config read attempt meanwhile = (.ok client, outputs))
    {events : List Event}
    (hspares : ∀ feedback, .testResult feedback ∈ client.notifications events →
      feedback.test ≠ some Region.rankings) :
    let requests := Output.requests (outputs ++ (client.run events).2)
    let brought := rankingsSince (client.moments events)
    let shown := (client.run events).1.page.region? Region.rankings
    (requests.map (·.1)).Pairwise (· < ·) ∧
      (brought.map (·.1)).Nodup ∧
      (∀ rankings ∈ brought, ∃ path url, config.rankingsPath = some path ∧
        (rankingsDownload path).url config.baseUrl = .ok url ∧ (rankings.1, url) ∈ requests) ∧
      shown = brought.getLast?.map (·.2) ∧
      ((brought.map (·.1)).Pairwise (· < ·) → ∀ newest ∈ brought,
        (∀ other ∈ brought, other.1 ≤ newest.1) → shown = some newest.2) := by
  intro requests brought shown
  have hnumbered := (numbered_of_start hstart).run events
  rw [List.nil_append, ← Output.requests_append] at hnumbered
  have hspared : ∀ happening ∈ client.happenings events, happening.Spares Region.rankings := by
    intro happening hmem feedback hresult
    exact hspares feedback (List.mem_filterMap.2 ⟨happening, hmem, hresult⟩)
  have hshown : shown = brought.getLast?.map (·.2) :=
    ((showsRankings_of_start hstart).run hspared).region
  have hsublist := map_rankingsSince_sublist (client.moments events)
  have hconfig : (client.run events).1.config = config :=
    (client.config_run events).trans (config_of_start hstart)
  refine ⟨?_, ?_, ?_, hshown, ?_⟩
  · rw [hnumbered.numbers]
    exact List.pairwise_lt_range
  · have hnumbers := (hsublist.map (·.1)).nodup hnumbered.once
    rwa [List.map_map] at hnumbers
  · intro rankings hmem
    have hserved : (rankings.1, Purpose.rankings) ∈ answers (client.moments events) :=
      hsublist.mem (List.mem_map.2 ⟨rankings, hmem, rfl⟩)
    obtain ⟨url, hasked, path, hpath, hjoin, hscheme⟩ := hnumbered.served _ _ hserved
    rw [hconfig] at hpath hjoin
    exact ⟨path, url, hpath, Download.url_eq_ok.2 ⟨hjoin, Url.isWeb_iff.2 hscheme⟩, hasked⟩
  · intro hordered newest hmem hnewest
    rw [hshown, getLast?_of_pairwise hordered hmem hnewest]
    rfl

/-- Two changes of the rankings are answered in the order in which they came, and the page shows the
answer to the second. -/
theorem rankings_of_start_ordered :
    let config : Config := { Session.localConfig with rankingsPath := some "/rankings" }
    let change : Frame := Frame.bare .message [("destination", "/queue/testfeedback")]
    let changed : Event := .receive .feedback (.text change.encode)
    let answer (number : Nat) (body : String) : Event := .answer number (.response 200 body)
    let events : List Event := [answer 0 "", changed, changed, .render 1, .render 2,
      answer 1 "<p id=\"table\">old</p>", answer 2 "<p id=\"table\">new</p>"]
    ∃ client outputs,
      start config (fun _ => .ok "") (fun _ => Manager.grantedAttempt) = (.ok client, outputs) ∧
        (∀ feedback, .testResult feedback ∈ client.notifications events →
          feedback.test ≠ some Region.rankings) ∧
        (client.run events).1.page.region? Region.rankings = some "new" := by
  intro config change changed answer events
  have hseen : ∃ client ∈
      (start config (fun _ => .ok "") fun _ => Manager.grantedAttempt).1.toOption,
        rankingsSince (client.moments events) = [(1, "old"), (2, "new")] ∧
          (client.notifications events).map Notification.kind =
            ["rankings-refresh", "rankings-refresh"] := by
    decide +kernel
  obtain ⟨client, outputs, hstart, hbrought, hkinds⟩ := exists_of_start hseen
  have hspares (feedback : Feedback)
      (hmem : .testResult feedback ∈ client.notifications events) :
      feedback.test ≠ some Region.rankings := by
    have hkind : "test-result" ∈ (client.notifications events).map Notification.kind :=
      List.mem_map_of_mem hmem
    rw [hkinds] at hkind
    exact absurd hkind (by decide)
  obtain ⟨_, _, _, _, hnewest⟩ := rankings_of_start hstart hspares
  refine ⟨client, outputs, hstart, hspares, ?_⟩
  rw [hbrought] at hnewest
  exact hnewest (by decide) (2, "new") (by decide) (by decide)

/-- Two changes of the rankings are answered in the opposite order. Nothing is waited for any more,
and the page shows the answer to the first. -/
theorem rankings_of_late_answer :
    let config : Config := { Session.localConfig with rankingsPath := some "/rankings" }
    let change : Frame := Frame.bare .message [("destination", "/queue/testfeedback")]
    let changed : Event := .receive .feedback (.text change.encode)
    let answer (number : Nat) (body : String) : Event := .answer number (.response 200 body)
    let events : List Event := [answer 0 "", changed, changed, .render 1, .render 2,
      answer 2 "<p id=\"table\">new</p>", answer 1 "<p id=\"table\">old</p>"]
    ∃ client outputs,
      start config (fun _ => .ok "") (fun _ => Manager.grantedAttempt) = (.ok client, outputs) ∧
        (Output.requests (client.run events).2).map (·.1) = [1, 2] ∧
        (client.run events).1.downloads = [] ∧
        rankingsSince (client.moments events) = [(2, "new"), (1, "old")] ∧
        (client.run events).1.page.region? Region.rankings = some "old" := by
  intro config change changed answer events
  apply exists_of_start
  decide +kernel

end Client

end ClassroomClient
