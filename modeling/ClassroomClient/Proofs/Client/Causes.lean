/-
# What outputs belong to

Everything that a client puts out belongs to something: to the start or a line, to the announcement
of a notification, to what follows one, to a loss, or to the end. A tally goes along with a run. It
numbers lines and notifications as they come and keeps for each download what asked for it, so that
an answer that comes late is put down to what it is for. Whatever is complete is closed, and nothing
that is closed puts anything out again.
-/

import ClassroomClient.Proofs.Client.Printing
import Mathlib.Data.List.Nodup

namespace ClassroomClient

open Exchange

/-- What outputs belong to. -/
inductive Cause
  /-- The start, as number zero, or the handling of a line, numbered as they are taken up. -/
  | work (number : Nat)
  /-- The announcement of a notification, numbered as they are rendered. -/
  | message (number : Nat)
  /-- What follows the notification of a number. -/
  | followUp (number : Nat)
  | loss (channel : Channel)
  | farewell
  deriving DecidableEq

namespace Client

/-! ## Moments -/

/-- What is put out at a moment behind the announcement of a notification. -/
def Moment.pursued (moment : Moment) : List Output := moment.outputs.drop moment.spoken.length

theorem Moment.outputs_eq {moment : Moment} (hsound : moment.before.IsSound) :
    moment.outputs = moment.spoken ++ moment.pursued ∧
      Speaks moment.before.config.team moment.event moment.isLast moment.pursued := by
  obtain ⟨pursued, houtputs, hspeaks⟩ := exists_pursued hsound moment.event
  have hpursued : moment.pursued = pursued := by
    rw [Moment.pursued, Moment.outputs, houtputs]
    exact List.drop_left
  rw [hpursued]
  exact ⟨houtputs, hspeaks⟩

variable {client : Client} {event : Event}

theorem asked_advance (client : Client) (read : FileReader) (now : Int) :
    Moment.asked ⟨client, .advance read now⟩ =
      (Moment.taken? ⟨client, .advance read now⟩).elim []
        fun line => (UserCommand.ofLine line).downloads := by
  have hsilent : Moment.notification? ⟨client, .advance read now⟩ = none :=
    notification?_eq_none (by simp)
  simp [Moment.asked, Moment.answered?, hsilent]

theorem asked_render (client : Client) (now : Int) :
    Moment.asked ⟨client, .render now⟩ =
      (Moment.notification? ⟨client, .render now⟩).elim []
        fun notification => notification.downloads client.config := by
  simp [Moment.asked, Moment.answered?, Moment.taken?]

theorem asked_answer (client : Client) (number : Nat) (answer : HttpAnswer) :
    Moment.asked ⟨client, .answer number answer⟩ =
      (Moment.answered? ⟨client, .answer number answer⟩).elim []
        fun answered => answered.2.followers client.config := by
  have hsilent : Moment.notification? ⟨client, .answer number answer⟩ = none :=
    notification?_eq_none (by simp)
  simp [Moment.asked, Moment.taken?, hsilent]

/-- The rankings are asked for at most once at a time. -/
theorem rankings_cases (config : Config) :
    config.rankings = [] ∨ config.rankings = [.rankings] := by
  unfold Config.rankings
  split
  · exact .inl rfl
  · split
    · split
      · exact .inr rfl
      · exact .inl rfl
    · exact .inl rfl

/-- A line is taken up when nothing else is in hand. -/
theorem ready_of_taken? {line : String} (htaken : Moment.taken? ⟨client, event⟩ = some line) :
    (∃ read now, event = .advance read now) ∧ client.stage = .ready ∧
      ∃ rest, client.lines = line :: rest := by
  unfold Moment.taken? at htaken
  split at htaken
  · next read now hevent =>
    split at htaken
    · next hready => exact ⟨⟨read, now, hevent⟩, hready, List.head?_eq_some_iff.1 htaken⟩
    · cases htaken
  · cases htaken

/-- The turn that takes up a line begins to handle its command. -/
theorem step_of_taken? {read : FileReader} {now : Int} {line : String}
    (htaken : Moment.taken? ⟨client, .advance read now⟩ = some line) :
    ∃ rest, client.lines = line :: rest ∧
      client.step (.advance read now) =
        { client with lines := rest }.handleCommand (.ofLine line) := by
  obtain ⟨-, hready, rest, hlines⟩ := ready_of_taken? htaken
  refine ⟨rest, hlines, ?_⟩
  rw [step, if_neg (by simp [hready])]
  simp only [advance, hready, hlines]

theorem stage_handleCommand_files (client : Client) :
    (client.handleCommand .files).1.stage = .listing := by
  simp only [handleCommand, fetchListing, client.config.url_files]

/-- What asks for a download at a moment: the listing is asked for by a line that is taken up,
anything else by a notification or by an answer for what follows one. -/
theorem asked_cases (client : Client) (event : Event) :
    Moment.asked ⟨client, event⟩ = [] ∨
      (Moment.asked ⟨client, event⟩ = [.listing] ∧ client.stage = .ready ∧
        (Moment.taken? ⟨client, event⟩).isSome ∧ (client.step event).1.stage = .listing) ∨
      ∃ purpose, Moment.asked ⟨client, event⟩ = [purpose] ∧ purpose ≠ .listing ∧
        ((∃ notification, Moment.notification? ⟨client, event⟩ = some notification ∧
            notification.isFollowed = true) ∨
          ∃ answered, Moment.answered? ⟨client, event⟩ = some answered ∧
            answered.2 ≠ .listing) := by
  cases event with
  | advance read now =>
      rw [asked_advance]
      cases htaken : Moment.taken? ⟨client, .advance read now⟩ with
      | none => exact .inl rfl
      | some line =>
          obtain ⟨-, hready, -⟩ := ready_of_taken? htaken
          obtain ⟨rest, -, hstep⟩ := step_of_taken? htaken
          rw [hstep, Option.elim_some]
          cases UserCommand.ofLine line with
          | files => exact .inr (.inl ⟨rfl, hready, rfl, stage_handleCommand_files _⟩)
          | _ => exact .inl rfl
  | render now =>
      rw [asked_render]
      cases Moment.notification? ⟨client, .render now⟩ with
      | none => exact .inl rfl
      | some notification =>
          cases notification with
          | roundStart => exact .inr (.inr ⟨_, rfl, nofun, .inl ⟨_, rfl, rfl⟩⟩)
          | rankingsChange =>
              rcases rankings_cases client.config with hnone | hone
              · exact .inl hnone
              · exact .inr (.inr ⟨_, hone, nofun, .inl ⟨_, rfl, rfl⟩⟩)
          | _ => exact .inl rfl
  | answer number answer =>
      rw [asked_answer]
      cases Moment.answered? ⟨client, .answer number answer⟩ with
      | none => exact .inl rfl
      | some answered =>
          obtain ⟨number, purpose⟩ := answered
          cases purpose with
          | reloadedListing =>
              rcases rankings_cases client.config with hnone | hone
              · exact .inl hnone
              · exact .inr (.inr ⟨_, hone, nofun, .inr ⟨_, rfl, nofun⟩⟩)
          | _ => exact .inl rfl
  | _ =>
      left
      simp [Moment.asked, Moment.taken?, Moment.answered?, notification?_eq_none]

/-- At most one download is asked for at a time. -/
theorem asked_eq_nil_or_singleton (client : Client) (event : Event) :
    Moment.asked ⟨client, event⟩ = [] ∨
      ∃ purpose, Moment.asked ⟨client, event⟩ = [purpose] := by
  rcases client.asked_cases event with hnone | ⟨hlisting, -⟩ | ⟨purpose, hpurpose, -⟩
  · exact .inl hnone
  · exact .inr ⟨_, hlisting⟩
  · exact .inr ⟨purpose, hpurpose⟩

/-! ## Stages -/

/-- Only turns and answers move the handling of lines on. -/
theorem stage_step_of_other (hturn : ∀ read now, event ≠ .advance read now)
    (hanswer : ∀ number answer, event ≠ .answer number answer) :
    (client.step event).1.stage = client.stage := by
  have hchange := client.step_change event
  generalize client.step event = result at hchange ⊢
  cases hchange with
  | quiet hmoves => exact hmoves.stage
  | stopped hrenders hmoves => exact hmoves.stage
  | started hrenders hmoves => exact hmoves.stage
  | listed hrunning hlisting hmoves => exact absurd rfl (hanswer _ _)
  | _ => exact absurd rfl (hturn _ _)

/-- The listing that the line in hand waits for ends the line, and no other answer moves it on. -/
theorem stage_takeAnswer {number : Nat} {purpose : Purpose}
    (hfound : client.downloads.lookup number = some purpose) (answer : HttpAnswer) :
    (client.takeAnswer number answer).1.stage =
      if purpose = .listing then .ready else client.stage := by
  unfold takeAnswer
  rw [hfound]
  cases purpose with
  | listing => rfl
  | reloadedListing =>
      exact (moves_fetchRankings _).stage.trans (moves_showListing (client.answered number) _).stage
  | rankings => exact (moves_showRankings (client.answered number) _).stage

theorem running_of_answered? {answered : Nat × Purpose}
    (hanswered : Moment.answered? ⟨client, event⟩ = some answered) :
    (∃ answer, event = .answer answered.1 answer) ∧ client.stage ≠ .ended := by
  unfold Moment.answered? at hanswered
  split at hanswered
  · next number answer hevent =>
    split at hanswered
    · cases hanswered
    · next hrunning =>
      obtain ⟨found, -, rfl⟩ := Option.map_eq_some_iff.1 hanswered
      exact ⟨⟨answer, hevent⟩, hrunning⟩
  · cases hanswered

theorem stage_of_answered? {answered : Nat × Purpose}
    (hanswered : Moment.answered? ⟨client, event⟩ = some answered) :
    (client.step event).1.stage = if answered.2 = .listing then .ready else client.stage := by
  obtain ⟨⟨answer, rfl⟩, hrunning⟩ := running_of_answered? hanswered
  rw [step, if_neg hrunning]
  exact stage_takeAnswer (lookup_of_answered? hanswered) answer

/-- An answer that nobody waits for is passed over. -/
theorem step_of_answered?_none {number : Nat} {answer : HttpAnswer}
    (hnone : Moment.answered? ⟨client, .answer number answer⟩ = none) :
    client.step (.answer number answer) = (client, []) := by
  by_cases hended : client.stage = .ended
  · exact step_of_ended hended _
  · have hunknown : client.downloads.lookup number = none := by
      simpa [Moment.answered?, hended] using hnone
    rw [step, if_neg hended]
    simp only [takeAnswer, hunknown]

theorem isLast_of_answered?_none {number : Nat} {answer : HttpAnswer}
    (hnone : Moment.answered? ⟨client, .answer number answer⟩ = none) :
    Moment.isLast ⟨client, .answer number answer⟩ = false := by
  rw [Moment.isLast, hnone]
  rfl

/-- A turn finds nothing to do while a line waits for its listing. -/
theorem step_advance_of_listing (hstage : client.stage = .listing) (read : FileReader) (now : Int) :
    client.step (.advance read now) = (client, []) := by
  rw [step, if_neg (by simp [hstage])]
  simp only [advance, hstage]

/-- A turn that finds no line does nothing, or it ends the client. -/
theorem step_advance_of_no_line {read : FileReader} {now : Int} (hready : client.stage = .ready)
    (hnone : Moment.taken? ⟨client, .advance read now⟩ = none) :
    client.step (.advance read now) = (client, []) ∨
      (client.step (.advance read now)).1.stage = .ended := by
  have hlines : client.lines = [] := by
    have htaken : Moment.taken? ⟨client, .advance read now⟩ = client.lines.head? := if_pos hready
    rw [hnone] at htaken
    exact List.head?_eq_none_iff.1 htaken.symm
  rw [step, if_neg (by simp [hready])]
  simp only [advance, hready, hlines]
  split
  · exact .inl rfl
  · exact .inr rfl

/-- A client without work in hand gets some by taking up a line only. -/
theorem stage_step_of_idle (hidle : client.stage = .ready ∨ client.stage = .ended)
    (hnone : Moment.taken? ⟨client, event⟩ = none) :
    (client.step event).1.stage = .ready ∨ (client.step event).1.stage = .ended := by
  rcases hidle with hready | hended
  · cases event with
    | advance read now =>
        rcases step_advance_of_no_line hready hnone with hsame | hended
        · rw [hsame]
          exact .inl hready
        · exact .inr hended
    | answer number answer =>
        cases hanswered : Moment.answered? ⟨client, .answer number answer⟩ with
        | none =>
            rw [step_of_answered?_none hanswered]
            exact .inl hready
        | some answered =>
            rw [stage_of_answered? hanswered, hready]
            split <;> exact .inl rfl
    | _ =>
        rw [stage_step_of_other (by simp) (by simp)]
        exact .inl hready
  · rw [step_of_ended hended]
    exact .inr hended

/-! ## Downloads -/

theorem mem_of_answered? {answered : Nat × Purpose}
    (hanswered : Moment.answered? ⟨client, event⟩ = some answered) :
    answered ∈ client.downloads := by
  obtain ⟨front, back, hsplit, _⟩ := List.lookup_eq_some_iff.1 (lookup_of_answered? hanswered)
  rw [hsplit]
  simp

theorem downloads_step (client : Client) (event : Event) :
    (client.step event).1.downloads = (client.relieved event).downloads ++
      numberedFrom client.downloadCount (Moment.asked ⟨client, event⟩) := by
  rw [(client.asks_step event).downloads, downloadCount_relieved]

theorem relieved_sublist (client : Client) (event : Event) :
    (client.relieved event).downloads.Sublist client.downloads := by
  unfold relieved
  cases Moment.answered? ⟨client, event⟩ with
  | none => exact List.Sublist.refl _
  | some answered => exact List.filter_sublist

/-- What is answered does not wait any more. -/
theorem ne_of_answered? {waiting answered : Nat × Purpose}
    (hmem : waiting ∈ (client.relieved event).downloads)
    (hanswered : Moment.answered? ⟨client, event⟩ = some answered) : waiting ≠ answered := by
  rintro rfl
  have hopen := (mem_downloads_relieved.1 hmem).2
  rw [hanswered] at hopen
  exact hopen (by simp)

/-! ## Tallies -/

/-- How far a run has got: how many lines have been taken up and how many notifications have been
rendered, and what asked for each download. -/
structure Tally where
  lines : Nat := 0
  messages : Nat := 0
  askers : List Cause := [.work 0]

namespace Tally

/-- The lines that have been taken up after a moment. -/
def linesAfter (tally : Tally) (moment : Moment) : Nat :=
  tally.lines + moment.taken?.toList.length

/-- What a moment works for, beside the announcement of a notification. -/
def cause (tally : Tally) (moment : Moment) : Cause :=
  match moment.event with
  | .render _ => .followUp tally.messages
  | .answer number _ => tally.askers.getD number .farewell
  | .look channel => .loss channel
  | _ => if moment.after.stage = .ended then .farewell else .work (tally.linesAfter moment)

/-- The tally after a moment. -/
def next (tally : Tally) (moment : Moment) : Tally where
  lines := tally.linesAfter moment
  messages := tally.messages + moment.notification?.toList.length
  askers := tally.askers ++ moment.asked.map fun _ => tally.cause moment

/-- What a moment puts out, with what it belongs to. -/
def traced (tally : Tally) (moment : Moment) : List (Cause × Output) :=
  moment.spoken.map (.message tally.messages, ·) ++ moment.pursued.map (tally.cause moment, ·)

/-- What is complete with a moment. -/
def completed (tally : Tally) (moment : Moment) : List Cause :=
  (moment.notification?.toList.map fun _ => .message tally.messages) ++
    if moment.isLast then [tally.cause moment] else []

/-- Nothing more comes of it. -/
def IsClosed (tally : Tally) (client : Client) : Cause → Prop
  | .work number => number < tally.lines ∨
      number = tally.lines ∧ (client.stage = .ready ∨ client.stage = .ended)
  | .message number => number < tally.messages
  | .followUp number => number < tally.messages ∧
      ∀ waiting ∈ client.downloads, tally.askers[waiting.1]? ≠ some (.followUp number)
  | .loss _ | .farewell => False

/-- Who waits for the downloads of a client: the work that is in hand for its listing, and what
follows a notification for anything else. No two downloads are for the same. -/
structure Knows (tally : Tally) (client : Client) : Prop where
  asked : tally.askers.length = client.downloadCount
  listing : ∀ number, (number, .listing) ∈ client.downloads →
    tally.askers[number]? = some (.work tally.lines) ∧ client.stage = .listing
  followUp : ∀ number purpose, (number, purpose) ∈ client.downloads → purpose ≠ .listing →
    ∃ message < tally.messages, tally.askers[number]? = some (.followUp message)
  distinct : (client.downloads.map fun waiting => tally.askers[waiting.1]?).Nodup

variable {tally : Tally}

/-- Downloads for the same are one. -/
theorem Knows.eq_of_askers (hknows : tally.Knows client) {first second : Nat × Purpose}
    (hfirst : first ∈ client.downloads) (hsecond : second ∈ client.downloads)
    (hsame : tally.askers[first.1]? = tally.askers[second.1]?) : first = second :=
  List.inj_on_of_nodup_map hknows.distinct hfirst hsecond hsame

theorem Knows.exists_asker (hknows : tally.Knows client) {waiting : Nat × Purpose}
    (hmem : waiting ∈ client.downloads) : ∃ cause, tally.askers[waiting.1]? = some cause := by
  obtain ⟨number, purpose⟩ := waiting
  by_cases hlisting : purpose = .listing
  · subst hlisting
    exact ⟨_, (hknows.listing number hmem).1⟩
  · obtain ⟨message, -, hasker⟩ := hknows.followUp number purpose hmem hlisting
    exact ⟨_, hasker⟩

/-! ## What a moment works for -/

theorem cause_of_notification? {notification : Notification}
    (hrendered : Moment.notification? ⟨client, event⟩ = some notification) :
    tally.cause ⟨client, event⟩ = .followUp tally.messages := by
  have hevent : ∃ now, event = .render now := by
    by_contra hother
    rw [notification?_eq_none fun now h => hother ⟨now, h⟩] at hrendered
    cases hrendered
  obtain ⟨now, rfl⟩ := hevent
  rfl

theorem Knows.cause_of_answered? (hknows : tally.Knows client) {answered : Nat × Purpose}
    (hanswered : Moment.answered? ⟨client, event⟩ = some answered) :
    tally.askers[answered.1]? = some (tally.cause ⟨client, event⟩) := by
  obtain ⟨cause, hasker⟩ := hknows.exists_asker (mem_of_answered? hanswered)
  obtain ⟨⟨answer, rfl⟩, -⟩ := running_of_answered? hanswered
  rw [hasker]
  simp [Tally.cause, List.getD, hasker]

/-- An answer is for the work in hand, or for what follows a notification. -/
theorem Knows.answered_cases (hknows : tally.Knows client) {answered : Nat × Purpose}
    (hanswered : Moment.answered? ⟨client, event⟩ = some answered) :
    (answered.2 = .listing ∧ client.stage = .listing ∧
        tally.cause ⟨client, event⟩ = .work tally.lines) ∨
      answered.2 ≠ .listing ∧
        ∃ message < tally.messages, tally.cause ⟨client, event⟩ = .followUp message := by
  have hasker := hknows.cause_of_answered? hanswered
  have hmem := mem_of_answered? hanswered
  by_cases hlisting : answered.2 = .listing
  · obtain ⟨hfound, hstage⟩ := hknows.listing answered.1 (hlisting ▸ hmem)
    exact .inl ⟨hlisting, hstage, Option.some.inj (hasker.symm.trans hfound)⟩
  · obtain ⟨message, hlt, hfound⟩ := hknows.followUp answered.1 answered.2 hmem hlisting
    exact .inr ⟨hlisting, message, hlt, Option.some.inj (hasker.symm.trans hfound)⟩

/-- A line that is taken up is what is worked for, unless it ends the client. -/
theorem cause_of_taken? {line : String} (htaken : Moment.taken? ⟨client, event⟩ = some line)
    (hrunning : (client.step event).1.stage ≠ .ended) :
    tally.cause ⟨client, event⟩ = .work (tally.lines + 1) := by
  have hlines : tally.linesAfter ⟨client, event⟩ = tally.lines + 1 := by
    rw [linesAfter, htaken]
    rfl
  obtain ⟨⟨read, now, rfl⟩, -⟩ := ready_of_taken? htaken
  rw [cause, hlines]
  exact if_neg hrunning

/-! ## Who waits after a step -/

theorem Knows.askers_of_old (hknows : tally.Knows client) {waiting : Nat × Purpose}
    (hmem : waiting ∈ client.downloads) (moment : Moment) :
    (tally.next moment).askers[waiting.1]? = tally.askers[waiting.1]? := by
  obtain ⟨cause, hasker⟩ := hknows.exists_asker hmem
  exact List.getElem?_append_left (List.getElem?_eq_some_iff.1 hasker).1

theorem Knows.askers_of_new (hknows : tally.Knows client) {purpose : Purpose}
    (hasked : Moment.asked ⟨client, event⟩ = [purpose]) :
    (tally.next ⟨client, event⟩).askers[client.downloadCount]? =
      some (tally.cause ⟨client, event⟩) := by
  rw [next, hasked, ← hknows.asked]
  simp

/-- Work that waits for its listing goes on waiting. -/
theorem Knows.listing_kept (hknows : tally.Knows client) {number : Nat}
    (hmem : (number, .listing) ∈ (client.relieved event).downloads) :
    (client.step event).1.stage = .listing ∧ Moment.taken? ⟨client, event⟩ = none := by
  have hold := (client.relieved_sublist event).subset hmem
  obtain ⟨hasker, hstage⟩ := hknows.listing number hold
  refine ⟨?_, ?_⟩
  · cases event with
    | advance read now => rw [step_advance_of_listing hstage, hstage]
    | answer other answer =>
        cases hanswered : Moment.answered? ⟨client, .answer other answer⟩ with
        | none => rw [step_of_answered?_none hanswered, hstage]
        | some answered =>
            rw [stage_of_answered? hanswered, hstage]
            apply if_neg
            intro hlisting
            have hanswer := mem_of_answered? hanswered
            obtain ⟨found, purpose⟩ := answered
            subst hlisting
            have hsame := hknows.eq_of_askers hold hanswer
              (hasker.trans (hknows.listing found hanswer).1.symm)
            exact ne_of_answered? hmem hanswered hsame
    | _ => rw [stage_step_of_other (by simp) (by simp), hstage]
  · cases htaken : Moment.taken? ⟨client, event⟩ with
    | none => rfl
    | some line =>
        have hready := (ready_of_taken? htaken).2.1
        rw [hstage] at hready
        cases hready

/-- What a moment works for has not asked for any download that goes on waiting. -/
theorem Knows.ne_cause (hknows : tally.Knows client) {waiting : Nat × Purpose}
    (hmem : waiting ∈ (client.relieved event).downloads)
    (hasked : Moment.asked ⟨client, event⟩ ≠ []) :
    tally.askers[waiting.1]? ≠ some (tally.cause ⟨client, event⟩) := by
  have hold := (client.relieved_sublist event).subset hmem
  obtain ⟨number, purpose⟩ := waiting
  intro hsame
  rcases client.asked_cases event with hnone | ⟨-, hready, htaken, hafter⟩ |
    ⟨-, -, -, ⟨notification, hrendered, -⟩ | ⟨answered, hanswered, -⟩⟩
  · exact hasked hnone
  · obtain ⟨line, htaken⟩ := Option.isSome_iff_exists.1 htaken
    rw [cause_of_taken? htaken (by simp [hafter])] at hsame
    by_cases hlisting : purpose = .listing
    · subst hlisting
      have hstage := (hknows.listing number hold).2
      rw [hready] at hstage
      cases hstage
    · obtain ⟨message, -, hasker⟩ := hknows.followUp number purpose hold hlisting
      rw [hasker] at hsame
      cases hsame
  · rw [cause_of_notification? hrendered] at hsame
    by_cases hlisting : purpose = .listing
    · subst hlisting
      rw [(hknows.listing number hold).1] at hsame
      cases hsame
    · obtain ⟨message, hlt, hasker⟩ := hknows.followUp number purpose hold hlisting
      rw [hasker] at hsame
      cases hsame
      exact Nat.lt_irrefl _ hlt
  · exact ne_of_answered? hmem hanswered
      (hknows.eq_of_askers hold (mem_of_answered? hanswered)
        (hsame.trans (hknows.cause_of_answered? hanswered).symm))

theorem linesAfter_of_none (hnone : Moment.taken? ⟨client, event⟩ = none) :
    tally.linesAfter ⟨client, event⟩ = tally.lines := by
  rw [linesAfter, hnone]
  rfl

theorem messages_next_of_some {notification : Notification}
    (hrendered : Moment.notification? ⟨client, event⟩ = some notification) :
    (tally.next ⟨client, event⟩).messages = tally.messages + 1 := by
  rw [next, hrendered]
  rfl

theorem messages_le_next (tally : Tally) (moment : Moment) :
    tally.messages ≤ (tally.next moment).messages := Nat.le_add_right _ _

/-- What waits for a download after a step has waited before it, or it is what the step works
for. -/
theorem Knows.waiting_cases (hknows : tally.Knows client) {waiting : Nat × Purpose}
    (hmem : waiting ∈ (client.step event).1.downloads) :
    (waiting ∈ (client.relieved event).downloads ∧
        (tally.next ⟨client, event⟩).askers[waiting.1]? = tally.askers[waiting.1]?) ∨
      Moment.asked ⟨client, event⟩ = [waiting.2] ∧
        (tally.next ⟨client, event⟩).askers[waiting.1]? =
          some (tally.cause ⟨client, event⟩) := by
  rw [downloads_step, List.mem_append] at hmem
  rcases hmem with hold | hnew
  · exact .inl ⟨hold, hknows.askers_of_old ((client.relieved_sublist event).subset hold) _⟩
  · rcases client.asked_eq_nil_or_singleton event with hnone | ⟨purpose, hone⟩
    · rw [hnone] at hnew
      cases hnew
    · rw [hone] at hnew
      have hwaiting : waiting = (client.downloadCount, purpose) := List.mem_singleton.1 hnew
      subst hwaiting
      exact .inr ⟨hone, hknows.askers_of_new hone⟩

/-- No two downloads of a step are for the same. -/
theorem Knows.distinct_next (hknows : tally.Knows client) (event : Event) :
    ((client.step event).1.downloads.map fun waiting =>
      (tally.next ⟨client, event⟩).askers[waiting.1]?).Nodup := by
  have hsublist := client.relieved_sublist event
  have hold : (client.relieved event).downloads.map (fun waiting =>
        (tally.next ⟨client, event⟩).askers[waiting.1]?) =
      (client.relieved event).downloads.map fun waiting => tally.askers[waiting.1]? :=
    List.map_congr_left fun waiting hmem => hknows.askers_of_old (hsublist.subset hmem) _
  have hkept := hknows.distinct.sublist (hsublist.map fun waiting => tally.askers[waiting.1]?)
  rw [downloads_step, List.map_append, hold]
  rcases client.asked_eq_nil_or_singleton event with hnone | ⟨purpose, hone⟩
  · rw [hnone]
    change (_ ++ []).Nodup
    rw [List.append_nil]
    exact hkept
  · have hnew : (numberedFrom client.downloadCount (Moment.asked ⟨client, event⟩)).map
        (fun waiting => (tally.next ⟨client, event⟩).askers[waiting.1]?) =
          [some (tally.cause ⟨client, event⟩)] := by
      rw [hone, ← hknows.askers_of_new hone]
      rfl
    rw [hnew]
    refine List.nodup_append.2 ⟨hkept, List.nodup_singleton _, ?_⟩
    intro asker hasker _ hother hsame
    obtain ⟨waiting, hmem, rfl⟩ := List.mem_map.1 hasker
    have hasked : Moment.asked ⟨client, event⟩ ≠ [] := by simp [hone]
    exact hknows.ne_cause hmem hasked (hsame.trans (List.mem_singleton.1 hother))

/-- A tally goes on knowing who waits. -/
theorem Knows.next (hknows : tally.Knows client) (event : Event) :
    (tally.next ⟨client, event⟩).Knows (client.step event).1 where
  asked := by
    rw [(client.asks_step event).count, downloadCount_relieved, ← hknows.asked, Tally.next,
      List.length_append, List.length_map]
  listing := by
    intro number hmem
    rcases hknows.waiting_cases hmem with ⟨hold, hasker⟩ | ⟨hasked, hasker⟩
    · obtain ⟨hafter, hnone⟩ := hknows.listing_kept hold
      rw [hasker, (hknows.listing number ((client.relieved_sublist event).subset hold)).1]
      refine ⟨?_, hafter⟩
      rw [Tally.next, linesAfter_of_none hnone]
    · rcases client.asked_cases event with hnone | ⟨-, -, htaken, hafter⟩ |
        ⟨purpose, hone, hother, -⟩
      · rw [hasked] at hnone
        cases hnone
      · obtain ⟨line, htaken⟩ := Option.isSome_iff_exists.1 htaken
        rw [hasker, cause_of_taken? htaken (by simp [hafter]), Tally.next, linesAfter, htaken]
        exact ⟨rfl, hafter⟩
      · rw [hasked] at hone
        cases hone
        exact absurd rfl hother
  followUp := by
    intro number purpose hmem hother
    have hle := tally.messages_le_next ⟨client, event⟩
    rcases hknows.waiting_cases hmem with ⟨hold, hasker⟩ | ⟨hasked, hasker⟩
    · rw [hasker]
      obtain ⟨message, hlt, hfound⟩ :=
        hknows.followUp number purpose ((client.relieved_sublist event).subset hold) hother
      exact ⟨message, Nat.lt_of_lt_of_le hlt hle, hfound⟩
    · rw [hasker]
      rcases client.asked_cases event with hnone | ⟨hlisting, -⟩ |
        ⟨-, -, -, ⟨notification, hrendered, -⟩ | ⟨answered, hanswered, hanother⟩⟩
      · rw [hasked] at hnone
        cases hnone
      · rw [hasked] at hlisting
        cases hlisting
        exact absurd rfl hother
      · refine ⟨tally.messages, ?_, by rw [cause_of_notification? hrendered]⟩
        rw [messages_next_of_some hrendered]
        exact Nat.lt_succ_self _
      · obtain ⟨message, hlt, hfound⟩ :=
          hknows.followUp answered.1 answered.2 (mem_of_answered? hanswered) hanother
        rw [← hknows.cause_of_answered? hanswered]
        exact ⟨message, Nat.lt_of_lt_of_le hlt hle, hfound⟩
  distinct := hknows.distinct_next event

/-- In the beginning the listing is waited for. -/
theorem exists_eq_of_start {config : Config} {read : FileReader} {attempt : Channel → Attempt}
    {meanwhile : Task → List Incident} {outputs : List Output}
    (hstart : start config read attempt meanwhile = (.ok client, outputs)) :
    ∃ page opening, client =
      { opened config page opening with downloads := [(0, .listing)], downloadCount := 1 } := by
  obtain ⟨page, -, -, rfl⟩ := exists_opened_of_start hstart
  refine ⟨page, firstOpening config attempt meanwhile, ?_⟩
  simp only [fetchListing, opened, config.url_files]
  rfl

/-- It is the start that waits for it. -/
theorem knows_of_start {config : Config} {read : FileReader} {attempt : Channel → Attempt}
    {meanwhile : Task → List Incident} {outputs : List Output}
    (hstart : start config read attempt meanwhile = (.ok client, outputs)) :
    ({} : Tally).Knows client := by
  obtain ⟨page, opening, rfl⟩ := exists_eq_of_start hstart
  constructor
  · rfl
  · intro number hmem
    cases List.mem_singleton.1 hmem
    exact ⟨rfl, rfl⟩
  · intro number purpose hmem hother
    cases List.mem_singleton.1 hmem
    exact absurd rfl hother
  · exact List.nodup_singleton _

/-! ## What is closed -/

theorem le_linesAfter (tally : Tally) (moment : Moment) :
    tally.lines ≤ tally.linesAfter moment := Nat.le_add_right _ _

/-- What is closed stays so. -/
theorem IsClosed.next {cause : Cause} (hclosed : tally.IsClosed client cause)
    (hknows : tally.Knows client) (event : Event) :
    (tally.next ⟨client, event⟩).IsClosed (client.step event).1 cause := by
  have hmessages := tally.messages_le_next ⟨client, event⟩
  cases cause with
  | work number =>
      rcases hclosed with hlt | ⟨rfl, hidle⟩
      · exact .inl (Nat.lt_of_lt_of_le hlt (tally.le_linesAfter _))
      · cases htaken : Moment.taken? ⟨client, event⟩ with
        | none =>
            exact .inr ⟨(linesAfter_of_none htaken).symm, stage_step_of_idle hidle htaken⟩
        | some line =>
            left
            rw [Tally.next, linesAfter, htaken]
            exact Nat.lt_succ_self _
  | message number => exact Nat.lt_of_lt_of_le hclosed hmessages
  | followUp number =>
      obtain ⟨hlt, hopen⟩ := hclosed
      refine ⟨Nat.lt_of_lt_of_le hlt hmessages, fun waiting hmem hsame => ?_⟩
      rcases hknows.waiting_cases hmem with ⟨hold, hasker⟩ | ⟨hasked, hasker⟩
      · rw [hasker] at hsame
        exact hopen waiting ((client.relieved_sublist event).subset hold) hsame
      · rw [hasker] at hsame
        rcases client.asked_cases event with hnone | ⟨-, -, htaken, hafter⟩ |
          ⟨-, -, -, ⟨notification, hrendered, -⟩ | ⟨answered, hanswered, -⟩⟩
        · rw [hasked] at hnone
          cases hnone
        · obtain ⟨line, htaken⟩ := Option.isSome_iff_exists.1 htaken
          rw [cause_of_taken? htaken (by simp [hafter])] at hsame
          cases hsame
        · rw [cause_of_notification? hrendered] at hsame
          cases hsame
          exact Nat.lt_irrefl _ hlt
        · rw [← hknows.cause_of_answered? hanswered] at hsame
          exact hopen answered (mem_of_answered? hanswered) hsame
  | loss channel => exact hclosed
  | farewell => exact hclosed

/-- What a moment ends is closed after it. -/
theorem isClosed_of_isLast (hknows : tally.Knows client)
    (hlast : Moment.isLast ⟨client, event⟩ = true) :
    (tally.next ⟨client, event⟩).IsClosed (client.step event).1 (tally.cause ⟨client, event⟩) := by
  have hmessages := tally.messages_le_next ⟨client, event⟩
  -- Nothing is asked for any more, and no other download is for the same.
  have hclosed {message : Nat} (hlt : message < (tally.next ⟨client, event⟩).messages)
      (hnothing : Moment.asked ⟨client, event⟩ = [])
      (hother : ∀ waiting ∈ (client.relieved event).downloads,
        tally.askers[waiting.1]? ≠ some (.followUp message)) :
      (tally.next ⟨client, event⟩).IsClosed (client.step event).1 (.followUp message) := by
    refine ⟨hlt, fun waiting hmem hsame => ?_⟩
    rcases hknows.waiting_cases hmem with ⟨hold, hasker⟩ | ⟨hasked, -⟩
    · rw [hasker] at hsame
      exact hother waiting hold hsame
    · rw [hnothing] at hasked
      cases hasked
  cases event with
  | advance read now =>
      have hready : (client.step (.advance read now)).1.stage = .ready := by
        simp only [Moment.isLast, Bool.and_eq_true, beq_iff_eq] at hlast
        exact hlast.1
      have hcause : tally.cause ⟨client, .advance read now⟩ =
          .work (tally.linesAfter ⟨client, .advance read now⟩) := by
        apply if_neg
        simp [Moment.after, hready]
      rw [hcause]
      exact .inr ⟨rfl, .inl hready⟩
  | render now =>
      simp only [Moment.isLast, Bool.and_eq_true, List.isEmpty_iff] at hlast
      obtain ⟨hfollowed, hnothing⟩ := hlast
      cases hrendered : Moment.notification? ⟨client, .render now⟩ with
      | none =>
          rw [hrendered] at hfollowed
          cases hfollowed
      | some notification =>
          rw [cause_of_notification? hrendered]
          apply hclosed _ hnothing
          · intro waiting hmem hsame
            have hold := (client.relieved_sublist _).subset hmem
            obtain ⟨number, purpose⟩ := waiting
            by_cases hlisting : purpose = .listing
            · subst hlisting
              rw [(hknows.listing number hold).1] at hsame
              cases hsame
            · obtain ⟨message, hlt, hasker⟩ := hknows.followUp number purpose hold hlisting
              rw [hasker] at hsame
              cases hsame
              exact Nat.lt_irrefl _ hlt
          · rw [messages_next_of_some hrendered]
            exact Nat.lt_succ_self _
  | answer number answer =>
      simp only [Moment.isLast, Bool.and_eq_true, List.isEmpty_iff] at hlast
      obtain ⟨hsome, hnothing⟩ := hlast
      obtain ⟨answered, hanswered⟩ := Option.isSome_iff_exists.1 hsome
      rcases hknows.answered_cases hanswered with ⟨hlisting, -, hcause⟩ | ⟨-, message, hlt, hcause⟩
      · rw [hcause]
        refine .inr ⟨(linesAfter_of_none rfl).symm, .inl ?_⟩
        rw [stage_of_answered? hanswered, if_pos hlisting]
      · rw [hcause]
        apply hclosed (Nat.lt_of_lt_of_le hlt hmessages) hnothing
        intro waiting hwaiting hsame
        rw [← hcause, ← hknows.cause_of_answered? hanswered] at hsame
        apply ne_of_answered? hwaiting hanswered
        exact hknows.eq_of_askers ((client.relieved_sublist _).subset hwaiting)
          (mem_of_answered? hanswered) hsame
  | _ => cases hlast

/-- What is complete with a moment is closed after it. -/
theorem isClosed_of_mem_completed (hknows : tally.Knows client) {cause : Cause}
    (hmem : cause ∈ tally.completed ⟨client, event⟩) :
    (tally.next ⟨client, event⟩).IsClosed (client.step event).1 cause := by
  rcases List.mem_append.1 hmem with hmessage | hlast
  · obtain ⟨notification, hrendered, rfl⟩ := List.mem_map.1 hmessage
    change tally.messages < _
    rw [messages_next_of_some (Option.mem_toList.1 hrendered)]
    exact Nat.lt_succ_self _
  · split at hlast
    · next hends =>
      rw [List.mem_singleton.1 hlast]
      exact isClosed_of_isLast hknows hends
    · cases hlast

/-- A moment that works for something closed does nothing. -/
theorem IsClosed.silent (hknows : tally.Knows client)
    (hclosed : tally.IsClosed client (tally.cause ⟨client, event⟩)) :
    (client.step event).2 = [] ∧ Moment.isLast ⟨client, event⟩ = false := by
  by_cases hended : client.stage = .ended
  · rw [step_of_ended hended]
    exact ⟨rfl, isLast_of_ended hended event⟩
  cases event with
  | advance read now =>
      by_cases hends : (client.step (.advance read now)).1.stage = .ended
      · have hcause : tally.cause ⟨client, .advance read now⟩ = .farewell := if_pos hends
        rw [hcause] at hclosed
        cases hclosed
      · have hcause : tally.cause ⟨client, .advance read now⟩ =
            .work (tally.linesAfter ⟨client, .advance read now⟩) := if_neg hends
        rw [hcause] at hclosed
        have hle := tally.le_linesAfter ⟨client, .advance read now⟩
        rcases hclosed with hlt | ⟨hsame, hidle⟩
        · exact absurd hlt (Nat.not_lt.2 hle)
        · have hready : client.stage = .ready := hidle.resolve_right hended
          have hnone : Moment.taken? ⟨client, .advance read now⟩ = none := by
            cases htaken : Moment.taken? ⟨client, .advance read now⟩ with
            | none => rfl
            | some line =>
                rw [linesAfter, htaken] at hsame
                exact absurd hsame (Nat.ne_of_gt (Nat.lt_succ_self _))
          have hstep := (step_advance_of_no_line hready hnone).resolve_right hends
          refine ⟨by rw [hstep], ?_⟩
          rw [Moment.isLast, hnone, hready]
          exact Bool.and_false _
  | render now => exact absurd hclosed.1 (Nat.lt_irrefl _)
  | answer number answer =>
      cases hanswered : Moment.answered? ⟨client, .answer number answer⟩ with
      | none =>
          exact ⟨by rw [step_of_answered?_none hanswered], isLast_of_answered?_none hanswered⟩
      | some answered =>
          rcases hknows.answered_cases hanswered with ⟨-, hstage, hcause⟩ | ⟨-, message, -, hcause⟩
          · rw [hcause] at hclosed
            rcases hclosed with hlt | ⟨-, hidle⟩
            · exact absurd hlt (Nat.lt_irrefl _)
            · rw [hstage] at hidle
              rcases hidle with hready | hend
              · cases hready
              · cases hend
          · have hasker := hknows.cause_of_answered? hanswered
            rw [hcause] at hasker hclosed
            exact absurd hasker (hclosed.2 answered (mem_of_answered? hanswered))
  | look channel => cases hclosed
  | line text =>
      refine ⟨?_, rfl⟩
      rw [step, if_neg hended, takeLine]
      split <;> rfl
  | _ =>
      rw [step, if_neg hended]
      exact ⟨rfl, rfl⟩

end Tally

end Client

end ClassroomClient
