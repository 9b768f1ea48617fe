/-
# The prompt comes back

Whatever is done for the student ends with the prompt: the start, every line but the one that quits,
every notification, and what follows a notification. A trace puts everything that is put out down to
what it belongs to. What belongs to one cause is followed by one prompt as soon as the cause is
complete, and nothing of it comes behind. Two balances give the number of prompts: work that is in
hand has not had its prompt yet, and what follows a notification is complete when no download is
waited for any more.
-/

import ClassroomClient.Proofs.Client.Causes

namespace ClassroomClient

open Exchange Stomp

/-- Whether the cause is what follows a notification. -/
def Cause.isFollowUp : Cause → Bool
  | followUp _ => true
  | _ => false

namespace Client

/-! ## Traces -/

/-- The outputs of a trace that belong to a cause. -/
def outputsOf (cause : Cause) (trace : List (Cause × Output)) : List Output :=
  (trace.filter (·.1 = cause)).map (·.2)

theorem outputsOf_append (cause : Cause) (first second : List (Cause × Output)) :
    outputsOf cause (first ++ second) = outputsOf cause first ++ outputsOf cause second := by
  rw [outputsOf, List.filter_append, List.map_append]
  rfl

/-- Outputs with one cause belong to it all together. -/
theorem outputsOf_map (cause label : Cause) (outputs : List Output) :
    outputsOf cause (outputs.map (label, ·)) = if label = cause then outputs else [] := by
  rw [outputsOf, List.filter_map]
  by_cases hsame : label = cause
  · subst hsame
    simp [Function.comp_def]
  · simp [Function.comp_def, hsame]

/-- The outputs end with the only prompt among them, if what they belong to is complete; otherwise
there is no prompt among them. -/
def IsPrompted (team : String) (outputs : List Output) (complete : Prop) : Prop :=
  ∃ content, .print (team ++ "> ") ∉ content ∧
    (complete → outputs = content ++ [.print (team ++ "> ")]) ∧ (¬ complete → outputs = content)

section

variable {team : String} {outputs first second : List Output} {complete : Prop}

theorem isPrompted_nil (team : String) {complete : Prop} (hopen : ¬ complete) :
    IsPrompted team [] complete :=
  ⟨[], List.not_mem_nil, fun h => absurd h hopen, fun _ => rfl⟩

/-- What is said has no prompt but the one that closes it. -/
theorem Speaks.isPrompted {event : Event} {last : Bool} (hspeaks : Speaks team event last outputs) :
    IsPrompted team outputs (last = true) := by
  obtain ⟨said, hsaid, rfl⟩ := hspeaks
  refine ⟨said, fun hmem => (hsaid _ hmem).ne_prompt team rfl, ?_, ?_⟩
  · rintro rfl
    rfl
  · intro hopen
    rw [if_neg hopen, List.append_nil]

/-- What is not complete yet goes on. -/
theorem IsPrompted.append (hfirst : IsPrompted team first False)
    (hsecond : IsPrompted team second complete) : IsPrompted team (first ++ second) complete := by
  obtain ⟨before, hbefore, -, hfirst⟩ := hfirst
  obtain ⟨content, hcontent, hclosed, hopen⟩ := hsecond
  rw [hfirst not_false]
  refine ⟨before ++ content, ?_, ?_, ?_⟩
  · rw [List.mem_append]
    exact not_or.2 ⟨hbefore, hcontent⟩
  · intro hcomplete
    rw [hclosed hcomplete, List.append_assoc]
  · intro hincomplete
    rw [hopen hincomplete]

theorem IsPrompted.congr {other : Prop} (hprompted : IsPrompted team outputs complete)
    (hsame : complete ↔ other) : IsPrompted team outputs other := by
  rw [← propext hsame]
  exact hprompted

/-- Complete outputs hold one prompt, others none. -/
theorem Speaks.count_prompt {event : Event} {last : Bool}
    (hspeaks : Speaks team event last outputs) :
    outputs.count (.print (team ++ "> ")) = last.toNat := by
  obtain ⟨said, hsaid, rfl⟩ := hspeaks
  have hnone : said.count (.print (team ++ "> ")) = 0 :=
    List.count_eq_zero.2 fun hmem => (hsaid _ hmem).ne_prompt team rfl
  rw [List.count_append, hnone]
  cases last <;> simp

end

/-- The notifications of a run, the first moment apart. -/
theorem notifications_cons (client : Client) (event : Event) (rest : List Event) :
    client.notifications (event :: rest) =
      (Moment.notification? ⟨client, event⟩).toList ++
        (client.step event).1.notifications rest := by
  rw [notifications_eq, notifications_eq, moments_cons, List.filterMap_cons]
  cases Moment.notification? ⟨client, event⟩ <;> rfl

namespace Tally

variable {tally : Tally} {client : Client} {event : Event}

/-- What some moments put out, with what it belongs to. -/
def trace (tally : Tally) : List Moment → List (Cause × Output)
  | [] => []
  | moment :: rest => tally.traced moment ++ (tally.next moment).trace rest

/-- What is complete with some moments. -/
def completions (tally : Tally) : List Moment → List Cause
  | [] => []
  | moment :: rest => tally.completed moment ++ (tally.next moment).completions rest

/-- Nothing but the announcement of a notification belongs to it. -/
theorem Knows.silent_of_message (hknows : tally.Knows client) {number : Nat}
    (hcause : tally.cause ⟨client, event⟩ = .message number) :
    (client.step event).2 = [] ∧ Moment.isLast ⟨client, event⟩ = false := by
  cases event with
  | answer other answer =>
      cases hanswered : Moment.answered? ⟨client, .answer other answer⟩ with
      | none =>
          exact ⟨by rw [step_of_answered?_none hanswered], isLast_of_answered?_none hanswered⟩
      | some answered =>
          rcases hknows.answered_cases hanswered with ⟨-, -, hasker⟩ | ⟨-, message, -, hasker⟩
          · rw [hcause] at hasker
            cases hasker
          · rw [hcause] at hasker
            cases hasker
  | render now => cases hcause
  | look channel => cases hcause
  | _ =>
      rw [cause] at hcause
      dsimp only at hcause
      split at hcause <;> cases hcause

theorem outputsOf_traced (cause : Cause) (moment : Moment) :
    outputsOf cause (tally.traced moment) =
      (if .message tally.messages = cause then moment.spoken else []) ++
        if tally.cause moment = cause then moment.pursued else [] := by
  rw [traced, outputsOf_append, outputsOf_map, outputsOf_map]

theorem mem_completed {cause : Cause} {moment : Moment} :
    cause ∈ tally.completed moment ↔
      .message tally.messages = cause ∧ moment.notification?.isSome ∨
        tally.cause moment = cause ∧ moment.isLast = true := by
  rw [completed, List.mem_append]
  apply or_congr
  · cases moment.notification? <;> simp [eq_comm]
  · cases moment.isLast <;> simp [eq_comm]

/-- A moment completes no cause twice. -/
theorem Knows.nodup_completed (hknows : tally.Knows client) (event : Event) :
    (tally.completed ⟨client, event⟩).Nodup := by
  rw [completed]
  refine List.nodup_append.2 ⟨?_, ?_, ?_⟩
  · cases Moment.notification? ⟨client, event⟩ with
    | none => exact List.nodup_nil
    | some notification => exact List.nodup_singleton _
  · split
    · exact List.nodup_singleton _
    · exact List.nodup_nil
  · rintro cause hannounced other hlast rfl
    obtain ⟨-, -, rfl⟩ := List.mem_map.1 hannounced
    split at hlast
    · next hends =>
      have hopen := (hknows.silent_of_message (List.mem_singleton.1 hlast).symm).2
      rw [hends] at hopen
      cases hopen
    · cases hlast

theorem pursued_of_silent (hsilent : (client.step event).2 = []) :
    Moment.pursued ⟨client, event⟩ = [] := by
  rw [Moment.pursued, Moment.outputs, hsilent]
  exact List.drop_nil

/-- Nothing of what is closed is put out any more. -/
theorem IsClosed.outputsOf_traced {cause : Cause} (hclosed : tally.IsClosed client cause)
    (hknows : tally.Knows client) (event : Event) :
    outputsOf cause (tally.traced ⟨client, event⟩) = [] ∧
      cause ∉ tally.completed ⟨client, event⟩ := by
  have hmessage : .message tally.messages ≠ cause := by
    rintro rfl
    exact Nat.lt_irrefl _ hclosed
  rw [Tally.outputsOf_traced, mem_completed, if_neg hmessage]
  by_cases hsame : tally.cause ⟨client, event⟩ = cause
  · subst hsame
    obtain ⟨hsilent, hopen⟩ := hclosed.silent hknows
    simp [pursued_of_silent hsilent, hmessage, hopen]
  · simp [hmessage, hsame]

/-- What a moment puts out for a cause is closed with a prompt when the cause is complete. -/
theorem isPrompted_traced (hknows : tally.Knows client) (hsound : client.IsSound) (event : Event)
    (cause : Cause) :
    IsPrompted client.config.team (outputsOf cause (tally.traced ⟨client, event⟩))
      (cause ∈ tally.completed ⟨client, event⟩) := by
  rw [Tally.outputsOf_traced, mem_completed]
  by_cases hmessage : .message tally.messages = cause
  · subst hmessage
    rw [if_pos rfl]
    have hspoken := (speaks_spoken ⟨client, event⟩).isPrompted
    by_cases hsame : tally.cause ⟨client, event⟩ = .message tally.messages
    · obtain ⟨hsilent, hopen⟩ := hknows.silent_of_message hsame
      rw [pursued_of_silent hsilent, hopen]
      simpa using hspoken
    · rw [if_neg hsame]
      simpa [hsame] using hspoken
  · rw [if_neg hmessage]
    by_cases hsame : tally.cause ⟨client, event⟩ = cause
    · have hpursued := (@Moment.outputs_eq ⟨client, event⟩ hsound).2.isPrompted
      rw [if_pos hsame]
      simpa [hmessage, hsame] using hpursued
    · rw [if_neg hsame]
      apply isPrompted_nil
      simp [hmessage, hsame]

/-- In a run nothing comes of what is closed. -/
theorem IsClosed.outputsOf_trace {cause : Cause} (hclosed : tally.IsClosed client cause)
    (hknows : tally.Knows client) (events : List Event) :
    outputsOf cause (tally.trace (client.moments events)) = [] ∧
      cause ∉ tally.completions (client.moments events) := by
  induction events generalizing client tally with
  | nil => exact ⟨rfl, List.not_mem_nil⟩
  | cons event rest ih =>
      obtain ⟨hnone, hopen⟩ := hclosed.outputsOf_traced hknows event
      obtain ⟨hnothing, hnever⟩ := ih (hclosed.next hknows event) (hknows.next event)
      rw [moments_cons, trace, completions, outputsOf_append, hnone, hnothing, List.mem_append]
      exact ⟨rfl, not_or.2 ⟨hopen, hnever⟩⟩

/-- In a run whatever is complete is closed with a prompt. -/
theorem isPrompted_trace (hknows : tally.Knows client) (hsound : client.IsSound)
    (events : List Event) (cause : Cause) :
    IsPrompted client.config.team (outputsOf cause (tally.trace (client.moments events)))
      (cause ∈ tally.completions (client.moments events)) := by
  induction events generalizing client tally with
  | nil => exact isPrompted_nil _ List.not_mem_nil
  | cons event rest ih =>
      have hfirst := isPrompted_traced hknows hsound event cause
      rw [moments_cons, trace, completions, outputsOf_append, List.mem_append]
      by_cases hcomplete : cause ∈ tally.completed ⟨client, event⟩
      · -- What is complete now is closed, so nothing comes behind its prompt.
        have hclosed := isClosed_of_mem_completed hknows hcomplete
        rw [(hclosed.outputsOf_trace (hknows.next event) rest).1, List.append_nil]
        exact hfirst.congr (by simp [hcomplete])
      · have hlater := ih (hknows.next event) (hsound.step event)
        rw [config_step_eq] at hlater
        have hopen := (hfirst.congr (iff_false_intro hcomplete)).append hlater
        exact hopen.congr (by simp [hcomplete])

/-- Nothing is complete twice. -/
theorem nodup_completions (hknows : tally.Knows client) (events : List Event) :
    (tally.completions (client.moments events)).Nodup := by
  induction events generalizing client tally with
  | nil => exact List.nodup_nil
  | cons event rest ih =>
      rw [moments_cons, completions]
      refine List.nodup_append.2 ⟨hknows.nodup_completed event, ih (hknows.next event), ?_⟩
      rintro cause hfirst other hsecond rfl
      have hclosed := isClosed_of_mem_completed hknows hfirst
      exact (hclosed.outputsOf_trace (hknows.next event) rest).2 hsecond

/-- Each notification is announced. -/
theorem message_mem_completions (hknows : tally.Knows client) (events : List Event)
    (number : Nat) :
    .message number ∈ tally.completions (client.moments events) ↔
      tally.messages ≤ number ∧
        number < tally.messages + (client.notifications events).length := by
  induction events generalizing client tally with
  | nil =>
      refine ⟨fun hmem => absurd hmem List.not_mem_nil, fun hbetween => ?_⟩
      exact absurd hbetween.2 (Nat.not_lt.2 hbetween.1)
  | cons event rest ih =>
      have hfirst : .message number ∈ tally.completed ⟨client, event⟩ ↔
          tally.messages ≤ number ∧ number <
            tally.messages + (Moment.notification? ⟨client, event⟩).toList.length := by
        have hother : ¬ (tally.cause ⟨client, event⟩ = .message number ∧
            Moment.isLast ⟨client, event⟩ = true) := by
          rintro ⟨hcause, hlast⟩
          rw [(hknows.silent_of_message hcause).2] at hlast
          cases hlast
        rw [mem_completed, or_iff_left hother, Cause.message.injEq]
        cases Moment.notification? ⟨client, event⟩ with
        | none => simp
        | some notification =>
            simp only [Option.isSome_some, and_true, Option.toList_some, List.length_singleton]
            omega
      rw [moments_cons, completions, List.mem_append, hfirst, ih (hknows.next event),
        notifications_cons, List.length_append, Tally.next]
      dsimp only
      omega

/-- A trace puts out what its run does. -/
theorem map_snd_trace (tally : Tally) (hsound : client.IsSound) (events : List Event) :
    (tally.trace (client.moments events)).map (·.2) = (client.run events).2 := by
  induction events generalizing client tally with
  | nil => rfl
  | cons event rest ih =>
      have htraced : (tally.traced ⟨client, event⟩).map (·.2) = (client.step event).2 := by
        rw [traced, List.map_append, List.map_map, List.map_map, Function.comp_def,
          Function.comp_def, List.map_id', List.map_id']
        exact (@Moment.outputs_eq ⟨client, event⟩ hsound).1.symm
      rw [moments_cons, trace, List.map_append, htraced, ih _ (hsound.step event)]
      rfl

/-! ## The number of prompts -/

/-- A moment prints as many prompts as it completes causes. -/
theorem count_prompt_step (tally : Tally) (hsound : client.IsSound) (event : Event) :
    (client.step event).2.count client.prompt = (tally.completed ⟨client, event⟩).length := by
  obtain ⟨houtputs, hpursued⟩ := @Moment.outputs_eq ⟨client, event⟩ hsound
  have hspoken := speaks_spoken ⟨client, event⟩
  change (Moment.outputs ⟨client, event⟩).count (.print (client.config.team ++ "> ")) = _
  rw [houtputs, List.count_append, hspoken.count_prompt, hpursued.count_prompt, completed,
    List.length_append]
  congr 1
  · cases Moment.notification? ⟨client, event⟩ <;> rfl
  · cases Moment.isLast ⟨client, event⟩ <;> rfl

theorem prompt_step (client : Client) (event : Event) :
    (client.step event).1.prompt = client.prompt := by
  rw [prompt, config_step_eq, prompt]

theorem count_prompt_run (tally : Tally) (hsound : client.IsSound) (events : List Event) :
    (client.run events).2.count client.prompt =
      (tally.completions (client.moments events)).length := by
  induction events generalizing client tally with
  | nil => rfl
  | cons event rest ih =>
      have hlater := ih (tally.next ⟨client, event⟩) (hsound.step event)
      rw [prompt_step] at hlater
      rw [run_cons, List.count_append, count_prompt_step tally hsound, hlater, moments_cons,
        completions, List.length_append]

end Tally

/-! ## Work in hand -/

/-- How much is in hand: the start or a line, or nothing. -/
def unfinished (client : Client) : Nat :=
  if client.stage = .ready ∨ client.stage = .ended then 0 else 1

/-- The lines that a run handles with a prompt: those that were taken up, but for the one that
quits. -/
def handled (log : List Moment) : List String :=
  (taken log).filter fun line => UserCommand.ofLine line != .quit

variable {client : Client} {event : Event} {tally : Tally}

theorem handled_cons (moment : Moment) (log : List Moment) :
    handled (moment :: log) = handled [moment] ++ handled log := by
  rw [handled, taken_cons, List.filter_append, handled, handled, taken_cons]
  simp [taken]

theorem handled_of_none (hnone : Moment.taken? ⟨client, event⟩ = none) :
    handled [⟨client, event⟩] = [] := by
  simp [handled, taken, hnone]

theorem unfinished_of_stage {other : Client} (hsame : other.stage = client.stage) :
    other.unfinished = client.unfinished := by
  rw [unfinished, unfinished, hsame]

/-- A line ends the client when it quits, and else it is in hand or has been handled. -/
theorem ended_handleCommand (hready : client.stage = .ready) (command : UserCommand) :
    (client.handleCommand command).1.stage = .ended ↔ command = .quit := by
  cases command with
  | quit => exact ⟨fun _ => rfl, fun _ => rfl⟩
  | files => simp [stage_handleCommand_files]
  | _ => simp [handleCommand, printPrompted, hready]

/-- Only a client that is ready ends. -/
theorem ready_of_ended (hrunning : client.stage ≠ .ended)
    (hended : (client.step event).1.stage = .ended) : client.stage = .ready := by
  have hchange := client.step_change event
  generalize client.step event = result at hchange hended
  cases hchange with
  | ended hready hpage hend => exact hready
  | quiet hmoves => exact absurd (hmoves.stage.symm.trans hended) hrunning
  | stopped hrenders hmoves => exact absurd (hmoves.stage.symm.trans hended) hrunning
  | started hrenders hmoves => exact absurd (hmoves.stage.symm.trans hended) hrunning
  | sent hstage hmoves => cases hmoves.stage.symm.trans hended
  | _ => cases (Moves.stage (by assumption)).symm.trans hended

/-- A client that runs on is ready, or something is in hand. -/
theorem ready_add_unfinished (client : Client) :
    (client.stage == .ready).toNat + client.unfinished =
      if client.stage = .ended then 0 else 1 := by
  unfold unfinished
  cases client.stage <;> simp

/-- A turn ends as much as it begins, but for what it leaves in hand. -/
theorem unfinished_advance (client : Client) (read : FileReader) (now : Int) :
    (Moment.isLast ⟨client, .advance read now⟩).toNat +
        (client.step (.advance read now)).1.unfinished =
      client.unfinished + (handled [⟨client, .advance read now⟩]).length := by
  have hlast : Moment.isLast ⟨client, .advance read now⟩ =
      ((client.step (.advance read now)).1.stage == .ready &&
        (client.stage != .ready || (Moment.taken? ⟨client, .advance read now⟩).isSome)) := rfl
  have hbalance := (client.step (.advance read now)).1.ready_add_unfinished
  by_cases hended : client.stage = .ended
  · rw [isLast_of_ended hended, handled_of_none (taken?_of_ended hended _), step_of_ended hended]
    exact Nat.zero_add _
  cases htaken : Moment.taken? ⟨client, .advance read now⟩ with
  | some line =>
      obtain ⟨-, hready, -⟩ := ready_of_taken? htaken
      obtain ⟨rest, -, hstep⟩ := step_of_taken? htaken
      have hquits := @ended_handleCommand { client with lines := rest } hready (.ofLine line)
      have hidle : client.unfinished = 0 := if_pos (.inl hready)
      rw [hlast, htaken, Option.isSome_some, Bool.or_true, Bool.and_true, hbalance, hstep, hidle,
        Nat.zero_add]
      by_cases hquit : UserCommand.ofLine line = .quit
      · rw [if_pos (hquits.2 hquit)]
        simp [handled, taken, htaken, hquit]
      · rw [if_neg fun h => hquit (hquits.1 h)]
        simp [handled, taken, htaken, hquit]
  | none =>
      rw [handled_of_none htaken, List.length_nil, Nat.add_zero]
      by_cases hready : client.stage = .ready
      · have hopen : Moment.isLast ⟨client, .advance read now⟩ = false := by
          simp [hlast, htaken, hready]
        have hidle : client.unfinished = 0 := if_pos (.inl hready)
        rw [hopen, hidle]
        rcases step_advance_of_no_line hready htaken with hsame | hends
        · rw [hsame, hidle]
          rfl
        · simp [unfinished, hends]
      · have hbusy : client.unfinished = 1 := if_neg (not_or.2 ⟨hready, hended⟩)
        rw [hlast, bne_iff_ne.2 hready, Bool.true_or, Bool.and_true, hbalance, hbusy]
        exact if_neg fun h => hready (ready_of_ended hended h)

namespace Tally

theorem length_completed (tally : Tally) (moment : Moment) :
    (tally.completed moment).length =
      moment.notification?.toList.length + moment.isLast.toNat := by
  rw [completed, List.length_append, List.length_map]
  cases moment.isLast <;> rfl

theorem countP_completed (tally : Tally) (moment : Moment) :
    (tally.completed moment).countP Cause.isFollowUp =
      (moment.isLast && (tally.cause moment).isFollowUp).toNat := by
  rw [completed, List.countP_append, List.countP_map]
  have hmessages : moment.notification?.toList.countP
      (Cause.isFollowUp ∘ fun _ => .message tally.messages) = 0 :=
    List.countP_eq_zero.2 fun _ _ => Bool.false_ne_true
  rw [hmessages, Nat.zero_add]
  cases moment.isLast with
  | false => rfl
  | true => cases hcause : (tally.cause moment).isFollowUp <;> simp [hcause]

theorem isFollowUp_cause_advance (tally : Tally) (client : Client) (read : FileReader)
    (now : Int) : (tally.cause ⟨client, .advance read now⟩).isFollowUp = false := by
  rw [cause]
  dsimp only
  split <;> rfl

/-- What is completed beside follow-ups and announcements has been in hand, or it is a line that is
taken up. -/
theorem Knows.unfinished_step (hknows : tally.Knows client) (event : Event) :
    (Moment.isLast ⟨client, event⟩).toNat + (client.step event).1.unfinished =
      client.unfinished + (handled [⟨client, event⟩]).length +
        (Moment.isLast ⟨client, event⟩ && (tally.cause ⟨client, event⟩).isFollowUp).toNat := by
  cases event with
  | advance read now =>
      rw [isFollowUp_cause_advance, Bool.and_false, unfinished_advance]
      rfl
  | render now =>
      have hstage : (client.step (.render now)).1.stage = client.stage :=
        stage_step_of_other (by simp) (by simp)
      have hcause : (tally.cause ⟨client, .render now⟩).isFollowUp = true := rfl
      rw [unfinished_of_stage hstage, handled_of_none rfl, hcause, Bool.and_true]
      exact Nat.add_comm _ _
  | answer number answer =>
      rw [handled_of_none rfl]
      cases hanswered : Moment.answered? ⟨client, .answer number answer⟩ with
      | none =>
          rw [isLast_of_answered?_none hanswered, step_of_answered?_none hanswered]
          exact Nat.zero_add _
      | some answered =>
          have hafter := stage_of_answered? hanswered
          rcases hknows.answered_cases hanswered with
            ⟨hlisting, hstage, hcause⟩ | ⟨hother, message, -, hcause⟩
          · have hlast : Moment.isLast ⟨client, .answer number answer⟩ = true := by
              simp [Moment.isLast, asked_answer, hanswered, hlisting, Purpose.followers]
            rw [if_pos hlisting] at hafter
            simp [hlast, hcause, unfinished, hafter, hstage, Cause.isFollowUp]
          · rw [if_neg hother] at hafter
            rw [unfinished_of_stage hafter, hcause, Cause.isFollowUp, Bool.and_true]
            exact Nat.add_comm _ _
  | _ =>
      rw [unfinished_of_stage (stage_step_of_other (by simp) (by simp)), handled_of_none rfl]
      exact Nat.zero_add _

/-- How many causes a run completes. -/
theorem Knows.length_completions (hknows : tally.Knows client) (events : List Event) :
    (tally.completions (client.moments events)).length + (client.run events).1.unfinished =
      client.unfinished + (handled (client.moments events)).length +
        (client.notifications events).length +
        (tally.completions (client.moments events)).countP Cause.isFollowUp := by
  induction events generalizing client tally with
  | nil => exact Nat.zero_add _
  | cons event rest ih =>
      have hlater := ih (hknows.next event)
      have hfirst := hknows.unfinished_step event
      rw [notifications_cons, moments_cons, completions, List.length_append, List.length_append,
        List.countP_append, length_completed, countP_completed, handled_cons, List.length_append,
        run_cons]
      dsimp only
      omega

end Tally

/-! ## What follows notifications -/

/-- How many downloads the client waits for on behalf of what follows notifications. -/
def awaited (client : Client) : Nat := client.downloads.countP (·.2 != .listing)

theorem awaited_step (client : Client) (event : Event) :
    (client.step event).1.awaited =
      (client.relieved event).awaited + (Moment.asked ⟨client, event⟩).countP (· != .listing) := by
  rw [awaited, downloads_step, List.countP_append, awaited]
  congr 1
  rw [← map_snd_numberedFrom client.downloadCount (Moment.asked ⟨client, event⟩), List.countP_map,
    map_snd_numberedFrom]
  rfl

theorem relieved_of_none (hnone : Moment.answered? ⟨client, event⟩ = none) :
    client.relieved event = client := by
  rw [relieved, hnone]
  rfl

/-- The rankings are refreshed at once, without a URL for them, or they are waited for. -/
theorem length_rankings (config : Config) :
    config.rankings.isEmpty.toNat + config.rankings.countP (· != .listing) = 1 := by
  rcases rankings_cases config with hnone | hone
  · rw [hnone]
    rfl
  · rw [hone]
    rfl

namespace Tally

/-- An answer takes one download from those that are waited for. -/
theorem Knows.downloads_perm (hknows : tally.Knows client) {answered : Nat × Purpose}
    (hanswered : Moment.answered? ⟨client, event⟩ = some answered) :
    client.downloads.Perm (answered :: (client.relieved event).downloads) := by
  have hmem := mem_of_answered? hanswered
  have hrest : (client.relieved event).downloads = client.downloads.erase answered := by
    rw [hknows.distinct.of_map.erase_eq_filter, relieved, hanswered]
    apply List.filter_congr
    intro waiting hwaiting
    rw [Bool.eq_iff_iff, bne_iff_ne, bne_iff_ne]
    refine not_congr ⟨fun hnumber => ?_, fun hsame => congrArg Prod.fst hsame⟩
    exact hknows.eq_of_askers hwaiting hmem (congrArg (tally.askers[·]?) hnumber)
  rw [hrest]
  exact List.perm_cons_erase hmem

/-- What follows a notification is waited for until it is complete. -/
theorem Knows.awaited_step (hknows : tally.Knows client) (event : Event) :
    (Moment.isLast ⟨client, event⟩ && (tally.cause ⟨client, event⟩).isFollowUp).toNat +
        (client.step event).1.awaited =
      client.awaited +
        (Moment.notification? ⟨client, event⟩).toList.countP (·.isFollowed) := by
  rw [Client.awaited_step]
  cases event with
  | advance read now =>
      have hsilent : Moment.notification? ⟨client, .advance read now⟩ = none :=
        notification?_eq_none (by simp)
      have hlistings : (Moment.asked ⟨client, .advance read now⟩).countP (· != .listing) = 0 := by
        rw [asked_advance]
        cases Moment.taken? ⟨client, .advance read now⟩ with
        | none => rfl
        | some line =>
            rw [Option.elim_some]
            cases UserCommand.ofLine line <;> rfl
      rw [isFollowUp_cause_advance, Bool.and_false, hlistings, relieved_of_none rfl, hsilent]
      exact Nat.zero_add _
  | render now =>
      have hcause : (tally.cause ⟨client, .render now⟩).isFollowUp = true := rfl
      rw [hcause, Bool.and_true, relieved_of_none rfl, Moment.isLast, asked_render]
      dsimp only
      cases Moment.notification? ⟨client, .render now⟩ with
      | none => exact Nat.zero_add _
      | some notification =>
          cases notification with
          | roundStart => exact Nat.zero_add _
          | rankingsChange =>
              have hrankings := length_rankings client.config
              change client.config.rankings.isEmpty.toNat +
                (client.awaited + client.config.rankings.countP _) = client.awaited + 1
              omega
          | _ => exact Nat.zero_add _
  | answer number answer =>
      have hsilent : Moment.notification? ⟨client, .answer number answer⟩ = none :=
        notification?_eq_none (by simp)
      rw [hsilent, Moment.isLast, asked_answer]
      cases hanswered : Moment.answered? ⟨client, .answer number answer⟩ with
      | none =>
          rw [relieved_of_none hanswered]
          exact Nat.zero_add _
      | some answered =>
          have hperm := (hknows.downloads_perm hanswered).countP_eq (·.2 != .listing)
          rw [List.countP_cons] at hperm
          change client.awaited = (client.relieved (.answer number answer)).awaited + _ at hperm
          rw [Option.elim_some, hperm]
          rcases hknows.answered_cases hanswered with
            ⟨hlisting, -, hcause⟩ | ⟨hother, message, -, hcause⟩
          · simp [hcause, hlisting, Cause.isFollowUp, Purpose.followers]
          · have hcounts : (answered.2 != .listing) = true := bne_iff_ne.2 hother
            rw [hcause, Cause.isFollowUp, if_pos hcounts]
            -- It is complete now, or it waits for the rankings next.
            cases hpurpose : answered.2 with
            | listing => exact absurd hpurpose hother
            | reloadedListing =>
                have hrankings := length_rankings client.config
                change (client.config.rankings.isEmpty && true).toNat +
                  (_ + client.config.rankings.countP _) = _ + 1 + 0
                rw [Bool.and_true]
                omega
            | rankings => simp [Purpose.followers, Nat.add_comm]
  | _ =>
      rw [relieved_of_none rfl, notification?_eq_none (by simp)]
      simp [Moment.asked, Moment.isLast, Moment.taken?, Moment.answered?, notification?_eq_none]

/-- In a run every follow-up is complete that is not waited for any more. -/
theorem Knows.awaited_run (hknows : tally.Knows client) (events : List Event) :
    (tally.completions (client.moments events)).countP Cause.isFollowUp +
        (client.run events).1.awaited =
      client.awaited + (client.notifications events).countP (·.isFollowed) := by
  induction events generalizing client tally with
  | nil => exact Nat.add_comm _ _
  | cons event rest ih =>
      have hlater := ih (hknows.next event)
      have hfirst := hknows.awaited_step event
      rw [notifications_cons, moments_cons, completions, List.countP_append, List.countP_append,
        countP_completed, run_cons]
      dsimp only
      omega

end Tally

/-! ## Runs -/

/-- Where the prompts of a run come from, the start of the client included. The trace has what is
put out with what it belongs to. -/
structure Prompts (client : Client) (begun : List Output) (events : List Event)
    (trace : List (Cause × Output)) (complete : List Cause) : Prop where
  traced : trace.map (·.2) = begun ++ (client.run events).2
  /-- What belongs to a complete cause ends with its only prompt, and nothing else has one. -/
  closed : ∀ cause, IsPrompted client.config.team (outputsOf cause trace) (cause ∈ complete)
  distinct : complete.Nodup
  /-- One prompt for the start, for every line but those that quit, for every notification and for
  every follow-up that is complete, unless the start or a line is in hand. -/
  count : (begun ++ (client.run events).2).count client.prompt + (client.run events).1.unfinished =
    1 + (handled (client.moments events)).length + (client.notifications events).length +
      complete.countP Cause.isFollowUp
  lines : taken (client.moments events) <+: typedLines events
  messages : ∀ number, .message number ∈ complete ↔ number < (client.notifications events).length
  /-- A follow-up is complete when no download of it is waited for. -/
  followUps : complete.countP Cause.isFollowUp + (client.run events).1.awaited =
    (client.notifications events).countP (·.isFollowed)
  /-- A line that asks for an action gets it into hand. -/
  acts : ∀ moment ∈ client.moments events, ∀ line, moment.taken? = some line →
    moment.after.stage.action? = (UserCommand.ofLine line).action?
  /-- Whoever has an action in hand has a control session, connected or not. -/
  served : ∀ moment ∈ client.moments events, moment.before.stage.action?.isSome →
    moment.before.hasControl = true
  never : .print (Display.error "Control channel is not open") ∉ begun ++ (client.run events).2

theorem action?_of_taken? {line : String} (htaken : Moment.taken? ⟨client, event⟩ = some line) :
    (client.step event).1.stage.action? = (UserCommand.ofLine line).action? := by
  obtain ⟨⟨read, now, rfl⟩, hready, -⟩ := ready_of_taken? htaken
  obtain ⟨rest, -, hstep⟩ := step_of_taken? htaken
  rw [hstep]
  cases UserCommand.ofLine line with
  | files =>
      rw [stage_handleCommand_files]
      rfl
  | help => exact congrArg Stage.action? hready
  | page => exact congrArg Stage.action? hready
  | unknown text => exact congrArg Stage.action? hready
  | _ => rfl

/-- No run says that there is no control channel. -/
theorem unserved_not_mem_run (hreachable : client.Reachable) (events : List Event) :
    .print (Display.error "Control channel is not open") ∉ (client.run events).2 := by
  rw [← flatMap_outputs_moments]
  intro hmem
  obtain ⟨moment, hmoment, hprinted⟩ := List.mem_flatMap.1 hmem
  obtain ⟨earlier, later, -, hbefore⟩ := exists_of_mem_moments hmoment
  have hsound := (hreachable.run earlier).isSound
  rw [← hbefore] at hsound
  rcases eq_prompt_or_said hsound hprinted with hprompt | hsaid
  · exact Display.append_newline_ne_prompt _ _ (Output.print.inj hprompt)
  · exact hsaid.ne_unserved rfl

/-- From its start on the client comes back to the prompt. -/
theorem prompts_of_start {config : Config} {read : FileReader} {attempt : Channel → Attempt}
    {meanwhile : Task → List Incident} {outputs : List Output}
    (hstart : start config read attempt meanwhile = (.ok client, outputs))
    (events : List Event) :
    client.Prompts outputs events
      (outputs.map (.work 0, ·) ++ ({} : Tally).trace (client.moments events))
      (({} : Tally).completions (client.moments events)) := by
  have hreachable := Reachable.start hstart
  have hsound := hreachable.isSound
  have hknows := Tally.knows_of_start hstart
  obtain ⟨page, opening, hbegun⟩ := Tally.exists_eq_of_start hstart
  have hunfinished : client.unfinished = 1 := by
    rw [hbegun]
    rfl
  have hawaited : client.awaited = 0 := by
    rw [hbegun]
    rfl
  have hsilent : client.prompt ∉ outputs := by
    intro hmem
    exact (isLine_greeting config.team).ne_prompt _ (eq_greeting_of_start hstart hmem).symm
  constructor
  · rw [List.map_append, List.map_map, Tally.map_snd_trace _ hsound]
    simp [Function.comp_def]
  · intro cause
    have hlater := Tally.isPrompted_trace hknows hsound events cause
    rw [outputsOf_append, outputsOf_map]
    split
    · exact .append ⟨outputs, hsilent, False.elim, fun _ => rfl⟩ hlater
    · exact hlater
  · exact Tally.nodup_completions hknows events
  · have hcompleted := hknows.length_completions events
    rw [List.count_append, List.count_eq_zero.2 hsilent, Tally.count_prompt_run {} hsound]
    omega
  · obtain ⟨left, hleft, -⟩ := client.exists_left_of_taken events
    have htyping : client.typing = ([], true) := typing_of_start hstart
    have hlines : client.lines = [] := congrArg (·.1) htyping
    have hinput : client.hasInput = true := congrArg (·.2) htyping
    rw [hlines, hinput] at hleft
    exact ⟨left, hleft.symm⟩
  · intro number
    rw [Tally.message_mem_completions hknows]
    simp
  · have hbalance := hknows.awaited_run events
    rwa [hawaited, Nat.zero_add] at hbalance
  · intro moment _ line htaken
    exact action?_of_taken? htaken
  · intro moment hmoment hhand
    obtain ⟨earlier, later, -, hbefore⟩ := exists_of_mem_moments hmoment
    have hrunning := (hreachable.run earlier).isSound
    rw [← hbefore] at hrunning
    apply hrunning.control
    intro hended
    rw [hended] at hhand
    cases hhand
  · intro hmem
    rcases List.mem_append.1 hmem with hgreeting | hrun
    · have hlead := (isLine_greeting config.team).lead_eq (by decide)
      rw [← eq_greeting_of_start hstart hgreeting] at hlead
      revert hlead
      decide
    · exact unserved_not_mem_run hreachable events hrun

/-- A new round is rendered before the listing of the start has come, and while it is followed up a
line is sent and the next one fails on a control channel that is lost. Every one of them ends with
the prompt, but for the line that quits. -/
theorem prompts_of_start_dropped :
    let config : Config := { Session.localConfig with rankingsPath := some "/rankings" }
    let message : Frame := .bare .message [("destination", "/queue/start")]
    let next : Event := .advance (fun _ => .ok "") 0
    let events : List Event := [.line "compile", .receive .control (.text message.encode),
      .render 0, .answer 0 (.response 200 "A.java"), next, next, next,
      .answer 1 (.response 200 "B.java"), .line "  ", .lose .control "reset", .line "submit",
      next, next, next, .answer 2 (.failed "refused"), .look .control, .line "quit", next]
    ∃ client outputs,
      start config (fun _ => .ok "") (fun _ => Manager.grantedAttempt) = (.ok client, outputs) ∧
        client.Prompts outputs events
          (outputs.map (.work 0, ·) ++ ({} : Tally).trace (client.moments events))
          (({} : Tally).completions (client.moments events)) ∧
        ({} : Tally).completions (client.moments events) =
          [.message 0, .work 0, .work 1, .work 2, .followUp 0] := by
  intro config message next events
  have hseen : ∃ client ∈
      (start config (fun _ => .ok "") fun _ => Manager.grantedAttempt).1.toOption,
        ({} : Tally).completions (client.moments events) =
          [.message 0, .work 0, .work 1, .work 2, .followUp 0] := by
    decide +kernel
  obtain ⟨client, outputs, hstart, hcomplete⟩ := exists_of_start hseen
  exact ⟨client, outputs, hstart, prompts_of_start hstart events, hcomplete⟩

end Client

end ClassroomClient
