/-
# The lock over whole runs

In every state that the client can reach the page is open or locked as a whole. A submission that
the page accepts and the signal for the end of a round lock it, the signal for a new round opens
it, and nothing else touches the lock: no failure to send, no file that is read again, no other
message and no download. While it is locked every action is refused, and refusing an action writes
nothing to the server.

The refusal rests on two facts about reachable states beside the lock itself: there is a control
session until the client ends, and no line waits for a listing while another is being handled. The
invariant carries all three.
-/

import ClassroomClient.Proofs.Client.Run
import ClassroomClient.Proofs.Session.Tasks

namespace ClassroomClient

open Exchange

namespace Client

/-! ## The invariant -/

/-- What holds of every state that the client reaches. -/
structure IsSound (client : Client) : Prop where
  whole : client.page.IsOpen ∨ client.page.IsLocked
  control : client.stage ≠ .ended → client.hasControl = true
  waits : client.stage ≠ .ended →
    client.listings ≤ if client.stage = .listing then 1 else 0

variable {client : Client}

theorem IsSound.listings_eq_zero (hsound : client.IsSound) (hrunning : client.stage ≠ .ended)
    (hstage : client.stage ≠ .listing) : client.listings = 0 := by
  have hwaits := hsound.waits hrunning
  rw [if_neg hstage] at hwaits
  exact Nat.le_zero.1 hwaits

/-- A lock that is that of a whole page is whole. -/
theorem whole_of_lockState {page other : Page} (hwhole : page.IsOpen ∨ page.IsLocked)
    (hsame : other.lockState = page.lockState) : other.IsOpen ∨ other.IsLocked := by
  rcases hwhole with hopen | hlocked
  · exact .inl (hopen.of_lockState hsame)
  · exact .inr (hlocked.of_lockState hsame)

/-- A move between stages of a running client keeps the invariant when the page that gives the
lock is whole and only a client that waits has something to wait for. -/
theorem IsSound.of_moves (hsound : client.IsSound) {page : Page} {stage : Stage} {listings : Nat}
    {result : Client × List Output} (hmoves : client.Moves page stage listings result)
    (hwhole : page.IsOpen ∨ page.IsLocked) (hrunning : stage ≠ .ended → client.stage ≠ .ended)
    (hwaits : stage ≠ .ended → listings ≤ if stage = .listing then 1 else 0) :
    result.1.IsSound where
  whole := whole_of_lockState hwhole hmoves.lock
  control := by
    rw [hmoves.stage, hmoves.control]
    intro hstage
    exact hsound.control (hrunning hstage)
  waits := by
    rw [hmoves.stage]
    intro hstage
    exact Nat.le_trans hmoves.listings (hwaits hstage)

/-- What an action does to the page leaves it open or locked as a whole. -/
theorem whole_pageAfter {page : Page} (hwhole : page.IsOpen ∨ page.IsLocked) (action : Action) :
    (Submission.pageAfter page action).IsOpen ∨ (Submission.pageAfter page action).IsLocked := by
  cases action with
  | compile => exact hwhole
  | test => exact whole_of_lockState hwhole page.lockState_clearTestOutputs
  | submit => exact .inr page.isLocked_disable

/-- A line that goes on keeps the invariant, since no line waits for a listing meanwhile. -/
theorem IsSound.of_handling (hsound : client.IsSound) {page : Page} {stage next : Stage}
    {result : Client × List Output} (hstage : client.stage = stage) (hrunning : stage ≠ .ended)
    (hlisting : stage ≠ .listing) (hmoves : client.Moves page next client.listings result)
    (hwhole : page.IsOpen ∨ page.IsLocked) : result.1.IsSound := by
  subst hstage
  apply hsound.of_moves hmoves hwhole
  · intro _
    exact hrunning
  · intro _
    rw [hsound.listings_eq_zero hrunning hlisting]
    exact Nat.zero_le _

/-- Every step keeps the invariant. -/
theorem IsSound.step (hsound : client.IsSound) (event : Event) :
    (client.step event).1.IsSound := by
  have hchange := client.step_change event
  generalize client.step event = result at hchange ⊢
  cases hchange with
  | quiet hmoves => exact hsound.of_moves hmoves hsound.whole id hsound.waits
  | asked hready hmoves =>
      have hnone : client.listings = 0 := by
        apply hsound.listings_eq_zero <;> rw [hready] <;> nofun
      apply hsound.of_moves hmoves hsound.whole
      · intro _
        rw [hready]
        nofun
      · intro _
        exact Nat.le_of_eq (by rw [hnone, if_pos rfl])
  | listed hrunning hlisting hmoves =>
      have hone := hsound.waits hrunning
      apply hsound.of_moves hmoves hsound.whole
      · intro _
        exact hrunning
      · intro _
        split at hone <;> simp <;> omega
  | began hready hlines haction hmoves =>
      exact hsound.of_handling hready nofun nofun hmoves hsound.whole
  | refreshed hstage hmoves => exact hsound.of_handling hstage nofun nofun hmoves hsound.whole
  | unserved hstage hcontrol hmoves =>
      exact hsound.of_handling hstage nofun nofun hmoves hsound.whole
  | refused hstage hdisabled hanswer hmoves =>
      exact hsound.of_handling hstage nofun nofun hmoves hsound.whole
  | @prepared _ _ action _ _ hstage henabled hmoves =>
      exact hsound.of_handling hstage nofun nofun hmoves (whole_pageAfter hsound.whole action)
  | sent hstage hmoves =>
      have hafter := hsound.of_handling hstage nofun nofun hmoves hsound.whole
      exact hafter
  | stopped hrenders hmoves =>
      exact hsound.of_moves hmoves (.inr client.page.isLocked_disable) id hsound.waits
  | started hrenders hmoves =>
      exact hsound.of_moves hmoves (.inl client.page.isOpen_reload) id hsound.waits
  | ended hready hpage hended =>
      refine ⟨?_, fun h => absurd hended h, fun h => absurd hended h⟩
      rw [hpage]
      exact hsound.whole

/-- The invariant holds at the start: the page is fresh, the control channel is open, and only the
greeting waits for a listing. -/
theorem isSound_of_start {config : Config} {read : FileReader} {attempt : Channel → Attempt}
    {meanwhile : Task → List Incident} {outputs : List Output}
    (hstart : start config read attempt meanwhile = (.ok client, outputs)) :
    client.IsSound := by
  obtain ⟨page, hload, hopened, rfl⟩ := exists_opened_of_start hstart
  have hbegun : IsSound (opened config page (firstOpening config attempt meanwhile)) :=
    { whole := .inl (isOpen_of_loadPage hload)
      control := fun _ => Manager.isSome_of_opening hopened (by decide)
      waits := fun _ => Nat.zero_le _ }
  rcases (opened config page (firstOpening config attempt meanwhile)).moves_fetchListing with
    hmoves | hmoves
  · exact hbegun.of_moves hmoves hbegun.whole (fun _ => nofun) (fun _ => Nat.zero_le _)
  · exact hbegun.of_moves hmoves hbegun.whole (fun _ => nofun) (fun _ => Nat.le_refl _)

theorem Reachable.isSound (hreachable : client.Reachable) : client.IsSound := by
  induction hreachable with
  | start hstart => exact isSound_of_start hstart
  | step hreachable event ih => exact ih.step event

/-! ## What locks and what opens -/

/-- The event lets the client take up a submission that the page allows: all files have been read
again, and the request is built next. -/
def AcceptsSubmission (client : Client) (event : Event) : Prop :=
  (∃ read now, event = .advance read now) ∧ client.stage = .refreshing .submit [] ∧
    client.page.isDisabled .submit = false

theorem isLocked_of_acceptsSubmission {event : Event} (hsound : client.IsSound)
    (haccepts : client.AcceptsSubmission event) : (client.step event).1.page.IsLocked := by
  obtain ⟨⟨read, now, rfl⟩, hstage, henabled⟩ := haccepts
  have hrunning : client.stage ≠ .ended := by
    rw [hstage]
    nofun
  have hprepared := prepareAction_of_enabled (hsound.control hrunning) henabled
  rw [step, if_neg hrunning]
  simp only [advance, hstage, hprepared]
  exact client.page.isLocked_disable

theorem isLocked_of_renders_stop {event : Event}
    (hrenders : client.Renders event Route.roundStop) : (client.step event).1.page.IsLocked := by
  obtain ⟨hrunning, now, message, rest, rfl, hqueue, htopic⟩ := hrenders
  have hmoves : client.Moves client.page.disable client.stage client.listings
      (client.renderNext now) := moves_renderNext_of_stop hqueue htopic
  rw [step, if_neg hrunning]
  exact client.page.isLocked_disable.of_lockState hmoves.lock

theorem isOpen_of_renders_start {event : Event}
    (hrenders : client.Renders event Route.roundStart) : (client.step event).1.page.IsOpen := by
  obtain ⟨hrunning, now, message, rest, rfl, hqueue, htopic⟩ := hrenders
  have hmoves : client.Moves client.page.reload client.stage client.listings
      (client.renderNext now) := moves_renderNext_of_start hqueue htopic
  rw [step, if_neg hrunning]
  exact client.page.isOpen_reload.of_lockState hmoves.lock

/-- A step leaves the lock as it is unless it is one of the three that set it. -/
theorem lockState_step (client : Client) (event : Event) :
    (client.step event).1.page.lockState = client.page.lockState ∨
      client.AcceptsSubmission event ∨ client.Renders event Route.roundStop ∨
      client.Renders event Route.roundStart := by
  have hchange := client.step_change event
  generalize client.step event = result at hchange ⊢
  cases hchange with
  | quiet hmoves => exact .inl hmoves.lock
  | asked hready hmoves => exact .inl hmoves.lock
  | listed hrunning hlisting hmoves => exact .inl hmoves.lock
  | began hready hlines haction hmoves => exact .inl hmoves.lock
  | refreshed hstage hmoves => exact .inl hmoves.lock
  | unserved hstage hcontrol hmoves => exact .inl hmoves.lock
  | refused hstage hdisabled hanswer hmoves => exact .inl hmoves.lock
  | sent hstage hmoves => exact .inl hmoves.lock
  | stopped hrenders hmoves => exact .inr (.inr (.inl hrenders))
  | started hrenders hmoves => exact .inr (.inr (.inr hrenders))
  | ended hready hpage hended =>
      left
      rw [hpage]
  | @prepared read now action _ _ hstage henabled hmoves =>
      cases action with
      | compile => exact .inl hmoves.lock
      | test => exact .inl (hmoves.lock.trans client.page.lockState_clearTestOutputs)
      | submit => exact .inr (.inl ⟨⟨read, now, rfl⟩, hstage, henabled⟩)

/-- A locked page is opened by nothing but the signal for a new round. -/
theorem isLocked_step {event : Event} (hsound : client.IsSound) (hlocked : client.page.IsLocked)
    (hunopened : ¬ client.Renders event Route.roundStart) :
    (client.step event).1.page.IsLocked := by
  rcases client.lockState_step event with hsame | haccepts | hstop | hstart
  · exact hlocked.of_lockState hsame
  · exact isLocked_of_acceptsSubmission hsound haccepts
  · exact isLocked_of_renders_stop hstop
  · exact absurd hstart hunopened

/-- An open page is locked by nothing but a submission that is accepted and the signal for the end
of a round. -/
theorem locks_of_isOpen {event : Event} (hopen : client.page.IsOpen)
    (hlocked : (client.step event).1.page.IsLocked) :
    client.AcceptsSubmission event ∨ client.Renders event Route.roundStop := by
  rcases client.lockState_step event with hsame | haccepts | hstop | hstart
  · exact absurd hlocked (hopen.of_lockState hsame).not_isLocked
  · exact .inl haccepts
  · exact .inr hstop
  · exact absurd hlocked (isOpen_of_renders_start hstart).not_isLocked

theorem isLocked_run {events : List Event} (hsound : client.IsSound)
    (hlocked : client.page.IsLocked)
    (hunopened : ¬ client.RendersDuring events Route.roundStart) :
    (client.run events).1.page.IsLocked := by
  induction events generalizing client with
  | nil => exact hlocked
  | cons event rest ih =>
      apply ih (hsound.step event)
      · apply isLocked_step hsound hlocked
        intro hrenders
        exact hunopened (rendersDuring_of_head hrenders rest)
      · intro hrenders
        exact hunopened (rendersDuring_of_tail event hrenders)

/-! ## What is refused -/

/-- The answer to an action of which the control is disabled. -/
def refusal (client : Client) (action : Action) : List Output :=
  [.print (Display.error (DispatchError.controlDisabled action).message), client.prompt]

/-- While the page is locked the handling of an action goes on to read files, without writing
anything, or ends with the refusal. -/
theorem step_of_refreshing {event : Event} {action : Action} {left : List FileSpec}
    (hsound : client.IsSound) (hlocked : client.page.IsLocked)
    (hstage : client.stage = .refreshing action left) :
    Output.wires (client.step event).2 = [] ∧
      ((∃ left, (client.step event).1.stage = .refreshing action left) ∨
        (client.step event).1.stage = .ready ∧ (client.step event).2 = client.refusal action) := by
  have hchange := client.step_change event
  generalize client.step event = result at hchange ⊢
  cases hchange with
  | quiet hmoves => exact ⟨hmoves.silent, .inl ⟨left, hmoves.stage.trans hstage⟩⟩
  | stopped hrenders hmoves => exact ⟨hmoves.silent, .inl ⟨left, hmoves.stage.trans hstage⟩⟩
  | started hrenders hmoves => exact ⟨hmoves.silent, .inl ⟨left, hmoves.stage.trans hstage⟩⟩
  | refreshed hother hmoves =>
      cases hstage.symm.trans hother
      exact ⟨hmoves.silent, .inl ⟨_, hmoves.stage⟩⟩
  | refused hother hdisabled hanswer hmoves =>
      cases hstage.symm.trans hother
      exact ⟨hmoves.silent, .inr ⟨hmoves.stage, hanswer⟩⟩
  | prepared hother henabled hmoves =>
      cases hstage.symm.trans hother
      rw [hlocked.disabled action] at henabled
      cases henabled
  | unserved hother hcontrol hmoves =>
      rw [hsound.control (by rw [hstage]; nofun)] at hcontrol
      cases hcontrol
  | listed hrunning hlisting hmoves =>
      rw [hsound.listings_eq_zero hrunning (by rw [hstage]; nofun)] at hlisting
      cases hlisting
  | asked hready hmoves => cases hstage.symm.trans hready
  | began hready hlines haction hmoves => cases hstage.symm.trans hready
  | sent hother hmoves => cases hstage.symm.trans hother
  | ended hready hpage hended => cases hstage.symm.trans hready

/-- The rest of the handling of an action, up to its end, while the page is locked. -/
theorem run_of_refreshing {events : List Event} {action : Action} {left : List FileSpec}
    (hsound : client.IsSound) (hlocked : client.page.IsLocked)
    (hstage : client.stage = .refreshing action left)
    (hunopened : ¬ client.RendersDuring events Route.roundStart)
    (hbusy : ∀ earlier later, events = earlier ++ later → later ≠ [] →
      (client.run earlier).1.stage ≠ .ready)
    (hdone : (client.run events).1.stage = .ready) :
    Output.wires (client.run events).2 = [] ∧
      ∃ earlier last, events = earlier ++ [last] ∧
        ((client.run earlier).1.step last).2 = (client.run earlier).1.refusal action := by
  induction events generalizing client left with
  | nil => cases hstage.symm.trans hdone
  | cons event rest ih =>
      have hkept : ¬ client.Renders event Route.roundStart :=
        fun hrenders => hunopened (rendersDuring_of_head hrenders rest)
      obtain ⟨hsilent, ⟨left, hgoes⟩ | ⟨hends, hanswer⟩⟩ := step_of_refreshing hsound hlocked hstage
      · have hlater : Output.wires ((client.step event).1.run rest).2 = [] ∧
            ∃ earlier last, rest = earlier ++ [last] ∧
              (((client.step event).1.run earlier).1.step last).2 =
                ((client.step event).1.run earlier).1.refusal action := by
          apply ih (hsound.step event) (isLocked_step hsound hlocked hkept) hgoes
          · intro hrenders
            exact hunopened (rendersDuring_of_tail event hrenders)
          · rintro earlier later rfl hlater
            exact hbusy (event :: earlier) later rfl hlater
          · exact hdone
        obtain ⟨hwires, earlier, last, rfl, hlast⟩ := hlater
        refine ⟨?_, event :: earlier, last, rfl, hlast⟩
        rw [run_cons, wires_append, hsilent, hwires]
        rfl
      · have hrest : rest = [] := by
          by_contra hmore
          exact hbusy [event] rest rfl hmore hends
        subst hrest
        exact ⟨by rw [run_cons, wires_append, hsilent]; rfl, [], event, rfl, hanswer⟩

/-- The event that takes up an action begins to read its files and puts nothing out. -/
theorem step_of_line {line : String} {rest : List String} {action : Action}
    (hready : client.stage = .ready) (hlines : client.lines = line :: rest)
    (haction : (UserCommand.ofLine line).action? = some action) (read : FileReader) (now : Int) :
    (client.step (.advance read now)).1.stage = .refreshing action client.config.editableFiles ∧
      (client.step (.advance read now)).2 = [] := by
  have hrunning : client.stage ≠ .ended := by
    rw [hready]
    nofun
  rw [step, if_neg hrunning]
  simp only [advance, hready, hlines]
  cases hcommand : UserCommand.ofLine line with
  | compile =>
      rw [hcommand] at haction
      cases haction
      exact ⟨rfl, rfl⟩
  | test names =>
      rw [hcommand] at haction
      cases haction
      exact ⟨rfl, rfl⟩
  | submit =>
      rw [hcommand] at haction
      cases haction
      exact ⟨rfl, rfl⟩
  | _ =>
      rw [hcommand] at haction
      cases haction

/-- An action whose handling begins and ends while the page is locked is refused in the end, and
nothing is written meanwhile. -/
theorem refused_of_isLocked {line : String} {events : List Event} {action : Action}
    (hsound : client.IsSound) (hlocked : client.page.IsLocked)
    (hhandles : client.Handles line events)
    (haction : (UserCommand.ofLine line).action? = some action)
    (hunopened : ¬ client.RendersDuring events Route.roundStart) :
    Output.wires (client.run events).2 = [] ∧
      ∃ earlier last, events = earlier ++ [last] ∧
        ((client.run earlier).1.step last).2 = (client.run earlier).1.refusal action := by
  obtain ⟨hready, ⟨waiting, hlines⟩, ⟨read, now, later, rfl⟩, hbusy, hdone⟩ := hhandles
  obtain ⟨hstage, hsilent⟩ := step_of_line hready hlines haction read now
  have hkept : (client.step (.advance read now)).1.page.IsLocked :=
    isLocked_step hsound hlocked (client.not_renders_advance read now _)
  have hrest : Output.wires ((client.step (.advance read now)).1.run later).2 = [] ∧
      ∃ earlier last, later = earlier ++ [last] ∧
        (((client.step (.advance read now)).1.run earlier).1.step last).2 =
          ((client.step (.advance read now)).1.run earlier).1.refusal action := by
    apply run_of_refreshing (hsound.step _) hkept hstage
    · intro hrenders
      exact hunopened (rendersDuring_of_tail _ hrenders)
    · rintro earlier after rfl hafter
      exact hbusy (.advance read now :: earlier) after rfl (List.cons_ne_nil _ _) hafter
    · exact hdone
  obtain ⟨hwires, earlier, last, rfl, hlast⟩ := hrest
  refine ⟨?_, .advance read now :: earlier, last, rfl, hlast⟩
  rw [run_cons, hsilent, List.nil_append]
  exact hwires

/-- The turns in which the handling of lines goes on, one after the other. -/
def turns (files : List (FileReader × Int)) : List Event :=
  files.map fun (read, now) => .advance read now

/-- A turn for each file that is left and one more end the handling of an action. -/
theorem run_turns_of_refreshing {files : List (FileReader × Int)} {action : Action}
    {left : List FileSpec} (hsound : client.IsSound) (hlocked : client.page.IsLocked)
    (hstage : client.stage = .refreshing action left) (hlength : files.length = left.length + 1) :
    (∀ earlier later, turns files = earlier ++ later → later ≠ [] →
        (client.run earlier).1.stage ≠ .ready) ∧
      (client.run (turns files)).1.stage = .ready := by
  have hrunning : client.stage ≠ .ended := by
    rw [hstage]
    nofun
  induction left generalizing client files with
  | nil =>
      obtain ⟨⟨read, now⟩, rfl⟩ := List.length_eq_one_iff.1 hlength
      have hrefused := prepareAction_of_disabled (hsound.control hrunning) (hlocked.disabled action)
      constructor
      · intro earlier later hsplit hlater
        cases earlier with
        | nil =>
            rw [run_nil, hstage]
            nofun
        | cons event rest =>
            have hnone : rest ++ later = [] := (List.cons.inj hsplit).2.symm
            exact absurd (List.append_eq_nil_iff.1 hnone).2 hlater
      · change (client.step (.advance read now)).1.stage = .ready
        rw [step, if_neg hrunning]
        simp only [advance, hstage, hrefused]
  | cons spec left ih =>
      obtain ⟨⟨read, now⟩, files, rfl⟩ := List.exists_cons_of_length_eq_add_one hlength
      have hnext : (client.step (.advance read now)).1.stage = .refreshing action left := by
        rw [step, if_neg hrunning]
        simp only [advance, hstage]
      have hkept : (client.step (.advance read now)).1.page.IsLocked :=
        isLocked_step hsound hlocked (client.not_renders_advance read now _)
      obtain ⟨hbusy, hdone⟩ := ih (hsound.step _) hkept hnext (Nat.succ.inj hlength)
        (by rw [hnext]; nofun)
      refine ⟨?_, hdone⟩
      intro earlier later hsplit hlater
      cases earlier with
      | nil =>
          rw [run_nil, hstage]
          nofun
      | cons event rest =>
          obtain ⟨rfl, hrest⟩ := List.cons.inj hsplit
          exact hbusy rest later hrest hlater

/-- An action that is taken up under a lock is handled in a turn to begin it, one for each file
and one to refuse it. -/
theorem handles_turns {line : String} {rest : List String} {action : Action}
    {files : List (FileReader × Int)} (hsound : client.IsSound) (hlocked : client.page.IsLocked)
    (hready : client.stage = .ready) (hlines : client.lines = line :: rest)
    (haction : (UserCommand.ofLine line).action? = some action)
    (hlength : files.length = client.config.editableFiles.length + 2) :
    client.Handles line (turns files) := by
  obtain ⟨⟨read, now⟩, files, rfl⟩ := List.exists_cons_of_length_eq_add_one hlength
  have hstage := (step_of_line hready hlines haction read now).1
  have hkept : (client.step (.advance read now)).1.page.IsLocked :=
    isLocked_step hsound hlocked (client.not_renders_advance read now _)
  obtain ⟨hbusy, hdone⟩ := run_turns_of_refreshing (hsound.step _) hkept hstage
    (Nat.succ.inj hlength)
  refine ⟨hready, ⟨rest, hlines⟩, ⟨read, now, turns files, rfl⟩, ?_, hdone⟩
  intro earlier later hsplit hearlier hlater
  cases earlier with
  | nil => exact absurd rfl hearlier
  | cons event others =>
      obtain ⟨rfl, hothers⟩ := List.cons.inj hsplit
      exact hbusy others later hothers hlater

/-! ## The law -/

/-- How a state of the client stands to the lock of its page: the page is open or locked as a
whole, what sets the lock and what alone can set it, and what a lock does to the lines that are
handled under it. -/
structure ObeysLock (client : Client) : Prop where
  whole : client.page.IsOpen ∨ client.page.IsLocked
  /-- An accepted submission locks before it is sent, so that it does not matter how that goes. -/
  submission_locks : ∀ event, client.AcceptsSubmission event →
    (client.step event).1.page.IsLocked
  stop_locks : ∀ event, client.Renders event Route.roundStop → (client.step event).1.page.IsLocked
  start_opens : ∀ event, client.Renders event Route.roundStart → (client.step event).1.page.IsOpen
  locked_by : ∀ event, client.page.IsOpen → (client.step event).1.page.IsLocked →
    client.AcceptsSubmission event ∨ client.Renders event Route.roundStop
  stays_locked : ∀ events, client.page.IsLocked →
    ¬ client.RendersDuring events Route.roundStart → (client.run events).1.page.IsLocked
  refuses : ∀ line events action, client.page.IsLocked → client.Handles line events →
    (UserCommand.ofLine line).action? = some action →
    ¬ client.RendersDuring events Route.roundStart →
    Output.wires (client.run events).2 = [] ∧
      ∃ earlier last, events = earlier ++ [last] ∧
        ((client.run earlier).1.step last).2 = (client.run earlier).1.refusal action
  /-- The handling of such a line does end when its turns come. -/
  ends : ∀ line rest action files, client.page.IsLocked → client.stage = .ready →
    client.lines = line :: rest → (UserCommand.ofLine line).action? = some action →
    files.length = client.config.editableFiles.length + 2 → client.Handles line (turns files)

/-- Every state that a client can reach obeys the lock. -/
theorem obeysLock_of_reachable {client : Client} (hreachable : client.Reachable) :
    client.ObeysLock := by
  have hsound := hreachable.isSound
  constructor
  · exact hsound.whole
  · intro event haccepts
    exact isLocked_of_acceptsSubmission hsound haccepts
  · intro event hrenders
    exact isLocked_of_renders_stop hrenders
  · intro event hrenders
    exact isOpen_of_renders_start hrenders
  · intro event hopen hlocked
    exact locks_of_isOpen hopen hlocked
  · intro events hlocked hunopened
    exact isLocked_run hsound hlocked hunopened
  · intro line events action hlocked hhandles haction hunopened
    exact refused_of_isLocked hsound hlocked hhandles haction hunopened
  · intro line rest action files hlocked hready hlines haction hlength
    exact handles_turns hsound hlocked hready hlines haction hlength

/-- A submission is accepted and locks the page, its sending fails, and a line that follows is
refused without writing anything. -/
theorem obeysLock_of_reachable_submitted :
    let config : Config :=
      { Session.localConfig with files := [{ path := "A.java", kind := .edit }] }
    let read : FileReader := fun _ => .ok "class A {}"
    let next : Event := .advance read 0
    ∃ client outputs,
      start config read (fun _ => Manager.grantedAttempt) = (.ok client, outputs) ∧
        let locked := (client.run [.answer 0 (.failed "refused"), .line "submit", next, next, next,
          .lose .control "reset", next, .line "compile"]).1
        locked.page.IsLocked ∧ locked.Handles "compile" [next, next, next] ∧
          Output.wires (locked.run [next, next, next]).2 = [] ∧
          ∃ earlier last, [next, next, next] = earlier ++ [last] ∧
            ((locked.run earlier).1.step last).2 = (locked.run earlier).1.refusal .compile := by
  intro config read next
  -- The submission is taken up with an open page, which is locked before the request is sent.
  let submits : List Event := [.answer 0 (.failed "refused"), .line "submit", next, next]
  let follows : List Event := [.lose .control "reset", next, .line "compile"]
  have hseen : ∃ client ∈ (start config read fun _ => Manager.grantedAttempt).1.toOption,
      (client.run submits).1.stage = .refreshing .submit [] ∧
        (client.run submits).1.page.isDisabled .submit = false ∧
        (client.run (submits ++ next :: follows)).1.stage = .ready ∧
        (client.run (submits ++ next :: follows)).1.lines = ["compile"] ∧
        (client.run (submits ++ next :: follows)).1.config.editableFiles.length = 1 := by
    decide +kernel
  obtain ⟨client, outputs, hstart, hstage, henabled, hready, hlines, hfiles⟩ :=
    exists_of_start hseen
  refine ⟨client, outputs, hstart, ?_⟩
  intro locked
  have hstarted := Reachable.start hstart
  have haccepts : (client.run submits).1.AcceptsSubmission next :=
    ⟨⟨read, 0, rfl⟩, hstage, henabled⟩
  have hsubmitted := hstarted.run submits
  have hpage : locked.page.IsLocked :=
    (obeysLock_of_reachable (hsubmitted.step next)).stays_locked follows
      ((obeysLock_of_reachable hsubmitted).submission_locks next haccepts)
      (not_rendersDuring _ (by simp [follows, next]))
  have hlaw := obeysLock_of_reachable (hstarted.run (submits ++ next :: follows))
  have hhandles : locked.Handles "compile" [next, next, next] := by
    apply hlaw.ends "compile" [] .compile [(read, 0), (read, 0), (read, 0)] hpage hready hlines
    · decide
    · change 3 = (client.run (submits ++ next :: follows)).1.config.editableFiles.length + 2
      rw [hfiles]
  exact ⟨hpage, hhandles, hlaw.refuses "compile" [next, next, next] .compile hpage hhandles
    (by decide) (not_rendersDuring _ (by simp [next]))⟩

end Client

end ClassroomClient
