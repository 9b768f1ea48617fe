/-
# What is sent, line by line

Every line that asks for an action is answered once, in the order in which the lines were typed:
with one frame on the control channel and a confirmation, or with an error and no frame. Nothing
else that happens to the client writes anything on a connection until it ends, neither messages
from the server nor downloads.

`Posts` says what one step does to the actions that have been asked for: it answers the one in
hand, or it leaves all of them pending and writes nothing. `Balances` adds the steps of a run up,
from what was pending before it and what is typed in it.
-/

import ClassroomClient.Proofs.Client.Lines
import ClassroomClient.Proofs.Submission

namespace ClassroomClient

open Exchange Stomp

/-- Where the server takes the requests of an action. -/
def Action.route : Action → String
  | .compile => "/app/submit/compile"
  | .test => "/app/submit/test"
  | .submit => "/app/submit/submit"

theorem Action.destination_eq_route (action : Action) : action.destination = action.route := by
  cases action <;> rfl

/-- How an action was answered. -/
inductive Answer
  | confirmed (action : Action) (request : Request) (now : Int)
  | failed (action : Action) (message : String)

namespace Answer

/-- The action that is answered. -/
def action : Answer → Action
  | confirmed action _ _ | failed action _ => action

/-- The frame that carries the request. -/
def frame? : Answer → Option Frame
  | confirmed action request _ =>
    some (sendFrame action.destination (String.ofList request.text))
  | failed _ _ => none

/-- The text that tells the student. -/
def notice : Answer → String
  | confirmed action request now => Display.sent action request now
  | failed _ message => Display.error message

/-- What is written. -/
def wires (answer : Answer) : WireLog :=
  (answer.frame?.map fun frame => (Channel.control, WireEvent.text frame.encode)).toList

/-- What is put out for the answer. -/
def outputs (team : String) (answer : Answer) : List Output :=
  Client.wireOutputs answer.wires ++ [.print answer.notice, .print (team ++ "> ")]

theorem wires_outputs (team : String) (answer : Answer) :
    Output.wires (answer.outputs team) = answer.wires := by
  rw [outputs, Client.wires_append, Client.wires_wireOutputs]
  exact List.append_nil _

/-- The frame asks for the action on its route, which the server reads from its text, and the notice
confirms it with the number of files that the body holds. The bound on the body is that of every
text in memory. -/
def Confirms (action : Action) (notice : String) (frame : Frame) : Prop :=
  frame.command = .send ∧ frame.header? "destination" = some action.route ∧
    (frame.body.utf8ByteSize < 2 ^ 63 →
      ReadsAs frame.encode .send [("destination", action.route)] frame.body) ∧
    ∃ request rest, Request.shape.decode frame.body = .ok request ∧
      notice = action.name ++ " sent with " ++
        String.ofList (Text.decimal request.source.length) ++ " file(s)" ++ rest

theorem exists_sent_eq (action : Action) (request : Request) (now : Int) :
    ∃ rest, Display.sent action request now = action.name ++ " sent with " ++
      String.ofList (Text.decimal request.source.length) ++ " file(s)" ++ rest := by
  obtain ⟨tests, hsent⟩ : ∃ tests, Display.sent action request now =
      action.name ++ " sent with " ++ String.ofList (Text.decimal request.source.length) ++
        " file(s)" ++ tests ++ " at " ++ Calendar.timestamp now ++ "\n" := ⟨_, rfl⟩
  refine ⟨tests ++ " at " ++ Calendar.timestamp now ++ "\n", ?_⟩
  rw [hsent]
  simp only [String.append_assoc]

/-- An answer with a frame is a confirmation of it. -/
theorem confirms_of_frame {answer : Answer} {frame : Frame} (hframe : answer.frame? = some frame) :
    Confirms answer.action answer.notice frame := by
  cases answer with
  | failed action message => cases hframe
  | confirmed action request now =>
      obtain ⟨rest, hnotice⟩ := exists_sent_eq action request now
      cases hframe
      rw [Action.destination_eq_route]
      refine ⟨rfl, ?_, fun hsize => ?_, request, rest, Request.decode_text request, hnotice⟩
      · simp [sendFrame, Frame.bare, Frame.header?, lookup?, Answer.action]
      · obtain ⟨frame, hparse, hcommand, hheaders, hbody⟩ := readsAs_sendFrame action.route hsize
        exact ⟨frame, hparse, hcommand,
          List.forall_mem_singleton.2 (hheaders _ List.mem_cons_self), hbody⟩

/-- An answer without a frame is an error. -/
theorem exists_error_of_none {answer : Answer} (hframe : answer.frame? = none) :
    ∃ message, answer.notice = Display.error message := by
  cases answer with
  | confirmed action request now => cases hframe
  | failed action message => exact ⟨message, rfl⟩

end Answer

namespace Client

/-! ## One step -/

/-- What a step does to the actions that have been asked for. -/
inductive Posts (client : Client) (event : Event) (result : Client × List Output) : Prop
  /-- A turn answers the action in hand. -/
  | answered (answer : Answer) (hturn : ∃ read now, event = .advance read now)
      (hhand : client.stage.action? = some answer.action) (hdone : result.1.stage.action? = none)
      (hlines : result.1.lines = client.lines)
      (houtputs : result.2 = answer.outputs client.config.team)
  /-- Everything that is pending stays so, and nothing is written. -/
  | kept (hhand : client.stage.action?.isSome → result.1.stage.action?.isSome)
      (hpending : result.1.pending = client.pending ++ askedActions (client.entered event))
      (hsilent : Output.wires result.2 = [])
      (hquiet : (∃ read now, event = .advance read now) → result.1.stage.action?.isSome →
        result.2 = [])

variable {client : Client}

/-- At every other event than a turn the action in hand stays in hand. -/
theorem posts_of_other {event : Event} (hsound : client.IsSound) (hrunning : client.stage ≠ .ended)
    (hother : ∀ read now, event ≠ .advance read now) : client.Posts event (client.step event) := by
  have htyping := typing_step hrunning hother
  have hlines : (client.step event).1.lines = client.lines ++ client.entered event :=
    congrArg (·.1) htyping
  have hchange := client.step_change event
  have hkept (hstage : (client.step event).1.stage.action? = client.stage.action?)
      (hsilent : Output.wires (client.step event).2 = []) :
      client.Posts event (client.step event) := by
    refine .kept (by rw [hstage]; exact id) ?_ hsilent ?_
    · rw [pending, pending, hstage, hlines, askedActions_append, List.append_assoc]
    · rintro ⟨read, now, hevent⟩
      exact absurd hevent (hother read now)
  generalize client.step event = result at hchange hkept
  cases hchange with
  | quiet hmoves => exact hkept (by rw [hmoves.stage]) hmoves.silent
  | stopped hrenders hmoves => exact hkept (by rw [hmoves.stage]) hmoves.silent
  | started hrenders hmoves => exact hkept (by rw [hmoves.stage]) hmoves.silent
  | listed _ hlisting hmoves =>
      have hwaiting : client.stage = .listing := by
        by_contra hstage
        rw [hsound.listings_eq_zero hrunning hstage] at hlisting
        cases hlisting
      exact hkept (by rw [hmoves.stage, hwaiting]; rfl) hmoves.silent
  | _ => exact absurd rfl (hother _ _)

/-- A line that is taken up puts its action in hand. -/
theorem posts_handleCommand {line : String} {rest : List String} (hready : client.stage = .ready)
    (hlines : client.lines = line :: rest) (read : FileReader) (now : Int)
    (hrunning : ({ client with lines := rest }.handleCommand (.ofLine line)).1.stage ≠ .ended) :
    client.Posts (.advance read now)
      ({ client with lines := rest }.handleCommand (.ofLine line)) := by
  have hpending : client.pending =
      ((UserCommand.ofLine line).action?).toList ++ askedActions rest := by
    rw [pending, hready, hlines, askedActions, List.filterMap_cons]
    cases (UserCommand.ofLine line).action? <;> rfl
  have hkept {result : Client × List Output} (hrest : result.1.lines = rest)
      (haction : result.1.stage.action? = (UserCommand.ofLine line).action?)
      (hsilent : Output.wires result.2 = [])
      (hquiet : result.1.stage.action?.isSome → result.2 = []) :
      client.Posts (.advance read now) result := by
    refine .kept (by rw [hready]; nofun) ?_ hsilent fun _ => hquiet
    rw [hpending, pending, hrest, haction]
    exact (List.append_nil _).symm
  have hprinted (text : String) (hnone : (UserCommand.ofLine line).action? = none) :
      client.Posts (.advance read now) ({ client with lines := rest }.printPrompted text) := by
    refine hkept rfl ?_ rfl ?_
    · rw [hnone, ← show Stage.action? .ready = none from rfl, ← hready]
      rfl
    · change client.stage.action?.isSome → _
      rw [hready]
      nofun
  cases hcommand : UserCommand.ofLine line with
  | quit =>
      rw [hcommand] at hrunning
      exact absurd rfl hrunning
  | files =>
      let asking : Client := { client with lines := rest, stage := .listing }
      have hrest : (asking.fetchListing .listing).1.lines = rest :=
        congrArg (·.1) (asking.typing_fetchListing .listing)
      have hnone : (asking.fetchListing .listing).1.stage.action? = none ∧
          Output.wires (asking.fetchListing .listing).2 = [] := by
        rcases asking.moves_fetchListing with hmoves | hmoves
        · exact ⟨by rw [hmoves.stage]; rfl, hmoves.silent⟩
        · exact ⟨by rw [hmoves.stage]; rfl, hmoves.silent⟩
      refine hkept hrest ?_ hnone.2 ?_
      · rw [hcommand]
        exact hnone.1
      · change (asking.fetchListing .listing).1.stage.action?.isSome → _
        rw [hnone.1]
        nofun
  | compile => exact hkept rfl (by rw [hcommand]; rfl) rfl fun _ => rfl
  | test names => exact hkept rfl (by rw [hcommand]; rfl) rfl fun _ => rfl
  | submit => exact hkept rfl (by rw [hcommand]; rfl) rfl fun _ => rfl
  | help => exact hprinted _ (by rw [hcommand]; rfl)
  | page => exact hprinted _ (by rw [hcommand]; rfl)
  | unknown text => exact hprinted _ (by rw [hcommand]; rfl)

/-- The request of an action is answered by the frame that carries it, or by an error. -/
theorem answer_sendRequest (client : Client) (now : Int) (action : Action) (request : Request) :
    ∃ answer : Answer, answer.action = action ∧
      (client.sendRequest now action request).2 = answer.outputs client.config.team := by
  have hcases := client.manager.send_cases .control action.destination (String.ofList request.text)
  unfold sendRequest
  generalize client.manager.send .control action.destination (String.ofList request.text) = sent
    at hcases ⊢
  obtain ⟨manager, sent⟩ := sent
  rcases hcases with hsent | ⟨error, hfailed⟩
  · cases hsent
    exact ⟨.confirmed action request now, rfl, rfl⟩
  · cases hfailed
    exact ⟨.failed action (DispatchError.send error).message, rfl, rfl⟩

/-- A turn with nothing to do leaves everything as it is. -/
theorem posts_of_idle (hnone : client.stage.action? = none) (read : FileReader) (now : Int) :
    client.Posts (.advance read now) (client, []) := by
  refine .kept id (List.append_nil _).symm rfl fun _ => ?_
  rw [hnone]
  nofun

/-- A turn may work on an action without answering it yet. -/
theorem posts_of_busy {action : Action} (hhand : client.stage.action? = some action)
    (read : FileReader) (now : Int) {result : Client × List Output}
    (hstill : result.1.stage.action? = some action) (hlines : result.1.lines = client.lines)
    (hnothing : result.2 = []) : client.Posts (.advance read now) result := by
  refine .kept (fun _ => by rw [hstill]; rfl) ?_ (by rw [hnothing]; rfl) fun _ _ => hnothing
  rw [pending, pending, hstill, hhand, hlines]
  exact (List.append_nil _).symm

/-- Before its request is built an action may be refused. -/
theorem posts_prepareAction (hsound : client.IsSound) {action : Action}
    (hstage : client.stage = .refreshing action []) (read : FileReader) (now : Int) :
    client.Posts (.advance read now) (client.prepareAction action) := by
  have hhand : client.stage.action? = some action := by
    rw [hstage]
    rfl
  have hcontrol := hsound.control (by simp [hstage])
  cases hcase : client.page.isDisabled action with
  | true =>
      rw [prepareAction_of_disabled hcontrol hcase]
      exact .answered (.failed action _) ⟨read, now, rfl⟩ hhand rfl rfl rfl
  | false =>
      rw [prepareAction_of_enabled hcontrol hcase]
      exact posts_of_busy hhand read now rfl rfl rfl

/-- A turn takes up a line, goes on with the action in hand or answers it. -/
theorem posts_advance (hsound : client.IsSound) (read : FileReader) (now : Int)
    (hafter : (client.advance read now).1.stage ≠ .ended) :
    client.Posts (.advance read now) (client.advance read now) := by
  have hidle (hnone : client.stage.action? = none)
      (hadvance : client.advance read now = (client, [])) :
      client.Posts (.advance read now) (client.advance read now) := by
    rw [hadvance]
    exact posts_of_idle hnone read now
  cases hstage : client.stage with
  | ready =>
      cases hlines : client.lines with
      | cons line rest =>
          have hadvance : client.advance read now =
              { client with lines := rest }.handleCommand (.ofLine line) := by
            simp only [advance, hstage, hlines]
          rw [hadvance] at hafter ⊢
          exact posts_handleCommand hstage hlines read now hafter
      | nil =>
          cases hinput : client.hasInput with
          | true =>
              apply hidle
              · rw [hstage]
                rfl
              · simp [advance, hstage, hlines, hinput]
          | false =>
              have hadvance : client.advance read now = client.shutDown := by
                simp [advance, hstage, hlines, hinput]
              rw [hadvance] at hafter
              exact absurd rfl hafter
  | listing => exact hidle (by rw [hstage]; rfl) (by rw [advance, hstage])
  | ended => exact hidle (by rw [hstage]; rfl) (by rw [advance, hstage])
  | refreshing action left =>
      cases left with
      | cons spec left =>
          rw [advance, hstage]
          exact posts_of_busy (by rw [hstage]; rfl) read now rfl rfl rfl
      | nil =>
          rw [advance, hstage]
          exact posts_prepareAction hsound hstage read now
  | sending action request =>
      obtain ⟨answer, rfl, houtputs⟩ := client.answer_sendRequest now action request
      rw [advance, hstage]
      exact .answered answer ⟨read, now, rfl⟩ (by rw [hstage]; rfl) rfl rfl houtputs

/-- What any step does to the actions that have been asked for. -/
theorem posts_step (hsound : client.IsSound) (event : Event)
    (hafter : (client.step event).1.stage ≠ .ended) : client.Posts event (client.step event) := by
  have hrunning := running_of_step hafter
  by_cases hturn : ∃ read now, event = .advance read now
  · obtain ⟨read, now, rfl⟩ := hturn
    have hstep : client.step (.advance read now) = client.advance read now := if_neg hrunning
    rw [hstep] at hafter ⊢
    exact posts_advance hsound read now hafter
  · apply posts_of_other hsound hrunning
    intro read now hevent
    exact hturn ⟨read, now, hevent⟩

/-! ## Runs -/

/-- The action in hand is answered at the moment. -/
def Moment.concludes (moment : Moment) : Bool :=
  moment.before.stage.action?.isSome && moment.after.stage.action?.isNone

/-- A moment concludes the action in hand if nothing is in hand afterwards. -/
theorem concludes_of_done {moment : Moment} {action : Action}
    (hhand : moment.before.stage.action? = some action)
    (hdone : moment.after.stage.action? = none) : moment.concludes = true := by
  simp [Moment.concludes, hhand, hdone]

theorem not_concludes_of_kept {moment : Moment}
    (hkept : moment.before.stage.action?.isSome → moment.after.stage.action?.isSome) :
    moment.concludes = false := by
  simpa [Moment.concludes, ← Option.isSome_iff_ne_none] using hkept

theorem posts_moments (hsound : client.IsSound) {events : List Event}
    (hrunning : (client.run events).1.stage ≠ .ended) :
    ∀ moment ∈ client.moments events,
      moment.before.Posts moment.event (moment.after, moment.outputs) := by
  induction events generalizing client with
  | nil =>
      intro moment hmoment
      exact absurd hmoment List.not_mem_nil
  | cons event rest ih =>
      rw [moments_cons]
      intro moment hmoment
      rcases List.mem_cons.1 hmoment with rfl | hlater
      · exact posts_step hsound event (running_of_run hrunning)
      · exact ih (hsound.step event) hrunning moment hlater

/-- How the lines that are typed during a run, the answers that are printed and the frames that are
written belong together. -/
structure Balances (client : Client) (asked : List Action) (events : List Event)
    (answers : List Answer) : Prop where
  /-- What is asked for is answered in order or still pending. -/
  inOrder : asked = answers.map Answer.action ++ (client.run events).1.pending
  /-- At the moments that conclude an action its answer is put out, and nothing else. -/
  answered : ((client.moments events).filter Moment.concludes).map Moment.outputs =
    answers.map (Answer.outputs client.config.team)
  /-- No frame is written but those of the answers. -/
  written : Output.wires (client.run events).2 = answers.flatMap Answer.wires

/-- An event that answers puts its answer before the later ones. -/
theorem Balances.of_answered {read : FileReader} {now : Int} {rest : List Event}
    {later : List Action} {answers : List Answer} {answer : Answer}
    (hlater : (client.step (.advance read now)).1.Balances
      ((client.step (.advance read now)).1.pending ++ later) rest answers)
    (hteam : (client.step (.advance read now)).1.config.team = client.config.team)
    (hhand : client.stage.action? = some answer.action)
    (hdone : (client.step (.advance read now)).1.stage.action? = none)
    (hlines : (client.step (.advance read now)).1.lines = client.lines)
    (houtputs : (client.step (.advance read now)).2 = answer.outputs client.config.team) :
    client.Balances (client.pending ++ later) (.advance read now :: rest) (answer :: answers) where
  inOrder := by
    have hpending : client.pending =
        answer.action :: (client.step (.advance read now)).1.pending := by
      rw [pending, pending, hhand, hdone, hlines]
      rfl
    rw [hpending, List.map_cons, List.cons_append, List.cons_append, hlater.inOrder]
    rfl
  answered := by
    have hconcludes : Moment.concludes ⟨client, .advance read now⟩ = true :=
      concludes_of_done hhand hdone
    rw [moments_cons, List.filter_cons_of_pos hconcludes, List.map_cons, List.map_cons,
      hlater.answered, hteam]
    exact congrArg (· :: _) houtputs
  written := by
    rw [run_cons, wires_append, hlater.written, houtputs, Answer.wires_outputs]
    rfl

/-- An event that does not answer leaves the answers to the later ones. -/
theorem Balances.of_kept {event : Event} {rest : List Event} {later : List Action}
    {answers : List Answer}
    (hlater : (client.step event).1.Balances ((client.step event).1.pending ++ later) rest answers)
    (hteam : (client.step event).1.config.team = client.config.team)
    (hhand : client.stage.action?.isSome → (client.step event).1.stage.action?.isSome)
    (hpending : (client.step event).1.pending =
      client.pending ++ askedActions (client.entered event))
    (hsilent : Output.wires (client.step event).2 = []) :
    client.Balances (client.pending ++ (askedActions (client.entered event) ++ later))
      (event :: rest) answers where
  inOrder := by
    rw [← List.append_assoc, ← hpending]
    exact hlater.inOrder
  answered := by
    have hopen : Moment.concludes ⟨client, event⟩ = false := not_concludes_of_kept hhand
    rw [moments_cons, List.filter_cons_of_neg (ne_true_of_eq_false hopen), ← hteam]
    exact hlater.answered
  written := by
    rw [run_cons, wires_append, hlater.written, hsilent]
    rfl

/-- A run is in balance, by induction on its events. -/
theorem exists_balances (hsound : client.IsSound) {events : List Event}
    (hrunning : (client.run events).1.stage ≠ .ended) :
    ∃ answers, client.Balances
      (client.pending ++ askedActions (if client.hasInput then typedLines events else [])) events
      answers := by
  induction events generalizing client with
  | nil =>
      refine ⟨[], ?_, rfl, rfl⟩
      simp [typedLines, askedActions]
  | cons event rest ih =>
      have hstep := running_of_run hrunning
      obtain ⟨answers, hlater⟩ := ih (hsound.step event) hrunning
      have hteam : (client.step event).1.config.team = client.config.team := by
        rw [config_step hstep]
      rw [← entered_append_typedLines (running_of_step hstep) event rest, askedActions_append]
      cases posts_step hsound event hstep with
      | answered answer hturn hhand hdone hlines houtputs =>
          obtain ⟨read, now, rfl⟩ := hturn
          exact ⟨answer :: answers, hlater.of_answered hteam hhand hdone hlines houtputs⟩
      | kept hhand hpending hsilent hquiet =>
          exact ⟨answers, hlater.of_kept hteam hhand hpending hsilent⟩

/-! ## The account -/

theorem ready_of_sending {action : Action} {request : Request}
    (hstage : client.stage = .sending action request) (read : FileReader) (now : Int) :
    (client.step (.advance read now)).1.stage = .ready := by
  have hrunning : client.stage ≠ .ended := by
    rw [hstage]
    nofun
  rw [step, if_neg hrunning, advance, hstage]
  rfl

/-- A turn for each file that is left and at most two more answer an action. -/
theorem exists_turns_of_refreshing (hsound : client.IsSound) {action : Action}
    {left : List FileSpec} (hstage : client.stage = .refreshing action left) (read : FileReader)
    (now : Int) :
    ∃ count, (client.run (turns (List.replicate count (read, now)))).1.stage = .ready := by
  have hrunning : client.stage ≠ .ended := by
    rw [hstage]
    nofun
  induction left generalizing client with
  | nil =>
      have hstep : client.step (.advance read now) = client.prepareAction action := by
        rw [step, if_neg hrunning, advance, hstage]
      have hcontrol := hsound.control hrunning
      cases hcase : client.page.isDisabled action with
      | true =>
          refine ⟨1, ?_⟩
          change (client.step (.advance read now)).1.stage = .ready
          rw [hstep, prepareAction_of_disabled hcontrol hcase]
      | false =>
          refine ⟨2, ?_⟩
          change ((client.step (.advance read now)).1.step (.advance read now)).1.stage = .ready
          rw [hstep, prepareAction_of_enabled hcontrol hcase]
          exact ready_of_sending rfl read now
  | cons spec left ih =>
      have hnext : (client.step (.advance read now)).1.stage = .refreshing action left := by
        rw [step, if_neg hrunning, advance, hstage]
      obtain ⟨count, hready⟩ := ih (hsound.step _) hnext (by rw [hnext]; nofun)
      exact ⟨count + 1, hready⟩

/-- An action in hand is answered when enough turns come. -/
theorem exists_turns_of_action (hsound : client.IsSound) {action : Action}
    (hhand : client.stage.action? = some action) (read : FileReader) (now : Int) :
    ∃ count, (client.run (turns (List.replicate count (read, now)))).1.stage = .ready := by
  cases hstage : client.stage with
  | refreshing other left => exact exists_turns_of_refreshing hsound hstage read now
  | sending other request => exact ⟨1, ready_of_sending hstage read now⟩
  | _ =>
      rw [hstage] at hhand
      cases hhand

/-- A client that starts has been asked for nothing yet. -/
theorem fresh_of_start {config : Config} {read : FileReader} {attempt : Channel → Attempt}
    {meanwhile : Task → List Incident} {outputs : List Output}
    (hstart : start config read attempt meanwhile = (.ok client, outputs)) :
    client.pending = [] ∧ client.hasInput = true := by
  have htyping := typing_of_start hstart
  have hlines : client.lines = [] := congrArg (·.1) htyping
  refine ⟨?_, congrArg (·.2) htyping⟩
  rw [pending, hlines]
  obtain ⟨page, _, _, rfl⟩ := exists_opened_of_start hstart
  rcases (opened config page (firstOpening config attempt meanwhile)).moves_fetchListing with
    hmoves | hmoves
  · rw [hmoves.stage]
    rfl
  · rw [hmoves.stage]
    rfl

/-- The account of a run: which answers there were, and that they are all. -/
structure Accounts (client : Client) (events : List Event) (answers : List Answer) : Prop
    extends client.Balances (askedActions (typedLines events)) events answers where
  /-- An answer with a frame confirms it. -/
  confirmed : ∀ answer ∈ answers, ∀ frame, answer.frame? = some frame →
    Answer.Confirms answer.action answer.notice frame
  /-- An answer without a frame is an error. -/
  failed : ∀ answer ∈ answers, answer.frame? = none →
    ∃ message, answer.notice = Display.error message
  /-- Only a turn answers, no message and no download does. -/
  turned : ∀ moment ∈ client.moments events, moment.concludes = true →
    ∃ read now, moment.event = .advance read now
  /-- At all other moments nothing is written, and a turn that leaves an action in hand does not
  even print anything. -/
  silent : ∀ moment ∈ client.moments events, moment.concludes = false →
    Output.wires moment.outputs = [] ∧
      ((∃ read now, moment.event = .advance read now) → moment.after.stage.action?.isSome →
        moment.outputs = [])
  /-- What is in hand at the end is answered when its turns come. -/
  answerable : ∀ action read now, (client.run events).1.stage.action? = some action →
    ∃ count, ((client.run events).1.run (turns (List.replicate count (read, now)))).1.stage = .ready

/-- From its start until it ends a client keeps account of what it was asked for: every frame is the
answer to a line, and every line gets one answer. -/
theorem accounts_of_start {config : Config} {read : FileReader} {attempt : Channel → Attempt}
    {meanwhile : Task → List Incident} {outputs : List Output}
    (hstart : start config read attempt meanwhile = (.ok client, outputs))
    {events : List Event} (hrunning : (client.run events).1.stage ≠ .ended) :
    ∃ answers, client.Accounts events answers := by
  have hreachable := Reachable.start hstart
  have hsound := hreachable.isSound
  obtain ⟨hpending, hinput⟩ := fresh_of_start hstart
  obtain ⟨answers, hbalances⟩ := exists_balances hsound hrunning
  rw [hpending, hinput] at hbalances
  have hposts := posts_moments hsound hrunning
  refine ⟨answers, hbalances, fun _ _ _ => Answer.confirms_of_frame,
    fun _ _ => Answer.exists_error_of_none, ?_, ?_, ?_⟩
  · intro moment hmoment hconcludes
    cases hposts moment hmoment with
    | answered answer hturn hhand hdone hlines houtputs => exact hturn
    | kept hhand hpending hsilent hquiet =>
        rw [not_concludes_of_kept hhand] at hconcludes
        cases hconcludes
  · intro moment hmoment hopen
    cases hposts moment hmoment with
    | answered answer hturn hhand hdone hlines houtputs =>
        rw [concludes_of_done hhand hdone] at hopen
        cases hopen
    | kept hhand hpending hsilent hquiet => exact ⟨hsilent, hquiet⟩
  · intro action other now hhand
    exact exists_turns_of_action (hreachable.run events).isSound hhand other now

/-- A compilation is sent, a submission fails since the connection has been lost, and a test is
refused since the submission has locked the page. -/
theorem accounts_of_start_lost :
    let config : Config :=
      { Session.localConfig with files := [{ path := "A.java", kind := .edit }] }
    let read : FileReader := fun _ => .ok "class A {}"
    let next : Event := .advance read 0
    let events : List Event := [.answer 0 (.failed "refused"), .line "compile", next, next, next,
      next, .line "submit", .line " test t1", .lose .control "reset", next, next, next, next, next,
      next, next]
    ∃ client outputs answers,
      start config read (fun _ => Manager.grantedAttempt) = (.ok client, outputs) ∧
        (client.run events).1.stage ≠ .ended ∧ client.Accounts events answers ∧
        answers.map Answer.action = [.compile, .submit, .test] ∧
        (Output.wires (client.run events).2).length = 1 := by
  intro config read next events
  obtain ⟨client, hclient⟩ : ∃ client,
      (start config read fun _ => Manager.grantedAttempt).1 = .ok client :=
    exists_of_isOk (by decide +kernel)
  have hrun : ((start config read fun _ => Manager.grantedAttempt).1.toOption.map fun client =>
      ((client.run events).1.stage, (client.run events).1.pending,
        (Output.wires (client.run events).2).length)) = some (.ready, [], 1) := by
    decide +kernel
  rw [hclient] at hrun
  simp only [Except.toOption, Option.map_some, Option.some.injEq, Prod.mk.injEq] at hrun
  obtain ⟨hstage, hpending, hcount⟩ := hrun
  have hstart : start config read (fun _ => Manager.grantedAttempt) = (.ok client, _) :=
    Prod.ext hclient rfl
  have hrunning : (client.run events).1.stage ≠ .ended := by
    rw [hstage]
    nofun
  obtain ⟨answers, haccounts⟩ := accounts_of_start hstart hrunning
  refine ⟨client, _, answers, hstart, hrunning, haccounts, ?_, hcount⟩
  have hasked := haccounts.inOrder
  rw [hpending, List.append_nil] at hasked
  rw [← hasked]
  decide

end Client

end ClassroomClient
