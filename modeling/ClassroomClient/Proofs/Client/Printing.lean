/-
# What a step prints

A step prints texts of a few kinds and, when something has come to its end, the prompt. Every text
but the prompt ends its line, and the kinds differ in how they begin, so that a text that is seen
tells what it is. `Says` lists the kinds. `pursued_step` says what a step puts out: what announces a
notification with a prompt of its own, and then what the step goes on with, which a prompt closes
exactly when nothing is left of it.
-/

import ClassroomClient.Proofs.Client.Lock
import ClassroomClient.Proofs.Client.Requests
import ClassroomClient.Proofs.Client.View

namespace ClassroomClient

open Exchange

namespace Display

/-! ## How texts begin and end -/

/-- How a text begins. The kinds of texts differ there. -/
def lead (text : String) : List Char := text.toList.take 4

theorem lead_append {head : String} (hlong : 4 ≤ head.toList.length) (rest : String) :
    lead (head ++ rest) = lead head := by
  rw [lead, lead, String.toList_append, List.take_append_of_le_length hlong]

/-- A text that ends its line is not a prompt. -/
theorem append_newline_ne_prompt (line team : String) : line ++ "\n" ≠ team ++ "> " := by
  intro hsame
  have hlast := congrArg (·.toList.getLast?) hsame
  simp at hlast

/-- The text begins as given and ends its line. -/
def IsLine (head text : String) : Prop := ∃ rest, text = head ++ (rest ++ "\n")

theorem IsLine.lead_eq {head text : String} (hline : IsLine head text)
    (hlong : 4 ≤ head.toList.length) : lead text = lead head := by
  obtain ⟨rest, rfl⟩ := hline
  exact lead_append hlong _

theorem IsLine.ne_prompt {head text : String} (hline : IsLine head text) (team : String) :
    text ≠ team ++ "> " := by
  obtain ⟨rest, rfl⟩ := hline
  rw [← String.append_assoc]
  exact append_newline_ne_prompt _ team

theorem isLine_region (name : String) (color : TabColor) (text : String) :
    IsLine ("\n" ++ thinRule) (region name color text) := by
  obtain ⟨shown, hregion⟩ : ∃ shown, region name color text =
      "\n" ++ thinRule ++ "\n[" ++ mark color ++ "] " ++ name ++ "\n" ++ shown ++ "\n" ++
        thinRule ++ "\n" := ⟨_, rfl⟩
  refine ⟨"\n[" ++ mark color ++ "] " ++ name ++ "\n" ++ shown ++ "\n" ++ thinRule, ?_⟩
  rw [hregion]
  simp only [String.append_assoc]

theorem isLine_page (shown : Page) : IsLine ("\n" ++ rule) (page shown) := by
  obtain ⟨editors, controls, regions, update, hpage⟩ : ∃ editors controls regions update,
      page shown = "\n" ++ rule ++ "\nEditors:\n" ++ editors ++ controls ++ regions ++ update ++
        rule ++ "\n" := ⟨_, _, _, _, rfl⟩
  refine ⟨"\nEditors:\n" ++ editors ++ controls ++ regions ++ update ++ rule, ?_⟩
  rw [hpage]
  simp only [String.append_assoc]

theorem isLine_sent (action : Action) (request : Request) (now : Int) :
    IsLine (action.name ++ " sent with ") (sent action request now) := by
  obtain ⟨count, tests, hsent⟩ : ∃ count tests, sent action request now =
      action.name ++ " sent with " ++ count ++ " file(s)" ++ tests ++ " at " ++
        Calendar.timestamp now ++ "\n" := ⟨_, _, rfl⟩
  refine ⟨count ++ " file(s)" ++ tests ++ " at " ++ Calendar.timestamp now, ?_⟩
  rw [hsent]
  simp only [String.append_assoc]

theorem isLine_reloaded (count : Nat) : IsLine "\n* New" (reloaded count) := by
  obtain ⟨number, hreloaded⟩ : ∃ number, reloaded count =
      "\n* New" ++ " round started, page reloaded (" ++ number ++ ")\n" := ⟨_, rfl⟩
  refine ⟨" round started, page reloaded (" ++ number ++ ")", ?_⟩
  rw [hreloaded]
  simp only [String.append_assoc]
  rfl

theorem isLine_locked : IsLine "\n* Submissions" locked :=
  ⟨" are closed: editors and controls are locked", rfl⟩

/-- An error begins with the head of its message. -/
theorem isLine_error (head rest : String) : IsLine ("\n! " ++ head) (error (head ++ rest)) := by
  refine ⟨rest, ?_⟩
  have herror : error (head ++ rest) = "\n! " ++ (head ++ rest) ++ "\n" := rfl
  rw [herror]
  simp only [String.append_assoc]

/-- The list of commands is a text of several lines. -/
theorem isLine_helpText : IsLine "Commands:\n" helpText := by
  obtain ⟨compile, test, submit, files, page, hhelp⟩ : ∃ compile test submit files page,
      helpText = "Commands:\n" ++ compile ++ test ++ submit ++ files ++ page ++
        ("  quit                 disconnect and exit" ++ "\n") := ⟨_, _, _, _, _, rfl⟩
  refine ⟨compile ++ test ++ submit ++ files ++ page ++
    "  quit                 disconnect and exit", ?_⟩
  rw [hhelp]
  simp only [String.append_assoc]

end Display

/-- What a failed action says begins with one of three heads. -/
theorem DispatchError.exists_message_eq (error : DispatchError) :
    ∃ head ∈ ["'", "Session on", "Failed to send"], ∃ rest, error.message = head ++ rest := by
  match error with
  | .controlDisabled action =>
      refine ⟨"'", by decide, action.name ++ "' is disabled until the page is reloaded", ?_⟩
      exact String.append_assoc
  | .send (.notConnected channel) =>
      refine ⟨"Session on", by decide, " '" ++ channel.name ++ "' channel is not connected", ?_⟩
      have hmessage : (DispatchError.send (.notConnected channel)).message =
        "Session on" ++ " '" ++ channel.name ++ "' channel is not connected" := rfl
      rw [hmessage]
      simp only [String.append_assoc]
  | .send (.transport channel reason) =>
      refine ⟨"Failed to send", by decide, " on '" ++ channel.name ++ "' channel: " ++ reason, ?_⟩
      have hmessage : (DispatchError.send (.transport channel reason)).message =
        "Failed to send" ++ " on '" ++ channel.name ++ "' channel: " ++ reason := rfl
      rw [hmessage]
      simp only [String.append_assoc]

namespace Client

/-! ## What is said -/

/-- What can be put out at an event beside the prompt. -/
inductive Says (event : Event) : Output → Prop
  | wire (channel : Channel) (written : WireEvent) : Says event (.wire channel written)
  | fetch (number : Nat) (url : Url) : Says event (.fetch number url)
  | region (name : String) (color : TabColor) (text : String) :
      Says event (.print (Display.region name color text))
  | page (page : Page) : Says event (.print (Display.page page))
  | help : Says event (.print helpText)
  | sent (action : Action) (request : Request) (now : Int) :
      Says event (.print (Display.sent action request now))
  | reloaded (count : Nat) : Says event (.print (Display.reloaded count))
  | locked : Says event (.print Display.locked)
  | unknown (text : String) :
      Says event (.print (Display.error s!"Unknown command '{text}', try 'help'"))
  | failed (error : DispatchError) : Says event (.print (Display.error error.message))
  /-- Only looking for a loss finds one. -/
  | lost {channel : Channel} (hlook : event = .look channel) :
      Says event (.print (lossNotice channel))

/-- The heads of what can be printed at every event. -/
def heads : List String :=
  ["\n" ++ Display.thinRule, "\n" ++ Display.rule, "Commands:\n", "\n* New", "\n* Submissions",
    "\n! Unknown command '", "\n! '", "\n! Session on", "\n! Failed to send"] ++
    Action.all.map (·.name ++ " sent with ")

/-- A text that is said has one of the heads, or it tells of a loss that was looked for. -/
theorem Says.exists_isLine {event : Event} {text : String} (hsaid : Says event (.print text)) :
    ∃ head, Display.IsLine head text ∧
      (head ∈ heads ∨ ∃ channel, event = .look channel ∧ text = lossNotice channel) := by
  cases hsaid with
  | region name color text => exact ⟨_, Display.isLine_region name color text, .inl (by decide)⟩
  | page page => exact ⟨_, Display.isLine_page page, .inl (by decide)⟩
  | help => exact ⟨_, Display.isLine_helpText, .inl (by decide)⟩
  | sent action request now =>
      refine ⟨_, Display.isLine_sent action request now, .inl ?_⟩
      cases action <;> decide
  | reloaded count => exact ⟨_, Display.isLine_reloaded count, .inl (by decide)⟩
  | locked => exact ⟨_, Display.isLine_locked, .inl (by decide)⟩
  | unknown text =>
      have hmessage : s!"Unknown command '{text}', try 'help'" =
        "Unknown command '" ++ (text ++ "', try 'help'") := String.append_assoc
      rw [hmessage]
      exact ⟨_, Display.isLine_error _ _, .inl (by decide)⟩
  | failed error =>
      have hheads : ∀ head ∈ ["'", "Session on", "Failed to send"], "\n! " ++ head ∈ heads := by
        decide
      obtain ⟨head, hhead, rest, hmessage⟩ := error.exists_message_eq
      rw [hmessage]
      exact ⟨_, Display.isLine_error head rest, .inl (hheads head hhead)⟩
  | @lost channel hlook =>
      have hmessage : lossNotice channel = Display.error ("Lost the '" ++
        (channel.name ++ "' channel, restart the client to reconnect")) :=
          congrArg Display.error String.append_assoc
      refine ⟨"\n! " ++ "Lost the '", ?_, .inr ⟨channel, hlook, rfl⟩⟩
      rw [hmessage]
      exact Display.isLine_error _ _

/-- The prompt is nothing that is said. -/
theorem Says.ne_prompt {event : Event} {output : Output} (hsaid : Says event output)
    (team : String) : output ≠ .print (team ++ "> ") := by
  rintro rfl
  obtain ⟨head, hline, _⟩ := hsaid.exists_isLine
  exact hline.ne_prompt team rfl

/-- A text that begins unlike all others is not said, unless it tells of a loss. -/
theorem Says.exists_look {event : Event} {text : String} (hsaid : Says event (.print text))
    (hunlike : ∀ head ∈ heads, Display.lead head ≠ Display.lead text) :
    ∃ channel, event = .look channel ∧ text = lossNotice channel := by
  obtain ⟨head, hline, hknown | hlost⟩ := hsaid.exists_isLine
  · have hlong : ∀ head ∈ heads, 4 ≤ head.toList.length := by decide
    exact absurd (hline.lead_eq (hlong head hknown)).symm (hunlike head hknown)
  · exact hlost

/-- The loss of a channel is told when it is looked for. -/
theorem Says.event_eq {event : Event} {channel : Channel}
    (hsaid : Says event (.print (lossNotice channel))) : event = .look channel := by
  obtain ⟨other, rfl, hsame⟩ := hsaid.exists_look (by cases channel <;> decide)
  have hinjective : ∀ channel other : Channel, lossNotice channel = lossNotice other →
      channel = other := by
    intro channel other
    cases channel <;> cases other <;> decide
  rw [hinjective channel other hsame]

/-- That there is no control channel is nothing that is said. -/
theorem Says.ne_unserved {event : Event} {output : Output} (hsaid : Says event output) :
    output ≠ .print (Display.error "Control channel is not open") := by
  rintro rfl
  obtain ⟨channel, -, hsame⟩ := hsaid.exists_look (by decide)
  revert hsame
  cases channel <;> decide

/-! ## What is closed by the prompt -/

/-- The outputs are said at an event. The prompt closes them if they are the last of what they
belong to. -/
def Speaks (team : String) (event : Event) (last : Bool) (outputs : List Output) : Prop :=
  ∃ said, (∀ output ∈ said, Says event output) ∧
    outputs = said ++ if last then [.print (team ++ "> ")] else []

section

variable {team : String} {event : Event} {last : Bool} {first second : List Output}

theorem speaks_said (hsaid : ∀ output ∈ first, Says event output) :
    Speaks team event false first :=
  ⟨first, hsaid, (List.append_nil _).symm⟩

theorem speaks_nil : Speaks team event false [] := speaks_said nofun

theorem speaks_prompt : Speaks team event true [.print (team ++ "> ")] := ⟨[], nofun, rfl⟩

/-- What is said before belongs to the same. -/
theorem Speaks.after (hsecond : Speaks team event last second)
    (hfirst : Speaks team event false first) : Speaks team event last (first ++ second) := by
  obtain ⟨before, hbefore, rfl⟩ := hfirst
  obtain ⟨said, hsaid, rfl⟩ := hsecond
  refine ⟨before ++ said, List.forall_mem_append.2 ⟨hbefore, hsaid⟩, ?_⟩
  simp

theorem speaks_prompted {text : String} (hsaid : Says event (.print text)) :
    Speaks team event true [.print text, .print (team ++ "> ")] := by
  have htext : Speaks team event false [.print text] :=
    speaks_said (List.forall_mem_singleton.2 hsaid)
  exact speaks_prompt.after htext

theorem speaks_wireOutputs (log : WireLog) : Speaks team event false (wireOutputs log) := by
  apply speaks_said
  intro output hmem
  obtain ⟨written, -, rfl⟩ := List.mem_map.1 hmem
  exact .wire _ _

end

/-! ## Downloads and messages -/

variable {client : Client} {event : Event}

theorem speaks_printPrompted (client : Client) {text : String} (hsaid : Says event (.print text)) :
    Speaks client.config.team event true (client.printPrompted text).2 :=
  speaks_prompted hsaid

theorem speaks_printRegion (team : String) (page : Page) (name : String) :
    Speaks team event false (printRegion page name) := by
  unfold printRegion
  split
  · exact speaks_said (List.forall_mem_singleton.2 (.region _ _ _))
  · exact speaks_nil

/-- The work of a follow-up ends at once when there is nothing to fetch. -/
theorem speaks_fetchRankings (client : Client) :
    Speaks client.config.team event client.config.rankings.isEmpty client.fetchRankings.2 := by
  unfold fetchRankings
  cases hpath : client.config.rankingsPath with
  | none =>
      rw [Config.rankings, hpath]
      exact speaks_prompt
  | some path =>
      dsimp only
      cases hurl : (rankingsDownload path).url client.config.baseUrl with
      | error error =>
          rw [rankings_of_error hpath hurl]
          exact speaks_prompt
      | ok url =>
          rw [(rankings_of_url hpath hurl).1]
          exact speaks_said (List.forall_mem_singleton.2 (.fetch _ _))

theorem speaks_fetchListing (client : Client) (purpose : Purpose) :
    Speaks client.config.team event false (client.fetchListing purpose).2 := by
  unfold fetchListing
  rw [client.config.url_files]
  exact speaks_said (List.forall_mem_singleton.2 (.fetch _ _))

theorem speaks_showListing (client : Client) (result : Except HttpError (Option String)) :
    Speaks client.config.team event false (client.showListing result).2 := by
  unfold showListing
  split
  · exact speaks_printRegion _ _ _
  · exact speaks_nil

theorem speaks_showRankings (client : Client) (result : Except HttpError (Option String)) :
    Speaks client.config.team event false (client.showRankings result).2 := by
  unfold showRankings
  split
  · exact speaks_printRegion _ _ _
  · exact speaks_nil

/-- An answer ends what it is for, unless it makes the client ask for more. -/
theorem speaks_takeAnswer {number : Nat} {purpose : Purpose}
    (hfound : client.downloads.lookup number = some purpose) (answer : HttpAnswer) :
    Speaks client.config.team event (purpose.followers client.config).isEmpty
      (client.takeAnswer number answer).2 := by
  have hlisting := (client.answered number).asks_showListing (Download.files.read answer)
  unfold takeAnswer
  rw [hfound]
  cases purpose with
  | listing =>
      apply Speaks.after _ (speaks_showListing (client.answered number) _)
      change Speaks _ event true [.print (_ ++ "> ")]
      rw [← hlisting.config]
      exact speaks_prompt
  | reloadedListing =>
      apply Speaks.after _ (speaks_showListing (client.answered number) _)
      have hfollowed := @speaks_fetchRankings event
        ((client.answered number).showListing (Download.files.read answer)).1
      rw [hlisting.config] at hfollowed
      exact hfollowed
  | rankings =>
      have hrankings := (client.answered number).asks_showRankings
        ((rankingsDownload (client.config.rankingsPath.getD "")).read answer)
      apply Speaks.after _ (speaks_showRankings (client.answered number) _)
      change Speaks _ event true [.print (_ ++ "> ")]
      rw [← hrankings.config]
      exact speaks_prompt

theorem speaks_announce (team : String) (page : Page) (notification : Notification) :
    Speaks team event false (announce page notification) := by
  unfold announce
  split
  · exact speaks_said (List.forall_mem_singleton.2 (.reloaded _))
  · exact speaks_said (List.forall_mem_singleton.2 .locked)
  · split
    · exact speaks_printRegion _ _ _
    · exact speaks_nil

end Client

/-- Whether work follows a notification. -/
def Exchange.Notification.isFollowed : Notification → Bool
  | .roundStart | .rankingsChange => true
  | _ => false

namespace Client

variable {client : Client} {event : Event}

/-- A notification is announced with a prompt, and the work that follows it begins. -/
theorem exists_pursued_renderNotification (client : Client) (now : Int)
    (notification : Notification) :
    ∃ pursued, (client.renderNotification now notification).2 =
        announce (client.renderNotification now notification).1.page notification ++
          [client.prompt] ++ pursued ∧
      Speaks client.config.team event
        (notification.isFollowed && (notification.downloads client.config).isEmpty) pursued := by
  have hpage : (client.renderNotification now notification).1.page =
      (client.page.render now notification).1 :=
    congrArg (·.1) (client.core_renderNotification now notification)
  have hprompt : (client.renderNotification now notification).1.prompt = client.prompt := by
    rw [prompt, (client.moves_renderNotification now notification).config, prompt]
  refine ⟨(followUp { client with page := (client.page.render now notification).1 }
    (client.page.render now notification).2).2, ?_, ?_⟩
  · rw [hpage, List.append_assoc, ← hprompt]
    rfl
  · cases notification with
    | roundStart => exact speaks_fetchListing _ .reloadedListing
    | rankingsChange => exact speaks_fetchRankings _
    | _ => exact speaks_nil

/-! ## Lines -/

/-- A line that leaves the client ready has been handled. -/
theorem speaks_handleCommand (hready : client.stage = .ready) (command : UserCommand) :
    Speaks client.config.team event ((client.handleCommand command).1.stage == .ready)
      (client.handleCommand command).2 := by
  have hprompted {text : String} (hsaid : Says event (.print text)) :
      Speaks client.config.team event ((client.printPrompted text).1.stage == .ready)
        (client.printPrompted text).2 := by
    change Speaks _ event (client.stage == .ready) _
    rw [hready]
    exact client.speaks_printPrompted hsaid
  cases command with
  | quit => exact speaks_wireOutputs _
  | help => exact hprompted .help
  | page => exact hprompted (.page _)
  | unknown text => exact hprompted (.unknown text)
  | files =>
      have hstage : (client.handleCommand .files).1.stage = .listing := by
        simp only [handleCommand, fetchListing, client.config.url_files]
      rw [hstage]
      exact speaks_fetchListing { client with stage := .listing } .listing
  | compile => exact speaks_nil
  | test names => exact speaks_nil
  | submit => exact speaks_nil

/-- An action that has not come to its request is answered. -/
theorem speaks_prepareAction (hcontrol : client.hasControl = true) (action : Action) :
    Speaks client.config.team event ((client.prepareAction action).1.stage == .ready)
      (client.prepareAction action).2 := by
  cases hdisabled : client.page.isDisabled action with
  | false =>
      rw [prepareAction_of_enabled hcontrol hdisabled]
      exact speaks_nil
  | true =>
      rw [prepareAction_of_disabled hcontrol hdisabled]
      exact speaks_prompted (.failed _)

theorem speaks_sendRequest (client : Client) (now : Int) (action : Action) (request : Request) :
    Speaks client.config.team event true (client.sendRequest now action request).2 := by
  unfold sendRequest
  apply Speaks.after _ (speaks_wireOutputs _)
  apply speaks_prompted
  split
  · exact .sent action request now
  · exact .failed (.send _)

/-! ## Moments -/

/-- What announces the notification that is rendered at a moment. -/
def Moment.spoken (moment : Moment) : List Output :=
  moment.notification?.elim [] fun notification =>
    announce moment.after.page notification ++ [moment.before.prompt]

/-- Whether something comes to its end at a moment, beside the announcement of a notification: the
handling of a line, the start, or what follows a notification. -/
def Moment.isLast (moment : Moment) : Bool :=
  match moment.event with
  | .advance _ _ =>
    moment.after.stage == .ready && (moment.before.stage != .ready || moment.taken?.isSome)
  | .render _ => moment.notification?.any (·.isFollowed) && moment.asked.isEmpty
  | .answer _ _ => moment.answered?.isSome && moment.asked.isEmpty
  | _ => false

/-- Nothing is announced at a moment without a notification. -/
theorem spoken_of_notification? (hnone : Moment.notification? ⟨client, event⟩ = none) :
    Moment.spoken ⟨client, event⟩ = [] := by
  rw [Moment.spoken, hnone]
  rfl

/-- A notification that is announced is closed with a prompt. -/
theorem speaks_spoken (moment : Moment) :
    Speaks moment.before.config.team moment.event moment.notification?.isSome moment.spoken := by
  unfold Moment.spoken
  cases moment.notification? with
  | none => exact speaks_nil
  | some notification => exact speaks_prompt.after (speaks_announce _ _ notification)

theorem speaks_advance (hsound : client.IsSound) (hrunning : client.stage ≠ .ended)
    (read : FileReader) (now : Int) :
    Speaks client.config.team event (Moment.isLast ⟨client, .advance read now⟩)
      (client.advance read now).2 := by
  have hlast : Moment.isLast ⟨client, .advance read now⟩ =
      ((client.advance read now).1.stage == .ready &&
        (client.stage != .ready || (Moment.taken? ⟨client, .advance read now⟩).isSome)) := by
    rw [Moment.isLast, Moment.after, step, if_neg hrunning]
  have hbusy (hother : client.stage ≠ .ready) :
      Moment.isLast ⟨client, .advance read now⟩ =
        ((client.advance read now).1.stage == .ready) := by
    rw [hlast, bne_iff_ne.2 hother, Bool.true_or, Bool.and_true]
  by_cases hready : client.stage = .ready
  · have htaken : Moment.taken? ⟨client, .advance read now⟩ = client.lines.head? := if_pos hready
    cases hlines : client.lines with
    | cons line rest =>
        have hturn : client.advance read now =
            { client with lines := rest }.handleCommand (.ofLine line) := by
          simp only [advance, hready, hlines]
        rw [hlast, htaken, hlines, List.head?_cons, Option.isSome_some, Bool.or_true,
          Bool.and_true, hturn]
        exact @speaks_handleCommand { client with lines := rest } event hready _
    | nil =>
        rw [hlast, htaken, hlines, hready]
        cases hinput : client.hasInput with
        | true =>
            have hturn : client.advance read now = (client, []) := by
              simp [advance, hready, hlines, hinput]
            rw [hturn, hready]
            exact speaks_nil
        | false =>
            have hturn : client.advance read now = client.shutDown := by
              simp [advance, hready, hlines, hinput]
            have hended : client.shutDown.1.stage = .ended := rfl
            rw [hturn, hended]
            exact speaks_wireOutputs _
  · rw [hbusy hready]
    unfold advance
    split
    · next hstage => exact absurd hstage hready
    · next hstage =>
      rw [hstage]
      exact speaks_nil
    · next hstage => exact absurd hstage hrunning
    · exact speaks_nil
    · exact speaks_prepareAction (hsound.control hrunning) _
    · exact client.speaks_sendRequest now _ _

theorem speaks_answer (hrunning : client.stage ≠ .ended) (number : Nat) (answer : HttpAnswer) :
    Speaks client.config.team event (Moment.isLast ⟨client, .answer number answer⟩)
      (client.takeAnswer number answer).2 := by
  have hnone : Moment.notification? ⟨client, .answer number answer⟩ = none :=
    notification?_eq_none nofun
  cases hfound : client.downloads.lookup number with
  | none =>
      have hunknown : client.takeAnswer number answer = (client, []) := by
        rw [takeAnswer, hfound]
      rw [hunknown]
      simpa [Moment.isLast, Moment.answered?, hrunning, hfound] using speaks_nil
  | some purpose =>
      have hspeaks := @speaks_takeAnswer client event _ _ hfound answer
      simpa [Moment.isLast, Moment.answered?, Moment.asked, Moment.taken?, hnone, hrunning,
        hfound] using hspeaks

/-- What a message puts out when it is rendered. -/
theorem exists_pursued_render (hrunning : client.stage ≠ .ended) (now : Int) :
    ∃ pursued, (client.step (.render now)).2 =
        Moment.spoken ⟨client, .render now⟩ ++ pursued ∧
      Speaks client.config.team event (Moment.isLast ⟨client, .render now⟩) pursued := by
  have hrendered : Moment.notification? ⟨client, .render now⟩ =
      (client.rendered? now).bind Page.Happening.notification? :=
    congrArg (Option.bind · _) (if_neg hrunning)
  have hstep : client.step (.render now) = client.renderNext now := by
    rw [step, if_neg hrunning]
  have hsilent (hnone : Moment.notification? ⟨client, .render now⟩ = none)
      (hquiet : (client.renderNext now).2 = []) :
      ∃ pursued, (client.step (.render now)).2 =
          Moment.spoken ⟨client, .render now⟩ ++ pursued ∧
        Speaks client.config.team event (Moment.isLast ⟨client, .render now⟩) pursued := by
    refine ⟨[], ?_, ?_⟩
    · rw [spoken_of_notification? hnone, hstep, hquiet]
      rfl
    · rw [Moment.isLast, hnone]
      exact speaks_nil
  cases hqueue : client.queue with
  | nil =>
      apply hsilent
      · rw [hrendered, rendered?, hqueue]
        rfl
      · rw [renderNext, hqueue]
  | cons message rest =>
      cases hdecode : Notification.decode message.topic message.body with
      | error error =>
          apply hsilent
          · rw [hrendered, rendered?, hqueue, List.head?_cons, Option.bind_some, hdecode]
            rfl
          · simp only [renderNext, hqueue, hdecode]
      | ok notification =>
          have hnotification : Moment.notification? ⟨client, .render now⟩ = some notification := by
            rw [hrendered, rendered?, hqueue, List.head?_cons, Option.bind_some, hdecode]
            rfl
          have hnext : client.renderNext now =
              { client with queue := rest }.renderNotification now notification := by
            simp only [renderNext, hqueue, hdecode]
          obtain ⟨pursued, houtputs, hspeaks⟩ := @exists_pursued_renderNotification event
            { client with queue := rest } now notification
          refine ⟨pursued, ?_, ?_⟩
          · rw [Moment.spoken, hnotification, Moment.after, hstep, hnext]
            exact houtputs
          · simpa [Moment.isLast, Moment.asked, Moment.taken?, Moment.answered?, hnotification]
              using hspeaks

theorem notification?_of_ended (hended : client.stage = .ended) (event : Event) :
    Moment.notification? ⟨client, event⟩ = none :=
  congrArg (Option.bind · _) (if_pos hended)

/-- Nothing comes to its end when the client has ended. -/
theorem isLast_of_ended (hended : client.stage = .ended) (event : Event) :
    Moment.isLast ⟨client, event⟩ = false := by
  unfold Moment.isLast
  split
  · simp [Moment.after, step_of_ended hended, hended]
  · rw [notification?_of_ended hended]
    rfl
  · rw [(asked_of_ended hended _).2]
    rfl
  · rfl

/-- What a step puts out: what announces a notification, and what the step goes on with. -/
theorem exists_pursued (hsound : client.IsSound) (event : Event) :
    ∃ pursued, (client.step event).2 = Moment.spoken ⟨client, event⟩ ++ pursued ∧
      Speaks client.config.team event (Moment.isLast ⟨client, event⟩) pursued := by
  by_cases hended : client.stage = .ended
  · refine ⟨[], ?_, ?_⟩
    · rw [spoken_of_notification? (notification?_of_ended hended event), step_of_ended hended]
      rfl
    · rw [isLast_of_ended hended]
      exact speaks_nil
  · have hsilent (hother : ∀ now, event ≠ .render now)
        (hspeaks : Speaks client.config.team event (Moment.isLast ⟨client, event⟩)
          (client.step event).2) :
        ∃ pursued, (client.step event).2 = Moment.spoken ⟨client, event⟩ ++ pursued ∧
          Speaks client.config.team event (Moment.isLast ⟨client, event⟩) pursued := by
      rw [spoken_of_notification? (notification?_eq_none hother)]
      exact ⟨_, rfl, hspeaks⟩
    cases event with
    | advance read now =>
        apply hsilent (by simp)
        rw [step, if_neg hended]
        exact speaks_advance hsound hended read now
    | render now => exact exists_pursued_render hended now
    | answer number answer =>
        apply hsilent (by simp)
        rw [step, if_neg hended]
        exact speaks_answer hended number answer
    | look channel =>
        apply hsilent (by simp)
        rw [step, if_neg hended, look]
        split
        · exact speaks_said (List.forall_mem_singleton.2 (.lost rfl))
        · exact speaks_nil
    | line text =>
        apply hsilent (by simp)
        rw [step, if_neg hended, takeLine]
        split <;> exact speaks_nil
    | _ =>
        apply hsilent (by simp)
        rw [step, if_neg hended]
        exact speaks_nil

/-- Whatever a step puts out is the prompt or something that is said. -/
theorem eq_prompt_or_said (hsound : client.IsSound) {output : Output}
    (hmem : output ∈ (client.step event).2) : output = client.prompt ∨ Says event output := by
  have hspoken {last : Bool} {outputs : List Output}
      (hspeaks : Speaks client.config.team event last outputs) (hmem : output ∈ outputs) :
      output = client.prompt ∨ Says event output := by
    obtain ⟨said, hsaid, rfl⟩ := hspeaks
    rcases List.mem_append.1 hmem with hbefore | hlast
    · exact .inr (hsaid output hbefore)
    · cases last with
      | true => exact .inl (List.mem_singleton.1 hlast)
      | false => cases hlast
  obtain ⟨pursued, houtputs, hspeaks⟩ := exists_pursued hsound event
  rw [houtputs] at hmem
  rcases List.mem_append.1 hmem with hannounced | hpursued
  · exact hspoken (speaks_spoken ⟨client, event⟩) hannounced
  · exact hspoken hspeaks hpursued

/-! ## Starts -/

/-- A client that starts says what is written on the connections, greets the team and asks for the
listing. -/
theorem exists_outputs_of_start {config : Config} {read : FileReader} {attempt : Channel → Attempt}
    {meanwhile : Task → List Incident} {outputs : List Output}
    (hstart : start config read attempt meanwhile = (.ok client, outputs)) :
    ∃ log url, outputs = wireOutputs log ++ [.print (greeting config.team), .fetch 0 url] := by
  unfold start at hstart
  split at hstart
  · cases hstart
  · dsimp only at hstart
    split at hstart
    · cases hstart
    · simp only [fetchListing, config.url_files] at hstart
      cases hstart
      exact ⟨_, _, rfl⟩

/-- A start prints the greeting only. -/
theorem eq_greeting_of_start {config : Config} {read : FileReader} {attempt : Channel → Attempt}
    {meanwhile : Task → List Incident} {outputs : List Output}
    (hstart : start config read attempt meanwhile = (.ok client, outputs))
    {text : String} (hmem : .print text ∈ outputs) : text = greeting config.team := by
  obtain ⟨log, url, rfl⟩ := exists_outputs_of_start hstart
  simpa [wireOutputs] using hmem

theorem isLine_greeting (team : String) : Display.IsLine "\nYou are team '" (greeting team) := by
  refine ⟨team ++ "'. Type 'help' for commands, 'quit' to exit.\n", ?_⟩
  have hgreeting : greeting team =
      "\nYou are team '" ++ team ++ "'. Type 'help' for commands, 'quit' to exit.\n\n" := rfl
  rw [hgreeting]
  simp only [String.append_assoc]
  rfl

end Client

end ClassroomClient
