/-
# Typed lines

Lines that are typed wait until a turn takes the first of them. Nothing but typing adds to them and
nothing but a turn takes one away, so what the lines ask for is carried out in the order in which
they were typed. `pending` is what has been asked for and has not been carried out yet: first the
action in hand, then those of the lines that wait.
-/

import ClassroomClient.Proofs.Client.Lock

namespace ClassroomClient

/-- A line as it is handled, without the blanks around it. A blank line is none. -/
def typedLine? (text : String) : Option String :=
  let line := String.ofList (Text.trim text.toList)
  if line.isEmpty then none else some line

/-- The lines that are typed until the input ends. -/
def typedLines : List Event → List String
  | [] => []
  | .line text :: rest => (typedLine? text).toList ++ typedLines rest
  | .endOfInput :: _ => []
  | _ :: rest => typedLines rest

/-- The actions that lines ask for. -/
def askedActions (lines : List String) : List Action :=
  lines.filterMap fun line => (UserCommand.ofLine line).action?

theorem askedActions_append (first second : List String) :
    askedActions (first ++ second) = askedActions first ++ askedActions second :=
  List.filterMap_append

/-- The action in hand on a stage. -/
def Stage.action? : Stage → Option Action
  | .refreshing action _ | .sending action _ => some action
  | _ => none

namespace Client

/-- The lines that wait, and whether more can come. -/
def typing (client : Client) : List String × Bool := (client.lines, client.hasInput)

/-- The lines that come in at an event. -/
def entered (client : Client) : Event → List String
  | .line text => if client.hasInput then (typedLine? text).toList else []
  | _ => []

/-- The actions that have been asked for and not been answered. -/
def pending (client : Client) : List Action :=
  client.stage.action?.toList ++ askedActions client.lines

/-! ## What leaves the lines alone -/

theorem typing_fetchRankings (client : Client) : client.fetchRankings.1.typing = client.typing := by
  unfold fetchRankings
  split
  · rfl
  · split <;> rfl

theorem typing_fetchListing (client : Client) (purpose : Purpose) :
    (client.fetchListing purpose).1.typing = client.typing := by
  unfold fetchListing
  split
  · split
    · exact client.typing_fetchRankings
    · rfl
  · rfl

theorem typing_showListing (client : Client) (result : Except HttpError (Option String)) :
    (client.showListing result).1.typing = client.typing := by
  unfold showListing
  split <;> rfl

theorem typing_showRankings (client : Client) (result : Except HttpError (Option String)) :
    (client.showRankings result).1.typing = client.typing := by
  unfold showRankings
  split <;> rfl

theorem typing_takeAnswer (client : Client) (number : Nat) (answer : HttpAnswer) :
    (client.takeAnswer number answer).1.typing = client.typing := by
  have hlisting := (client.answered number).typing_showListing (Download.files.read answer)
  unfold takeAnswer
  split
  · rfl
  · next purpose _ =>
    cases purpose with
    | listing => exact hlisting
    | reloadedListing => exact (typing_fetchRankings _).trans hlisting
    | rankings => exact (client.answered number).typing_showRankings _

theorem typing_renderNext (client : Client) (now : Int) :
    (client.renderNext now).1.typing = client.typing := by
  unfold renderNext
  split
  · rfl
  · next message rest _ =>
    dsimp only
    split
    · next notification _ =>
      unfold renderNotification
      dsimp only
      cases (client.page.render now notification).2 with
      | none => rfl
      | reloaded => exact typing_fetchListing _ .reloadedListing
      | refreshRankings => exact typing_fetchRankings _
    · rfl

theorem typing_handleCommand (client : Client) (command : UserCommand) :
    (client.handleCommand command).1.typing = client.typing := by
  cases command with
  | files => exact typing_fetchListing _ .listing
  | _ => rfl

theorem typing_prepareAction (client : Client) (action : Action) :
    (client.prepareAction action).1.typing = client.typing := by
  unfold prepareAction
  split
  · rfl
  · split <;> rfl

/-- A turn takes the first line when no other is in hand, and no turn does anything else to the
lines. -/
theorem typing_advance (client : Client) (read : FileReader) (now : Int) :
    (client.advance read now).1.typing = client.typing ∨
      ∃ line rest, client.stage = .ready ∧ client.lines = line :: rest ∧
        (client.advance read now).1.typing = (rest, client.hasInput) := by
  unfold advance
  split
  · next hready =>
    split
    · next line rest hlines =>
      exact .inr ⟨line, rest, hready, hlines, typing_handleCommand _ _⟩
    · split
      · exact .inl rfl
      · exact .inl rfl
  · exact .inl rfl
  · exact .inl rfl
  · exact .inl rfl
  · exact .inl (client.typing_prepareAction _)
  · exact .inl rfl

/-- A client starts without lines and takes them. -/
theorem typing_of_start {config : Config} {read : FileReader} {attempt : Channel → Attempt}
    {meanwhile : Task → List Incident} {client : Client} {outputs : List Output}
    (hstart : start config read attempt meanwhile = (.ok client, outputs)) :
    client.typing = ([], true) := by
  obtain ⟨page, _, _, rfl⟩ := exists_opened_of_start hstart
  exact (opened config page _).typing_fetchListing .listing

/-! ## What comes in -/

/-- At every other event the lines that are typed join the others, and only the end of the input
keeps later ones out. -/
theorem typing_step {client : Client} {event : Event} (hrunning : client.stage ≠ .ended)
    (hother : ∀ read now, event ≠ .advance read now) :
    (client.step event).1.typing =
      (client.lines ++ client.entered event,
        client.hasInput && !(event matches .endOfInput)) := by
  unfold step
  rw [if_neg hrunning]
  cases event with
  | advance read now => exact absurd rfl (hother read now)
  | line text =>
      dsimp only
      unfold takeLine entered typedLine?
      cases hinput : client.hasInput with
      | false => simp [typing, hinput]
      | true =>
        by_cases hblank : (String.ofList (Text.trim text.toList)).isEmpty = true
        · simp [typing, hinput, hblank]
        · simp [typing, hblank]
  | endOfInput => simp [typing, entered]
  | receive channel incoming => simp [typing, entered, receive]
  | lose channel reason => simp [typing, entered, lose]
  | render now => simpa [typing, entered] using client.typing_renderNext now
  | answer number answer => simpa [typing, entered] using client.typing_takeAnswer number answer
  | look channel =>
      dsimp only
      unfold look
      split <;> simp [typing, entered]

/-- What is typed from an event on is what comes in at the event and what is typed after it. -/
theorem entered_append_typedLines {client : Client} (hrunning : client.stage ≠ .ended)
    (event : Event) (rest : List Event) :
    client.entered event ++ (if (client.step event).1.hasInput then typedLines rest else []) =
      if client.hasInput then typedLines (event :: rest) else [] := by
  by_cases hturn : ∃ read now, event = .advance read now
  · obtain ⟨read, now, rfl⟩ := hturn
    have hinput : (client.step (.advance read now)).1.hasInput = client.hasInput := by
      rw [step, if_neg hrunning]
      rcases client.typing_advance read now with hsame | ⟨line, others, _, _, htaken⟩
      · exact congrArg (·.2) hsame
      · exact congrArg (·.2) htaken
    rw [hinput]
    rfl
  · have hother (read : FileReader) (now : Int) : event ≠ .advance read now := by
      intro hevent
      exact hturn ⟨read, now, hevent⟩
    have hinput : (client.step event).1.hasInput = _ :=
      congrArg (·.2) (typing_step hrunning hother)
    rw [hinput]
    cases event <;> cases hopen : client.hasInput <;> simp [entered, typedLines, hopen]

end Client

end ClassroomClient
