/-
# Actions through any sink

An action is refused, or it changes the page and its request is built and sent once. How the sending
ends decides only what is reported: the page was changed before, and a failure neither takes that
back nor sends again. `Sink.recorded` writes down what a sink is asked for, so that this can be said
of every sink, whatever it does with what it gets.
-/

import ClassroomClient.Proofs.Exchange.Request
import ClassroomClient.Proofs.Page.Lock
import ClassroomClient.Proofs.Page.Panel
import ClassroomClient.Session.Basic

namespace ClassroomClient

open Exchange

/-- One use of a sink: what was to be sent where, and how that ended. -/
structure Sending where
  destination : String
  payload : String
  result : Except SendError Unit

/-- A sink with a record of its uses beside its state. -/
def Sink.recorded {σ : Type} (sink : Sink σ) : Sink (σ × List Sending) :=
  fun (state, sendings) destination payload =>
    let (next, result) := sink state destination payload
    ((next, sendings ++ [{ destination, payload, result }]), result)

/-! ## What actions leave of the page -/

/-- The page has lost the outputs of its tests, has an empty compiler output and no color on any
tab. All else is that of another page. -/
structure Page.IsClearedFrom (after page : Page) : Prop where
  regions : ∀ name, after.region? name =
    if name = Region.output then some ""
    else if page.testRegions.contains name then none
    else page.region? name
  untracked : ∀ name, after.testRegions.contains name = false
  neutral : ∀ tab, after.tabColor tab = .neutral
  kept : { after with
    regions := page.regions, testRegions := page.testRegions, tabColors := page.tabColors } = page

/-- The page is locked. All but the lock is that of another page. -/
structure Page.IsLockedFrom (after page : Page) : Prop where
  locked : after.IsLocked
  editors : after.editors = page.editors.map fun editor => { editor with locked := true }
  kept : { after with
    editors := page.editors, greyedTabs := page.greyedTabs, disabled := page.disabled } = page

theorem Page.isClearedFrom_clearTestOutputs (page : Page) :
    page.clearTestOutputs.IsClearedFrom page where
  regions := fun name => congrArg (·.1) (page.panel_clearTestOutputs name)
  untracked := fun _ => rfl
  neutral := fun tab => congrArg (·.2) (page.panel_clearTestOutputs tab)
  kept := rfl

theorem Page.isLockedFrom_disable (page : Page) : page.disable.IsLockedFrom page where
  locked := page.isLocked_disable
  editors := rfl
  kept := rfl

namespace Submission

/-- What an accepted action leaves of the page. -/
def Leaves (page : Page) (action : Action) (after : Page) : Prop :=
  match action with
  | .compile => after = page
  | .test => after.IsClearedFrom page
  | .submit => after.IsLockedFrom page

theorem leaves_pageAfter (page : Page) (action : Action) :
    Leaves page action (pageAfter page action) := by
  cases action with
  | compile => rfl
  | test => exact page.isClearedFrom_clearTestOutputs
  | submit => exact page.isLockedFrom_disable

/-! ## Dispatching -/

variable {σ : Type} {page : Page} {action : Action}

theorem prepare_of_disabled (hdisabled : page.isDisabled action = true) (team : String) :
    prepare team page action = (page, .error (.controlDisabled action)) := by
  rw [prepare, if_pos hdisabled]

theorem prepare_of_enabled (henabled : page.isDisabled action = false) (team : String) :
    prepare team page action = (pageAfter page action, .ok (request team page action)) := by
  rw [prepare, henabled]
  rfl

/-- A refused action does not reach the sink. -/
theorem dispatch_of_disabled (hdisabled : page.isDisabled action = true) (team : String)
    (sink : Sink σ) (state : σ) :
    dispatch team sink state page action = (state, page, .error (.controlDisabled action)) := by
  rw [dispatch, prepare_of_disabled hdisabled]

/-- What is reported of a request after the sink has answered. -/
def reported (sent : Request) : Except SendError Unit → Except DispatchError Request
  | .ok () => .ok sent
  | .error error => .error (.send error)

theorem reported_eq_ok {sent : Request} {answer : Except SendError Unit} :
    reported sent answer = .ok sent ↔ answer = .ok () := by
  rcases answer with error | _ <;> simp [reported]

/-- An accepted action reaches the sink once, and the sink decides what is reported. -/
theorem dispatch_of_enabled (henabled : page.isDisabled action = false) {team : String}
    {sink : Sink σ} {state next : σ} {answer : Except SendError Unit}
    (hanswer : sink state action.destination (String.ofList (request team page action).text) =
      (next, answer)) :
    dispatch team sink state page action =
      (next, pageAfter page action, reported (request team page action) answer) := by
  rw [dispatch, prepare_of_enabled henabled]
  dsimp only
  rw [hanswer]
  rcases answer with error | _ <;> rfl

/-- What becomes of an action with any sink. A disabled control refuses it: the sink is not used and
the page stays. Otherwise the sink is used once, for the destination of the action and the JSON text
of its request, from which the request is read back. If the sink succeeds the request is reported,
and else the error of the sink. Either way the page is the one that was prepared, with the effect of
the action on it. -/
theorem dispatch_recorded (team : String) (sink : Sink σ) (state : σ) (page : Page)
    (action : Action) :
    ∃ next sendings after result,
      dispatch team sink.recorded (state, []) page action = ((next, sendings), after, result) ∧
      dispatch team sink state page action = (next, after, result) ∧
      after = (prepare team page action).1 ∧
      (page.isDisabled action = true →
        next = state ∧ sendings = [] ∧ after = page ∧
          result = .error (.controlDisabled action)) ∧
      (page.isDisabled action = false →
        ∃ sent answer,
          (prepare team page action).2 = .ok sent ∧
          sent =
            { team
              source := page.sources
              tests := if action = .test then some page.selectedTests else none } ∧
          Request.shape.decode (String.ofList sent.text) = .ok sent ∧
          sink state action.destination (String.ofList sent.text) = (next, answer) ∧
          sendings =
            [{ destination := action.destination
               payload := String.ofList sent.text
               result := answer }] ∧
          (result = .ok sent ↔ answer = .ok ()) ∧
          (∀ error, answer = .error error → result = .error (.send error)) ∧
          Leaves page action after) := by
  cases hdisabled : page.isDisabled action with
  | true =>
      refine ⟨state, [], page, .error (.controlDisabled action),
        dispatch_of_disabled hdisabled _ _ _, dispatch_of_disabled hdisabled _ _ _, ?_,
        fun _ => ⟨rfl, rfl, rfl, rfl⟩, nofun⟩
      rw [prepare_of_disabled hdisabled]
  | false =>
      have hprepared := prepare_of_enabled hdisabled team
      rcases hanswer : sink state action.destination
        (String.ofList (request team page action).text) with ⟨next, answer⟩
      have hrecorded : sink.recorded (state, []) action.destination
          (String.ofList (request team page action).text) =
            ((next, [⟨action.destination, String.ofList (request team page action).text,
              answer⟩]), answer) := by
        simp only [Sink.recorded, hanswer, List.nil_append]
      refine ⟨next, _, pageAfter page action, reported (request team page action) answer,
        dispatch_of_enabled hdisabled hrecorded, dispatch_of_enabled hdisabled hanswer, ?_, nofun,
        ?_⟩
      · rw [hprepared]
      · intro _
        refine ⟨request team page action, answer, ?_, ?_, Request.decode_text _, hanswer, rfl,
          reported_eq_ok, ?_, leaves_pageAfter page action⟩
        · rw [hprepared]
        · cases action <;> rfl
        · rintro error rfl
          rfl

/-- A submission that does not reach the server locks the page all the same. The next action is
refused and not sent. -/
theorem dispatch_recorded_unreachable :
    let page := Page.empty.addEditor (.fresh "A.java" .edit "class A {}")
    let session : Session Unit := { channel := .control, fault := some "connection reset" }
    let failure : SendError := .transport .control "connection reset"
    page.isDisabled .submit = false ∧
    ∃ next sending after,
      dispatch "team1" Session.sink.recorded ((session, []), []) page .submit =
        ((next, [sending]), after, .error (.send failure)) ∧
      sending.destination = "/app/submit/submit" ∧ sending.result = .error failure ∧
      after.IsLocked ∧ after.isDisabled .test = true ∧
      dispatch "team1" Session.sink.recorded (next, []) after .test =
        ((next, []), after, .error (.controlDisabled .test)) := by
  intro page session failure
  have henabled : page.isDisabled .submit = false := rfl
  obtain ⟨next, sendings, after, result, hdispatch, _, _, _, haccepted⟩ :=
    dispatch_recorded "team1" Session.sink (session, []) page .submit
  obtain ⟨sent, answer, _, _, _, hanswer, hsendings, _, herror, hleaves⟩ := haccepted henabled
  have hfailure : answer = .error failure := (congrArg (·.2) hanswer).symm
  have hlocked : after.IsLocked := hleaves.locked
  rw [hsendings, herror failure hfailure] at hdispatch
  obtain ⟨_, _, _, _, hagain, _, _, hrefused, _⟩ :=
    dispatch_recorded "team1" Session.sink next after .test
  obtain ⟨hnext, hnone, hpage, hresult⟩ := hrefused (hlocked.disabled .test)
  rw [hnext, hnone, hpage, hresult] at hagain
  exact ⟨henabled, next, _, after, hdispatch, rfl, hfailure, hlocked, hlocked.disabled .test,
    hagain⟩

end Submission

end ClassroomClient
