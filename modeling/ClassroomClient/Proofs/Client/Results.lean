/-
# Results that nothing depends on

The results on the page are shown and printed, but no lock, no reload, no request to the server and
no download depends on them. Since what comes on the submit channel changes only results, clients
that got other messages on that channel keep the same lock and ask for the same downloads, whatever
happens to them afterwards.
-/

import ClassroomClient.Proofs.Client.View
import ClassroomClient.Proofs.Page.Channel

namespace ClassroomClient

open Exchange

/-- The downloads that outputs ask for. -/
def Output.requests (outputs : List Output) : List (Nat × Url) :=
  outputs.filterMap fun
    | .fetch number url => some (number, url)
    | _ => none

theorem Output.requests_append (first second : List Output) :
    requests (first ++ second) = requests first ++ requests second := List.filterMap_append

/-- A message of which nothing is left but its channel if that is the submit channel. -/
def Inbound.emptied (message : Inbound) : Inbound :=
  if message.channel = .submit then { message with topic := "", body := "" } else message

/-- Of a message that did not come on the submit channel nothing is lost. -/
theorem Inbound.eq_of_emptied {message other : Inbound}
    (hemptied : other.emptied = message.emptied) :
    other.channel = message.channel ∧ (message.channel ≠ .submit → other = message) := by
  have hchannel (message : Inbound) : message.emptied.channel = message.channel := by
    unfold emptied
    split <;> rfl
  have hsame : other.channel = message.channel := by
    rw [← hchannel, hemptied, hchannel]
  refine ⟨hsame, fun hother => ?_⟩
  rwa [emptied, emptied, hsame, if_neg hother, if_neg hother] at hemptied

namespace Client

/-- Two clients that differ in nothing but the results on their pages and have asked for the same
downloads. -/
structure Parallel (first second : Client × List Output) : Prop where
  same : second.1 = first.1.withPage second.1.page
  page : first.1.page.SameButResults second.1.page
  requests : Output.requests second.2 = Output.requests first.2

variable {client : Client} {page : Page}

theorem requests_printRegion (page : Page) (name : String) :
    Output.requests (printRegion page name) = [] := by
  unfold printRegion
  split <;> rfl

theorem requests_announce (page : Page) (notification : Notification) :
    Output.requests (announce page notification) = [] := by
  unfold announce
  split
  · rfl
  · rfl
  · split
    · exact requests_printRegion page _
    · rfl

/-- The request is made of what is the same on both pages. -/
theorem request_of_sameButResults {page other : Page} (hsame : page.SameButResults other)
    (team : String) (action : Action) :
    Submission.request team other action = Submission.request team page action := by
  unfold Submission.request Page.sources
  rw [hsame.editors, hsame.selectedTests]

/-- The downloads are seen, and no difference in the results. -/
def downloadsView : View (Nat × Url) where
  Alike page other := page.SameButResults other
  seen? := fun
    | .fetch number url => some (number, url)
    | _ => none
  perform hsame happening := hsame.perform happening
  isDisabled hsame action := hsame.isDisabled action
  request hsame := request_of_sameButResults hsame
  region _ name := (requests_printRegion _ name).trans (requests_printRegion _ name).symm
  reloaded _ := rfl
  display _ := rfl

theorem View.Matches.parallel {first second : Client × List Output}
    (hmatches : downloadsView.Matches first second) : Parallel first second :=
  ⟨hmatches.same, hmatches.page, hmatches.seen⟩

/-! ## Messages -/

/-- What is announced with the prompt asks for no download. -/
theorem requests_renderNotification (client : Client) (now : Int) (notification : Notification) :
    Output.requests (client.renderNotification now notification).2 =
      Output.requests (followUp { client with page := (client.page.render now notification).1 }
        (client.page.render now notification).2).2 := by
  unfold renderNotification
  dsimp only
  rw [Output.requests_append, requests_announce, List.nil_append]
  rfl

/-- A message that came on the submit channel changes the results and asks for no download. -/
theorem renderMessage_of_submit (client : Client) (now : Int) {message : Inbound}
    (hpublishes : message.channel.Publishes message.topic) (hsubmit : message.channel = .submit) :
    Parallel (client, []) (client.renderMessage now message) := by
  unfold renderMessage
  split
  · next notification hdecode =>
    have hchannel : notification.channel = .submit := by
      rw [← Notification.topic_eq_of_decode hdecode] at hpublishes
      exact (Notification.channel_eq_of_publishes hpublishes).trans hsubmit
    obtain ⟨hnext, hpage⟩ := Page.render_of_submit hchannel client.page now
    constructor
    · unfold renderNotification
      dsimp only
      rw [hnext]
      rfl
    · rw [show (client.renderNotification now notification).1.page = _ from
        congrArg (·.1) (client.core_renderNotification now notification)]
      exact hpage
    · rw [requests_renderNotification, hnext]
      rfl
  · exact ⟨rfl, .refl _, rfl⟩

/-- Rendering different messages of the submit channel, or the same message of another one, keeps
clients parallel. -/
theorem parallel_renderMessage (hpage : client.page.SameButResults page) (now : Int)
    {message other : Inbound} (hpublishes : message.channel.Publishes message.topic)
    (hotherPublishes : other.channel.Publishes other.topic)
    (hemptied : other.emptied = message.emptied) :
    Parallel (client.renderMessage now message)
      ((client.withPage page).renderMessage now other) := by
  obtain ⟨hchannel, hsame⟩ := Inbound.eq_of_emptied hemptied
  by_cases hsubmit : message.channel = .submit
  · have hfirst := client.renderMessage_of_submit now hpublishes hsubmit
    have hsecond := (client.withPage page).renderMessage_of_submit now hotherPublishes
      (hchannel.trans hsubmit)
    constructor
    · rw [hfirst.same]
      exact hsecond.same
    · exact hfirst.page.symm.trans (hpage.trans hsecond.page)
    · exact hsecond.requests.trans hfirst.requests.symm
  · rw [hsame hsubmit]
    exact (downloadsView.matches_renderMessage hpage now message).parallel

/-! ## Runs -/

/-- Two clients that differ in nothing but the results on their pages and the messages of the
submit channel that wait. -/
structure SameButSubmit (client other : Client) : Prop where
  same : other = (client.withPage other.page).withQueue other.queue
  page : client.page.SameButResults other.page
  queue : other.queue.map Inbound.emptied = client.queue.map Inbound.emptied

/-- Clients that are parallel before messages are put in their queues differ in what the submit
channel brought when only that differs in the queues. -/
theorem Parallel.sameButSubmit {first second : Client × List Output}
    (hparallel : Parallel first second) {queue others : List Inbound}
    (hqueue : others.map Inbound.emptied = queue.map Inbound.emptied) :
    (first.1.withQueue queue).SameButSubmit (second.1.withQueue others) where
  same := by
    rw [hparallel.same]
    rfl
  page := hparallel.page
  queue := hqueue

theorem sameButSubmit_renderNext {queue : List Inbound} (hpage : client.page.SameButResults page)
    (hconfined : client.IsConfined) (hother : ((client.withPage page).withQueue queue).IsConfined)
    (hqueue : queue.map Inbound.emptied = client.queue.map Inbound.emptied) (now : Int) :
    (client.renderNext now).1.SameButSubmit
        (((client.withPage page).withQueue queue).renderNext now).1 ∧
      Output.requests (((client.withPage page).withQueue queue).renderNext now).2 =
        Output.requests (client.renderNext now).2 := by
  cases hfirst : client.queue with
  | nil =>
      rw [hfirst] at hqueue
      obtain rfl := List.map_eq_nil_iff.1 hqueue
      rw [renderNext, renderNext, hfirst]
      exact ⟨⟨rfl, hpage, by rw [hfirst]; rfl⟩, rfl⟩
  | cons message rest =>
      rw [hfirst] at hqueue
      obtain ⟨second, others, rfl, hmessage, hrest⟩ := List.map_eq_cons_iff.1 hqueue
      have hpublishes := hconfined.waiting message (by rw [hfirst]; exact List.mem_cons_self)
      have hotherPublishes := hother.waiting second List.mem_cons_self
      have hparallel := parallel_renderMessage hpage now hpublishes hotherPublishes hmessage
      rw [((client.withPage page).withQueue (second :: others)).renderNext_of_queue rfl,
        client.renderNext_of_queue hfirst]
      change ((client.withQueue rest).renderMessage now message).1.SameButSubmit
          (((client.withPage page).withQueue others).renderMessage now second).1 ∧
        Output.requests (((client.withPage page).withQueue others).renderMessage now second).2 = _
      rw [renderMessage_withQueue, renderMessage_withQueue]
      exact ⟨hparallel.sameButSubmit hrest, hparallel.requests⟩

/-- A step keeps such clients alike and lets them ask for the same downloads. -/
theorem SameButSubmit.step {other : Client} (hsame : client.SameButSubmit other)
    (hconfined : client.IsConfined) (hother : other.IsConfined) (event : Event) :
    (client.step event).1.SameButSubmit (other.step event).1 ∧
      Output.requests (other.step event).2 = Output.requests (client.step event).2 := by
  obtain ⟨hequal, hpage, hqueue⟩ := hsame
  generalize other.page = page at hequal hpage
  generalize other.queue = queue at hequal hqueue
  subst hequal
  by_cases hended : client.stage = .ended
  · rw [step_of_ended hended,
      step_of_ended (show ((client.withPage page).withQueue queue).stage = .ended from hended)]
    exact ⟨⟨rfl, hpage, hqueue⟩, rfl⟩
  have hrunning : ((client.withPage page).withQueue queue).stage ≠ .ended := hended
  by_cases htouches : TouchesQueue event
  · cases htouches with
    | render now =>
        rw [step_render_of_running hended, step_render_of_running hrunning]
        exact sameButSubmit_renderNext hpage hconfined hother hqueue now
    | receive channel incoming =>
        rw [step_receive_of_running hended, step_receive_of_running hrunning]
        refine ⟨⟨rfl, hpage, ?_⟩, rfl⟩
        dsimp only [withQueue, withPage, delivered]
        rw [List.map_append, List.map_append, hqueue]
  · have hparallel := (downloadsView.matches_step hpage event).parallel
    have hkept : (client.step event).1.withQueue client.queue = (client.step event).1 := by
      rw [← client.queue_step_of_not_touches htouches]
      rfl
    rw [step_withQueue _ _ htouches]
    refine ⟨?_, hparallel.requests⟩
    rw [← hkept]
    exact hparallel.sameButSubmit hqueue

/-- Whatever happens to them, such clients keep the same lock, are reloaded together and ask for
the same downloads. -/
theorem SameButSubmit.run {other : Client} (hsame : client.SameButSubmit other)
    (hconfined : client.IsConfined) (hother : other.IsConfined) (events : List Event) :
    (client.run events).1.SameButSubmit (other.run events).1 ∧
      Output.requests (other.run events).2 = Output.requests (client.run events).2 := by
  induction events generalizing client other with
  | nil => exact ⟨hsame, rfl⟩
  | cons event rest ih =>
      obtain ⟨hstep, hfirst⟩ := hsame.step hconfined hother event
      obtain ⟨hrest, hlater⟩ := ih hstep (hconfined.step event) (hother.step event)
      rw [run_cons, run_cons]
      refine ⟨hrest, ?_⟩
      rw [Output.requests_append, Output.requests_append, hfirst, hlater]

end Client

end ClassroomClient
