/-
# Channels are confined

What comes in on a channel can do only what the topics of that channel are for, whatever the server
writes in the headers and in the body. A text adds at most one message to the queue, on a topic of
its channel. From there messages of the control channel alone reload the page, and they alone lock
it beside a submission; messages of the submit channel alone show texts and colors, beside what the
client fetches itself; and messages of the submit channel ask for no download.

The last two clauses of `Confines` compare runs. Other bodies on the control and feedback channels
make no difference at all, and other messages on the submit channel make none to the lock, to the
reloads and to the downloads.
-/

import ClassroomClient.Proofs.Client.Lock
import ClassroomClient.Proofs.Client.Results
import ClassroomClient.Proofs.Page.Panel

namespace ClassroomClient

open Exchange Stomp

namespace Client

/-- The event lets the client render a message that came on the channel. -/
def RendersFrom (client : Client) (event : Event) (channel : Channel) : Prop :=
  client.stage ≠ .ended ∧ ∃ now message rest,
    event = .render now ∧ client.queue = message :: rest ∧ message.channel = channel

/-- What can come of the texts on each channel, from a state of the client on. -/
structure Confines (client : Client) : Prop where
  /-- A text adds at most one message to the queue, of its channel and on a topic that is published
  there, and does nothing else. -/
  admits : ∀ channel text, ∃ admitted : Option Inbound,
    client.step (.receive channel (.text text)) =
        ({ client with queue := client.queue ++ admitted.toList }, []) ∧
      ∀ message ∈ admitted, message.channel = channel ∧ channel.Publishes message.topic
  /-- Nothing else adds to the queue. -/
  added : ∀ event message, message ∈ (client.step event).1.queue → message ∈ client.queue ∨
    ∃ text, event = .receive message.channel (.text text)
  /-- What waits is on a topic of the channel it came on. -/
  waiting : ∀ message ∈ client.queue, message.channel.Publishes message.topic
  /-- Only a message of the control channel reloads the page. -/
  reloads : ∀ event, (client.step event).1.page.reloadCount ≠ client.page.reloadCount →
    client.RendersFrom event .control
  /-- Only a message of the control channel and a submission that is accepted touch the lock. -/
  locks : ∀ event, (client.step event).1.page.lockState ≠ client.page.lockState →
    client.RendersFrom event .control ∨ client.AcceptsSubmission event
  /-- A region gets a new text from a message of the submit channel, from a download or, the empty
  one, from an action. -/
  shows : ∀ event name text, (client.step event).1.page.region? name = some text →
    client.page.region? name = some text ∨ client.RendersFrom event .submit ∨
      (∃ number answer, event = .answer number answer) ∨
      text = "" ∧ ∃ read now, event = .advance read now
  /-- A tab gets a color from a message of the submit channel. -/
  colors : ∀ event tab, (client.step event).1.page.tabColor tab = client.page.tabColor tab ∨
    (client.step event).1.page.tabColor tab = .neutral ∨ client.RendersFrom event .submit
  /-- A download is asked for by a message of another channel than submit, by a typed line or
  after a download. -/
  requests : ∀ event, Output.requests (client.step event).2 ≠ [] →
    client.RendersFrom event .control ∨ client.RendersFrom event .feedback ∨
      (∃ read now, event = .advance read now) ∨ ∃ number answer, event = .answer number answer
  /-- Whatever happens next, other bodies on the control and feedback channels change nothing that
  is put out or on the page. -/
  unread : ∀ queue, queue.map Inbound.veiled = client.queue.map Inbound.veiled → ∀ events,
    (run { client with queue } events).2 = (client.run events).2 ∧
      (run { client with queue } events).1.page = (client.run events).1.page
  /-- Whatever happens next, other messages on the submit channel change neither the lock nor the
  reloads nor the downloads that are asked for. -/
  unheeded : ∀ queue, (∀ message ∈ queue, message.channel.Publishes message.topic) →
    queue.map Inbound.emptied = client.queue.map Inbound.emptied → ∀ events,
    (run { client with queue } events).1.page.lockState = (client.run events).1.page.lockState ∧
      (run { client with queue } events).1.page.reloadCount =
        (client.run events).1.page.reloadCount ∧
      Output.requests (run { client with queue } events).2 =
        Output.requests (client.run events).2

variable {client : Client}

/-! ## Rendering -/

/-- A rendered notification is one of the channel on which its message came. -/
theorem IsConfined.channel_of_decode (hconfined : client.IsConfined) {message : Inbound}
    {rest : List Inbound} {notification : Notification} (hqueue : client.queue = message :: rest)
    (hdecode : Notification.decode message.topic message.body = .ok notification) :
    notification.channel = message.channel := by
  apply Notification.channel_eq_of_publishes
  rw [Notification.topic_eq_of_decode hdecode]
  apply hconfined.waiting
  rw [hqueue]
  exact List.mem_cons_self

/-- A message on a topic of either signal came on the control channel. -/
theorem IsConfined.rendersFrom_control (hconfined : client.IsConfined) {event : Event}
    {topic : String} (hrenders : client.Renders event topic)
    (htopic : topic = Route.roundStart ∨ topic = Route.roundStop) :
    client.RendersFrom event .control := by
  obtain ⟨hrunning, now, message, rest, rfl, hqueue, rfl⟩ := hrenders
  refine ⟨hrunning, now, message, _, rfl, hqueue, ?_⟩
  rcases htopic with hstart | hstop
  · rw [← hconfined.channel_of_decode hqueue (hstart ▸ Notification.decode_roundStart _)]
    rfl
  · obtain ⟨notice, hnotice⟩ := Notification.decode_roundStop message.body
    rw [← hconfined.channel_of_decode hqueue (hstop ▸ hnotice)]
    rfl

/-! ## Single steps -/

theorem IsConfined.reloads (hconfined : client.IsConfined) {event : Event}
    (hreload : (client.step event).1.page.reloadCount ≠ client.page.reloadCount) :
    client.RendersFrom event .control := by
  obtain ⟨page, _, _, heffect, hpage, _, _⟩ := client.exists_effect event
  rw [hpage] at hreload
  cases heffect with
  | @rendered now message _ notification hrunning hqueue hdecode =>
      by_cases hstart : notification = .roundStart
      · refine ⟨hrunning, now, message, _, rfl, hqueue, ?_⟩
        rw [← hconfined.channel_of_decode hqueue hdecode, hstart]
        rfl
      · exact absurd (Page.reloadCount_render _ _ hstart) hreload
  | acted hstage henabled => exact absurd (Page.reloadCount_pageAfter _ _) hreload
  | _ => exact absurd rfl hreload

theorem IsConfined.locks (hconfined : client.IsConfined) {event : Event}
    (hlock : (client.step event).1.page.lockState ≠ client.page.lockState) :
    client.RendersFrom event .control ∨ client.AcceptsSubmission event := by
  rcases client.lockState_step event with hsame | haccepts | hstop | hstart
  · exact absurd hsame hlock
  · exact .inr haccepts
  · exact .inl (hconfined.rendersFrom_control hstop (.inr rfl))
  · exact .inl (hconfined.rendersFrom_control hstart (.inl rfl))

/-- A step that changes a panel renders a message of the submit channel, shows a download, carries
out an action, or empties the panel. -/
theorem IsConfined.panel_step (hconfined : client.IsConfined) (event : Event) (name : String) :
    client.RendersFrom event .submit ∨
      (∃ number answer region text, event = .answer number answer ∧
        (client.step event).1.page = client.page.setRegion region text) ∨
      (∃ read now action, event = .advance read now ∧
        (client.step event).1.page = Submission.pageAfter client.page action) ∨
      (client.step event).1.page.panel name = client.page.panel name ∨
      (client.step event).1.page.panel name = (none, .neutral) := by
  obtain ⟨page, _, _, heffect, hpage, _, _⟩ := client.exists_effect event
  rw [hpage]
  cases heffect with
  | @rendered now message _ notification hrunning hqueue hdecode =>
      have hchannel := hconfined.channel_of_decode hqueue hdecode
      by_cases hsubmit : notification.channel = .submit
      · exact .inl ⟨hrunning, now, message, _, rfl, hqueue, hchannel.symm.trans hsubmit⟩
      · exact .inr (.inr (.inr (Page.panel_render_of_ne_submit _ now hsubmit name)))
  | shown number answer text hname =>
      exact .inr (.inl ⟨number, answer, _, text, rfl, rfl⟩)
  | @acted read now action hstage henabled =>
      exact .inr (.inr (.inl ⟨read, now, action, rfl, rfl⟩))
  | _ => exact .inr (.inr (.inr (.inl rfl)))

theorem IsConfined.shows (hconfined : client.IsConfined) {event : Event} {name text : String}
    (htext : (client.step event).1.page.region? name = some text) :
    client.page.region? name = some text ∨ client.RendersFrom event .submit ∨
      (∃ number answer, event = .answer number answer) ∨
      text = "" ∧ ∃ read now, event = .advance read now := by
  rcases hconfined.panel_step event name with hsubmit | ⟨number, answer, _, _, hevent, _⟩ |
    ⟨read, now, action, hevent, hpage⟩ | hsame | hempty
  · exact .inr (.inl hsubmit)
  · exact .inr (.inr (.inl ⟨number, answer, hevent⟩))
  · rw [hpage] at htext
    rcases Page.panel_pageAfter client.page action name with hkept | ⟨_, hcleared⟩
    · rw [show (Submission.pageAfter client.page action).region? name = _ from
        congrArg (·.1) hkept] at htext
      exact .inl htext
    · rcases hcleared text htext with hold | hblank
      · exact .inl hold
      · exact .inr (.inr (.inr ⟨hblank, read, now, hevent⟩))
  · rw [show (client.step event).1.page.region? name = _ from congrArg (·.1) hsame] at htext
    exact .inl htext
  · rw [show (client.step event).1.page.region? name = _ from congrArg (·.1) hempty] at htext
    cases htext

theorem IsConfined.colors (hconfined : client.IsConfined) (event : Event) (tab : String) :
    (client.step event).1.page.tabColor tab = client.page.tabColor tab ∨
      (client.step event).1.page.tabColor tab = .neutral ∨ client.RendersFrom event .submit := by
  rcases hconfined.panel_step event tab with hsubmit | ⟨_, _, region, text, _, hpage⟩ |
    ⟨_, _, action, _, hpage⟩ | hsame | hempty
  · exact .inr (.inr hsubmit)
  · rw [hpage]
    exact .inl rfl
  · rw [hpage]
    rcases Page.panel_pageAfter client.page action tab with hkept | ⟨hneutral, _⟩
    · exact .inl (congrArg (·.2) hkept)
    · exact .inr (.inl hneutral)
  · exact .inl (congrArg (·.2) hsame)
  · exact .inr (.inl (congrArg (·.2) hempty))

theorem IsConfined.requests (hconfined : client.IsConfined) {event : Event}
    (hrequests : Output.requests (client.step event).2 ≠ []) :
    client.RendersFrom event .control ∨ client.RendersFrom event .feedback ∨
      (∃ read now, event = .advance read now) ∨ ∃ number answer, event = .answer number answer := by
  by_cases hended : client.stage = .ended
  · rw [step_of_ended hended] at hrequests
    exact absurd rfl hrequests
  cases event with
  | advance read now => exact .inr (.inr (.inl ⟨read, now, rfl⟩))
  | answer number answer => exact .inr (.inr (.inr ⟨number, answer, rfl⟩))
  | render now =>
      rw [step_render_of_running hended] at hrequests
      cases hqueue : client.queue with
      | nil =>
          rw [renderNext, hqueue] at hrequests
          exact absurd rfl hrequests
      | cons message rest =>
          have hrenders : client.RendersFrom (.render now) message.channel :=
            ⟨hended, now, message, rest, rfl, hqueue, rfl⟩
          have hpublishes := hconfined.waiting message (by rw [hqueue]; exact List.mem_cons_self)
          cases hchannel : message.channel with
          | submit =>
              rw [client.renderNext_of_queue hqueue] at hrequests
              have hparallel :=
                (client.withQueue rest).renderMessage_of_submit now hpublishes hchannel
              exact absurd hparallel.requests hrequests
          | control => exact .inl (hchannel ▸ hrenders)
          | feedback => exact .inr (.inl (hchannel ▸ hrenders))
  | line text =>
      exfalso
      apply hrequests
      rw [Client.step, if_neg hended]
      unfold takeLine
      dsimp only
      split <;> rfl
  | look channel =>
      exfalso
      apply hrequests
      rw [Client.step, if_neg hended]
      unfold look
      split <;> rfl
  | endOfInput =>
      rw [Client.step, if_neg hended] at hrequests
      exact absurd rfl hrequests
  | receive channel incoming =>
      rw [Client.step, if_neg hended] at hrequests
      exact absurd rfl hrequests
  | lose channel reason =>
      rw [Client.step, if_neg hended] at hrequests
      exact absurd rfl hrequests

/-! ## All states -/

/-- In every state that the client can reach the channels are confined. -/
theorem confines_of_reachable (hreachable : client.Reachable) : client.Confines := by
  have hconfined := hreachable.isConfined
  constructor
  · intro channel text
    obtain ⟨admitted, hstep, hdelivered⟩ := client.step_text channel text
    refine ⟨admitted, hstep, fun message hmem => ?_⟩
    obtain ⟨hchannel, hpublishes, _⟩ := hconfined.delivered (hdelivered message hmem)
    exact ⟨hchannel, hpublishes⟩
  · intro event message hmem
    exact (hconfined.mem_queue_step hmem).imp_right And.left
  · exact hconfined.waiting
  · intro event hreload
    exact hconfined.reloads hreload
  · intro event hlock
    exact hconfined.locks hlock
  · intro event name text htext
    exact hconfined.shows htext
  · exact hconfined.colors
  · intro event hrequests
    exact hconfined.requests hrequests
  · intro queue hveiled events
    obtain ⟨later, hrun⟩ := run_of_veiled hconfined hveiled events
    rw [withQueue] at hrun
    rw [hrun]
    exact ⟨rfl, rfl⟩
  · intro queue hwaiting hemptied events
    have hsame : client.SameButSubmit { client with queue } := ⟨rfl, .refl _, hemptied⟩
    obtain ⟨hrun, hrequests⟩ := hsame.run hconfined ⟨hconfined.sessions, hwaiting⟩ events
    exact ⟨hrun.page.lockState, hrun.page.reloadCount, hrequests⟩

/-- A message on the submit channel that is addressed to the signal for the stop is taken for
feedback, since it names that subscription, and rendering it neither locks nor reloads the page. -/
theorem confines_of_reachable_forged_stop :
    let config : Config :=
      { Session.localConfig with files := [{ path := "A.java", kind := .edit }] }
    let forged : Frame :=
      { Frame.bare .message [("subscription", "sub-1"), ("destination", "/queue/stop")] with
        body := "{}" }
    ∃ client outputs,
      start config (fun _ => .ok "class A {}") (fun _ => Manager.grantedAttempt) =
          (.ok client, outputs) ∧
        let pushed := (client.step (.receive .submit (.text forged.encode))).1
        pushed.queue = [{ channel := .submit, topic := "/user/queue/feedback", body := "{}" }] ∧
          (pushed.step (.render 0)).1.page.lockState = pushed.page.lockState ∧
          (pushed.step (.render 0)).1.page.reloadCount = pushed.page.reloadCount := by
  intro config forged
  obtain ⟨client, hclient⟩ : ∃ client,
      (start config (fun _ => .ok "class A {}") fun _ => Manager.grantedAttempt).1 = .ok client :=
    exists_of_isOk (by decide +kernel)
  have hqueue : ((start config (fun _ => .ok "class A {}")
      fun _ => Manager.grantedAttempt).1.toOption.map fun client =>
        (client.step (.receive .submit (.text forged.encode))).1.queue) =
      some [{ channel := .submit, topic := "/user/queue/feedback", body := "{}" }] := by
    decide +kernel
  rw [hclient] at hqueue
  have hdelivered : (client.step (.receive .submit (.text forged.encode))).1.queue =
      [{ channel := .submit, topic := "/user/queue/feedback", body := "{}" }] :=
    Option.some.inj hqueue
  have hstart : start config (fun _ => .ok "class A {}") (fun _ => Manager.grantedAttempt) =
      (.ok client, _) := Prod.ext hclient rfl
  have hlaw := confines_of_reachable ((Reachable.start hstart).step
    (.receive .submit (.text forged.encode)))
  have hother : ¬ RendersFrom (client.step (.receive .submit (.text forged.encode))).1
      (.render 0) .control := by
    rintro ⟨_, _, message, rest, _, hfirst, hcontrol⟩
    rw [hdelivered] at hfirst
    cases hfirst
    cases hcontrol
  refine ⟨client, _, hstart, hdelivered, ?_, ?_⟩
  · by_contra hlock
    rcases hlaw.locks _ hlock with hcontrol | ⟨⟨_, _, hevent⟩, _⟩
    · exact hother hcontrol
    · cases hevent
  · by_contra hreload
    exact hother (hlaw.reloads _ hreload)

end Client

end ClassroomClient
