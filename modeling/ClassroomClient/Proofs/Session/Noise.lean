/-
# Noise on a connection

Much of what a server can push says nothing to the client: heart-beats, texts that are no frames,
frames that are no messages, messages that nobody has subscribed to, and messages whose body cannot
be read. Such a text leaves every session as it is, and what is delivered of it, if anything, has no
meaning. So an opening of channels goes on without the noise as it does with it, and the messages
that it delivers are the same but for those without a meaning.
-/

import ClassroomClient.Exchange.Notification
import ClassroomClient.Proofs.Session.Confinement

namespace ClassroomClient

open Exchange Stomp

variable {Handler : Type}

/-- The message means something to the client. -/
def Inbound.isMeaningful (message : Inbound) : Bool :=
  (Notification.decode message.topic message.body).isOk

/-- A text that says nothing to a session: it is no frame or a heart-beat, or its frame is no
message, has no handler, or has a body that cannot be read. -/
def Subscriptions.isNoise (subscriptions : Subscriptions Handler) (text : String) : Bool :=
  match Frame.parse text with
  | .error _ | .ok none => true
  | .ok (some frame) =>
    frame.command != .message ||
      match subscriptions.handlerFor? frame with
      | none => true
      | some (topic, _) => !(Notification.decode topic frame.body).isOk

/-- What a session delivers of a text has a meaning unless the text is noise. -/
theorem Session.isMeaningful_of_receive {session : Session Handler} {text : String}
    {handler : Handler} {message : Inbound}
    (hreceived : (session.receive (.text text)).2 = some (handler, message)) :
    message.isMeaningful = !session.subscriptions.isNoise text := by
  obtain ⟨_, frame, hevent, hparse, hdeliver⟩ :=
    @delivered_eq_some _ session (.receive (.text text)) _ hreceived
  cases hevent
  obtain ⟨hcommand, hhandler, hmessage⟩ := deliver?_eq_some.1 hdeliver
  have hbody : message.body = frame.body := congrArg Inbound.body hmessage
  simp [Subscriptions.isNoise, Inbound.isMeaningful, hparse, hcommand, hhandler, hbody]

/-- What happens without anything that has no meaning being delivered of it. -/
def Opening.silenced (opening : Opening Handler) : Opening Handler :=
  { opening with delivered := opening.delivered.filter (·.2.isMeaningful) }

namespace Manager

/-- What happens is noise: a text that says nothing to the session of its channel. -/
def isNoise (manager : Manager Handler) : Incident → Bool
  | .receive channel (.text text) =>
    (manager.session? channel).all fun session => session.subscriptions.isNoise text
  | _ => false

/-- What happens, without the noise. -/
def heard (manager : Manager Handler) : List Incident → List Incident
  | [] => []
  | incident :: rest =>
    let later := (manager.meet [incident]).1.heard rest
    if manager.isNoise incident then later else incident :: later

/-- What is delivered has a meaning unless it is noise. -/
theorem isMeaningful_of_receive {manager : Manager Handler} {channel : Channel}
    {incoming : SocketEvent} {delivery : Handler × Inbound}
    (hdelivered : (manager.receive channel incoming).2 = some delivery) :
    delivery.2.isMeaningful = !manager.isNoise (.receive channel incoming) := by
  cases hsession : manager.session? channel with
  | none => simp [receive, hsession] at hdelivered
  | some session =>
      have hreceived : (session.receive incoming).2 = some delivery := by
        simpa [receive, hsession] using hdelivered
      obtain ⟨text, _, hevent, _⟩ :=
        @Session.delivered_eq_some _ session (.receive incoming) _ hreceived
      cases hevent
      rw [Session.isMeaningful_of_receive hreceived, isNoise, hsession, Option.all_some]

theorem meet_cons (manager : Manager Handler) (incident : Incident) (rest : List Incident) :
    manager.meet (incident :: rest) =
      (((manager.meet [incident]).1.meet rest).1,
        (manager.meet [incident]).2 ++ ((manager.meet [incident]).1.meet rest).2) := by
  cases incident with
  | receive channel incoming => simp [meet]
  | lose channel reason => simp [meet]

/-- Noise leaves the sessions as they are, and nothing else is taken for it. -/
theorem meet_singleton (manager : Manager Handler) (incident : Incident) :
    if manager.isNoise incident then
      (manager.meet [incident]).1 = manager ∧
        (manager.meet [incident]).2.filter (·.2.isMeaningful) = []
    else (manager.meet [incident]).2.filter (·.2.isMeaningful) = (manager.meet [incident]).2 := by
  cases incident with
  | lose channel reason => rfl
  | receive channel incoming =>
      have hmeet : manager.meet [.receive channel incoming] =
          ((manager.receive channel incoming).1,
            (manager.receive channel incoming).2.toList) := by simp [meet]
      rw [hmeet]
      have hmeaning (delivery : Handler × Inbound)
          (hmem : delivery ∈ (manager.receive channel incoming).2.toList) :=
        isMeaningful_of_receive (Option.mem_toList.1 hmem)
      split
      · next hnoise =>
        constructor
        · cases incoming with
          | text text => exact manager.receive_text channel text
          | _ => cases hnoise
        · rw [List.filter_eq_nil_iff]
          intro delivery hmem
          simp [hmeaning delivery hmem, hnoise]
      · next hheard =>
        rw [List.filter_eq_self]
        intro delivery hmem
        simp [hmeaning delivery hmem, hheard]

/-- Without the noise the sessions come to the same, and the same is delivered but for what has no
meaning. -/
theorem meet_heard (manager : Manager Handler) (incidents : List Incident) :
    manager.meet (manager.heard incidents) =
      ((manager.meet incidents).1,
        (manager.meet incidents).2.filter (·.2.isMeaningful)) := by
  induction incidents generalizing manager with
  | nil => rfl
  | cons incident rest ih =>
      have hfirst := manager.meet_singleton incident
      rw [heard, meet_cons manager incident rest]
      dsimp only
      rw [List.filter_append]
      split at hfirst
      · next hnoise =>
        obtain ⟨hsame, hnothing⟩ := hfirst
        rw [if_pos hnoise, hnothing, hsame]
        exact ih manager
      · next hheard =>
        rw [if_neg hheard, meet_cons manager incident, ih, hfirst]

section

variable (config : Config) (handler : Handler) (attempt : Channel → Attempt)
variable (meanwhile : Task → List Incident)

/-- What happens before each of the tasks, without the noise. -/
def quieted (manager : Manager Handler) : List Task → Task → List Incident
  | [], _ => []
  | task :: rest, asked =>
    if asked = task then manager.heard (meanwhile task)
    else (manager.after config (script handler attempt meanwhile [task])).quieted rest asked

/-- Where nothing happens there is no noise either. -/
theorem quieted_eq_nil {meanwhile : Task → List Incident} (hnothing : ∀ task, meanwhile task = [])
    (manager : Manager Handler) (tasks : List Task) (task : Task) :
    manager.quieted config handler attempt meanwhile tasks task = [] := by
  induction tasks generalizing manager with
  | nil => rfl
  | cons head rest ih =>
      rw [quieted, hnothing]
      split
      · rfl
      · exact ih _

/-- Different tasks go on without the noise as they do with it. -/
theorem work_quieted {tasks : List Task} (hdistinct : tasks.Nodup) (manager : Manager Handler) :
    manager.work config handler attempt
        (manager.quieted config handler attempt meanwhile tasks) tasks =
      (manager.work config handler attempt meanwhile tasks).silenced := by
  induction tasks generalizing manager with
  | nil => rfl
  | cons task rest ih =>
      obtain ⟨hnew, hrest⟩ := List.nodup_cons.1 hdistinct
      have hfirst : manager.quieted config handler attempt meanwhile (task :: rest) task =
          manager.heard (meanwhile task) := if_pos rfl
      have hlater : ∀ later ∈ rest,
          manager.quieted config handler attempt meanwhile (task :: rest) later =
            (manager.after config (script handler attempt meanwhile [task])).quieted config handler
              attempt meanwhile rest later := by
        intro later hmem
        apply if_neg
        rintro rfl
        exact hnew hmem
      obtain ⟨hafter, -, -⟩ := step_of_task config handler attempt meanwhile manager task
      have hfound : (manager.meet (meanwhile task)).1 = manager.found config meanwhile task := by
        rw [(manager.meet_eq config (meanwhile task)).1]
        rfl
      rw [work, work, hfirst, meet_heard]
      simp only [work_congr config handler (fun _ _ => rfl) hlater]
      rw [hfound]
      rcases houtcome : (manager.found config meanwhile task).carryOut config handler attempt task
        with ⟨next, error | _, log⟩
      · rfl
      · rw [houtcome] at hafter
        dsimp only at hafter ⊢
        rw [← hafter, ih hrest]
        simp [Opening.silenced]

/-- Of tasks in a row the later ones meet what they meet behind the earlier ones. -/
theorem quieted_append {first second : List Task} (manager : Manager Handler) {task : Task}
    (hnew : task ∉ first) :
    manager.quieted config handler attempt meanwhile (first ++ second) task =
      (manager.after config (script handler attempt meanwhile first)).quieted config handler
        attempt meanwhile second task := by
  induction first generalizing manager with
  | nil => rfl
  | cons head rest ih =>
      rw [List.mem_cons, not_or] at hnew
      obtain ⟨hother, hrest⟩ := hnew
      rw [List.cons_append, quieted, if_neg hother, ih _ hrest,
        script_cons handler attempt meanwhile head rest, after_append]

/-- The earlier ones do not depend on which come later. -/
theorem quieted_append_of_mem {first second : List Task} (manager : Manager Handler) {task : Task}
    (hmem : task ∈ first) :
    manager.quieted config handler attempt meanwhile (first ++ second) task =
      manager.quieted config handler attempt meanwhile first task := by
  induction first generalizing manager with
  | nil => cases hmem
  | cons head rest ih =>
      rw [List.cons_append, quieted, quieted]
      split
      · rfl
      · next hother => exact ih _ ((List.mem_cons.1 hmem).resolve_left hother)

theorem nodup_wantedTasks : (wantedTasks config).Nodup := by
  unfold wantedTasks
  split <;> decide

/-- Opening the channels goes on without the noise as it does with it. -/
theorem opening_quieted (manager : Manager Handler) :
    manager.opening config handler attempt
        (manager.quieted config handler attempt meanwhile (wantedTasks config)) =
      (manager.opening config handler attempt meanwhile).silenced := by
  have hdistinct := nodup_wantedTasks config
  have hrequired : manager.work config handler attempt
        (manager.quieted config handler attempt meanwhile (wantedTasks config)) requiredTasks =
      (manager.work config handler attempt meanwhile requiredTasks).silenced := by
    rw [← work_quieted config handler attempt meanwhile (List.nodup_append.1 hdistinct).1]
    exact work_congr config handler (fun _ _ => rfl)
      (fun task hmem => quieted_append_of_mem config handler attempt meanwhile manager hmem) _
  have hextra (hgranted : (manager.work config handler attempt meanwhile requiredTasks).result =
        .ok ()) (hrankings : config.rankingsPath.isSome) :
      let required := manager.work config handler attempt meanwhile requiredTasks
      required.manager.work config handler attempt
          (manager.quieted config handler attempt meanwhile (wantedTasks config))
          Channel.feedback.tasks =
        (required.manager.work config handler attempt meanwhile
          Channel.feedback.tasks).silenced := by
    intro required
    have hadmits := (result_work_eq_ok config handler attempt meanwhile manager requiredTasks).1
      hgranted
    have hreached : required.manager =
        manager.after config (script handler attempt meanwhile requiredTasks) :=
      congrArg Opening.manager (work_of_admitsAll config handler attempt meanwhile hadmits)
    rw [wantedTasks, if_pos hrankings] at hdistinct ⊢
    obtain ⟨-, hfeedback, hnew⟩ := List.nodup_append.1 hdistinct
    rw [← work_quieted config handler attempt meanwhile hfeedback]
    refine work_congr config handler (fun _ _ => rfl) (fun task hmem => ?_) _
    rw [hreached]
    exact quieted_append config handler attempt meanwhile manager fun hold =>
      hnew task hold task hmem rfl
  have hkept (opening : Opening Handler) :
      opening.silenced.manager = opening.manager ∧ opening.silenced.result = opening.result :=
    ⟨rfl, rfl⟩
  rw [opening, opening, hrequired]
  simp only [hkept]
  split
  · next hboth =>
    rw [Bool.and_eq_true] at hboth
    obtain ⟨⟨⟩, hgranted⟩ := exists_of_isOk hboth.1
    rw [hextra hgranted hboth.2]
    simp [Opening.silenced]
  · rfl

end

end Manager

end ClassroomClient
