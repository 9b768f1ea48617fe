/-
# Opening the channels that the client needs

The client needs the submit channel and then the control channel, each with all of its topics; the
feedback channel it can do without. Whether that succeeds is up to the server, which can act between
any two tasks. Opening the channels again subscribes nothing twice: a topic that has a handler gets
the new one in its place, so that a message goes to the handler of the last opening and to no other.
-/

import ClassroomClient.Proofs.Session.Ownership
import ClassroomClient.Proofs.Session.Tasks

namespace ClassroomClient

open Stomp

variable {Handler : Type}

/-- The topics of a channel in the order in which they are subscribed. -/
def Channel.listed : Channel → List String
  | submit => ["/topic/messages", "/user/queue/feedback", "/user/queue/compilefeedback"]
  | control => ["/queue/start", "/queue/stop"]
  | feedback => ["/queue/testfeedback"]

theorem Channel.tasks_eq (channel : Channel) :
    channel.tasks = .connect channel :: channel.listed.map (.subscribe channel) := by
  cases channel <;> rfl

theorem Channel.nodup_listed (channel : Channel) : channel.listed.Nodup := by
  cases channel <;> decide

theorem Channel.channel_of_mem_tasks {channel : Channel} {task : Task}
    (hmem : task ∈ channel.tasks) : task.channel = channel := by
  rcases List.mem_cons.1 hmem with rfl | htopic
  · rfl
  · obtain ⟨topic, -, rfl⟩ := List.mem_map.1 htopic
    rfl

namespace Manager

section

variable {config : Config} {handler : Handler} {attempt : Channel → Attempt}
variable {meanwhile : Task → List Incident}

/-! ## Channels beside the one that is opened -/

theorem writtenOn_carryOut_of_ne (manager : Manager Handler) {task : Task} {channel : Channel}
    (hother : task.channel ≠ channel) :
    writtenOn channel (manager.carryOut config handler attempt task).2.2 = [] := by
  cases task with
  | connect other => exact manager.writtenOn_openChannel_of_ne config (attempt other) hother
  | subscribe other topic =>
      have huse : (Operation.subscribe other topic handler).use? =
        some (other, .subscribe topic handler) := rfl
      have hlog := (manager.perform_of_use config huse).2
      change writtenOn channel (manager.perform config (.subscribe other topic handler)).2.log = []
      rw [hlog]
      exact writtenOn_onChannel_of_ne hother _

theorem session?_carryOut_of_ne (manager : Manager Handler) {task : Task} {channel : Channel}
    (hother : task.channel ≠ channel) :
    (manager.carryOut config handler attempt task).1.session? channel =
      manager.session? channel := by
  cases task with
  | connect other =>
      exact manager.session?_openChannel_of_ne config (attempt other) (Ne.symm hother)
  | subscribe other topic =>
      exact manager.session?_subscribe_of_ne topic handler (Ne.symm hother)

/-- Nothing is written on channels of which no task is carried out. -/
theorem writtenOn_script_of_ne (manager : Manager Handler) {tasks : List Task} {channel : Channel}
    (hothers : ∀ task ∈ tasks, task.channel ≠ channel) :
    writtenOn channel (manager.logged config (script handler attempt meanwhile tasks)) = [] := by
  induction tasks generalizing manager with
  | nil => rfl
  | cons task rest ih =>
      obtain ⟨-, hlog, -⟩ := step_of_task config handler attempt meanwhile manager task
      rw [script_cons handler attempt meanwhile task rest, logged_append, writtenOn_append, ← hlog,
        writtenOn_carryOut_of_ne _ (hothers task List.mem_cons_self), List.nil_append]
      exact ih _ fun other hmem => hothers other (List.mem_cons_of_mem _ hmem)

/-- Two managers hold the same sessions on all channels but one. -/
def AgreeOff (channel : Channel) (first second : Manager Handler) : Prop :=
  ∀ other, other ≠ channel → first.session? other = second.session? other

theorem AgreeOff.set {channel : Channel} {first second : Manager Handler}
    (hagree : AgreeOff channel first second) (other : Channel)
    (session : Option (Session Handler)) :
    AgreeOff channel (first.set other session) (second.set other session) := by
  intro any hany
  rw [session?_set, session?_set]
  split
  · rfl
  · exact hagree any hany

/-- What happens on another channel comes to the same for both. -/
theorem AgreeOff.incident {channel : Channel} {first second : Manager Handler}
    (hagree : AgreeOff channel first second) {incident : Incident}
    (hother : incident.channel ≠ channel) :
    AgreeOff channel (first.perform config incident.operation).1
      (second.perform config incident.operation).1 := by
  cases incident with
  | receive other event =>
      change AgreeOff channel (first.receive other event).1 (second.receive other event).1
      rw [Manager.receive, Manager.receive, hagree other hother]
      split
      · exact hagree
      · exact hagree.set _ _
  | lose other reason =>
      change AgreeOff channel (first.lose other reason) (second.lose other reason)
      rw [Manager.lose, Manager.lose, hagree other hother]
      exact hagree.set _ _

/-- What happens on the channel itself is of no concern. -/
theorem agreeOff_incident (manager : Manager Handler) {channel : Channel} {incident : Incident}
    (hown : incident.channel = channel) :
    AgreeOff channel (manager.perform config incident.operation).1 manager := by
  intro other hother
  cases incident with
  | receive named event =>
      cases hown
      have huse : (Operation.receive named event : Operation Handler).use? =
        some (named, .receive event) := rfl
      change (manager.perform config (.receive named event)).1.session? other = _
      rw [(manager.perform_of_use config huse).1]
      exact manager.session?_set_of_ne _ hother
  | lose named reason =>
      cases hown
      exact manager.session?_set_of_ne _ hother

theorem AgreeOff.filtered {channel : Channel} {first second : Manager Handler}
    (hagree : AgreeOff channel first second) (incidents : List Incident) :
    AgreeOff channel (first.after config (incidents.map Incident.operation))
      (second.after config
        ((incidents.filter fun incident => incident.channel ≠ channel).map
          Incident.operation)) := by
  induction incidents generalizing first second with
  | nil => exact hagree
  | cons incident rest ih =>
      by_cases hown : incident.channel = channel
      · rw [List.filter_cons_of_neg (by simpa using hown)]
        refine ih fun other hother => ?_
        rw [first.agreeOff_incident hown other hother, hagree other hother]
      · rw [List.filter_cons_of_pos (by simpa using hown)]
        exact ih (hagree.incident hown)

theorem AgreeOff.incidents {channel : Channel} {first second : Manager Handler}
    (hagree : AgreeOff channel first second) {incidents others : List Incident}
    (hsame : (others.filter fun incident => incident.channel ≠ channel) =
      incidents.filter fun incident => incident.channel ≠ channel) :
    AgreeOff channel (first.after config (incidents.map Incident.operation))
      (second.after config (others.map Incident.operation)) := by
  have hself : AgreeOff channel second second := fun _ _ => rfl
  intro other hother
  rw [hagree.filtered incidents other hother, hself.filtered others other hother, hsame]

/-- A task for another channel comes to the same for both. -/
theorem AgreeOff.carryOut {channel : Channel} {first second : Manager Handler}
    (hagree : AgreeOff channel first second) {task : Task} (hother : task.channel ≠ channel)
    {others : Channel → Attempt} (hattempt : others task.channel = attempt task.channel) :
    AgreeOff channel (first.carryOut config handler attempt task).1
        (second.carryOut config handler others task).1 ∧
      (second.carryOut config handler others task).2.1 =
        (first.carryOut config handler attempt task).2.1 := by
  cases task with
  | subscribe other topic =>
      simp only [Manager.carryOut, Manager.subscribe, hagree other hother]
      split
      · exact ⟨hagree, rfl⟩
      · exact ⟨hagree.set _ _, rfl⟩
  | connect other =>
      have hsame : first.session? other = second.session? other := hagree other hother
      have hdiscarded := hagree.set other none
      simp only [Task.channel] at hattempt
      simp only [Manager.carryOut, Manager.openChannel, isConnected, hsame, discard_eq, hattempt]
      split
      · exact ⟨hagree, rfl⟩
      · split
        · exact ⟨hdiscarded, rfl⟩
        · exact ⟨hdiscarded.set _ _, rfl⟩

/-- Tasks for other channels have the same result, whatever happens on this one. -/
theorem AgreeOff.result_work {channel : Channel} {first second : Manager Handler}
    (hagree : AgreeOff channel first second) {tasks : List Task}
    (hothers : ∀ task ∈ tasks, task.channel ≠ channel) {others : Channel → Attempt}
    (hattempt : ∀ other, other ≠ channel → others other = attempt other)
    {otherwise : Task → List Incident}
    (hsame : ∀ task ∈ tasks,
      ((otherwise task).filter fun incident => incident.channel ≠ channel) =
        (meanwhile task).filter fun incident => incident.channel ≠ channel) :
    (second.work config handler others otherwise tasks).result =
      (first.work config handler attempt meanwhile tasks).result := by
  induction tasks generalizing first second with
  | nil => rfl
  | cons task rest ih =>
      have hother := hothers task List.mem_cons_self
      have hfound : AgreeOff channel (first.found config meanwhile task)
          (second.found config otherwise task) :=
        hagree.incidents (hsame task List.mem_cons_self)
      obtain ⟨hnext, hresult⟩ := @AgreeOff.carryOut _ config handler attempt _ _ _ hfound _ hother
        _ (hattempt _ hother)
      rw [(step_of_task config handler attempt meanwhile first task).1,
        (step_of_task config handler others otherwise second task).1] at hnext
      cases hfirst : ((first.found config meanwhile task).carryOut config handler attempt
        task).2.1 with
      | error error =>
          rw [work_cons_of_failed config handler attempt meanwhile hfirst,
            work_cons_of_failed config handler others otherwise (hresult.trans hfirst)]
          rfl
      | ok _ =>
          rw [work_cons_of_admitted config handler attempt meanwhile
              ((result_carryOut_eq_ok config handler attempt _ task).1 hfirst),
            work_cons_of_admitted config handler others otherwise
              ((result_carryOut_eq_ok config handler others _ task).1 (hresult.trans hfirst))]
          exact ih hnext (fun other hmem => hothers other (List.mem_cons_of_mem _ hmem))
            fun other hmem => hsame other (List.mem_cons_of_mem _ hmem)

/-! ## What is written for a channel -/

/-- What happens leaves the tables of a session as they are. -/
theorem exists_found (manager : Manager Handler) {channel : Channel} {session : Session Handler}
    (hsession : manager.session? channel = some session) (task : Task) :
    ∃ later, (manager.found config meanwhile task).session? channel = some later ∧
      later.subscriptions = session.subscriptions := by
  rw [found]
  generalize meanwhile task = incidents
  induction incidents generalizing manager session with
  | nil => exact ⟨session, hsession, rfl⟩
  | cons incident rest ih =>
      have hstep {use : Session.Operation Handler} {other : Channel}
          (huse : (incident.operation : Operation Handler).use? = some (other, use))
          (hquiet : ∀ topic handler, use ≠ .subscribe topic handler) :
          ∃ later, (manager.perform config incident.operation).1.session? channel = some later ∧
            later.subscriptions = session.subscriptions := by
        rw [(manager.perform_of_use config huse).1, session?_set]
        split
        · next hsame =>
          rw [← hsame, hsession]
          refine ⟨_, rfl, ?_⟩
          rcases (session.kept_perform use).2 with hkept | ⟨topic, again, hsubscribe, -⟩
          · exact hkept
          · exact absurd hsubscribe (hquiet topic again)
        · exact ⟨session, hsession, rfl⟩
      obtain ⟨later, hlater, hkept⟩ : ∃ later,
          (manager.perform config incident.operation).1.session? channel = some later ∧
            later.subscriptions = session.subscriptions := by
        cases incident with
        | receive other event => exact hstep rfl (by simp)
        | lose other reason => exact hstep rfl (by simp)
      obtain ⟨last, hlast, hsame⟩ := ih _ hlater
      exact ⟨last, hlast, hsame.trans hkept⟩

/-- A subscription is the matter of the session that is found. -/
theorem exists_subscribe_task (manager : Manager Handler) {channel : Channel}
    {session : Session Handler} (hsession : manager.session? channel = some session)
    (topic : String) :
    let operations := script handler attempt meanwhile [.subscribe channel topic]
    ∃ later, (manager.found config meanwhile (.subscribe channel topic)).session? channel =
        some later ∧
      later.subscriptions = session.subscriptions ∧
      (manager.after config operations).session? channel =
        some (later.subscribe topic handler).1 ∧
      writtenOn channel (manager.logged config operations) =
        (later.subscribe topic handler).2.2 := by
  intro operations
  obtain ⟨later, hlater, hkept⟩ := @exists_found _ config meanwhile manager _ _ hsession
    (.subscribe channel topic)
  obtain ⟨hafter, hlog, -⟩ :=
    step_of_task config handler attempt meanwhile manager (.subscribe channel topic)
  simp only [carryOut, Manager.subscribe, hlater] at hafter hlog
  refine ⟨later, hlater, hkept, ?_, ?_⟩
  · rw [← hafter, session?_set, if_pos rfl]
  · rw [← hlog, writtenOn_onChannel]

/-- New topics of a channel are told to the server one after the other. -/
theorem written_of_subscriptions {manager : Manager Handler} {channel : Channel}
    {session : Session Handler} (hsession : manager.session? channel = some session)
    {number : Nat} (hnumber : session.subscriptions.nextId = .ofNat number)
    {topics : List String} (hdistinct : topics.Nodup)
    (hnew : ∀ topic ∈ topics, session.subscriptions.handlers.contains topic = false)
    (hadmits : manager.AdmitsAll config handler attempt meanwhile
      (topics.map (.subscribe channel))) :
    writtenOn channel (manager.logged config
        (script handler attempt meanwhile (topics.map (.subscribe channel)))) =
      (subscribeFrames number topics).map (.text ·.encode) := by
  induction topics generalizing manager session number with
  | nil => rfl
  | cons topic rest ih =>
      obtain ⟨⟨_, hfound, haccepts⟩, hrest⟩ := hadmits
      obtain ⟨htopic, hdistinct⟩ := List.nodup_cons.1 hdistinct
      obtain ⟨hnone, hnew⟩ := List.forall_mem_cons.1 hnew
      obtain ⟨later, hlater, hkept, hafter, hlog⟩ := @exists_subscribe_task _ config handler attempt
        meanwhile manager _ _ hsession topic
      obtain rfl := Option.some.inj (hlater.symm.trans hfound)
      rw [← hkept] at hnumber hnone hnew
      have hlive : later.IsLive := by
        rcases List.forall_mem_singleton.1 haccepts.subscribed with hold | ⟨hwritable, hreached⟩
        · rw [hnone] at hold
          cases hold
        · exact ⟨haccepts.connected, hwritable, hreached⟩
      rw [hlive.subscribe_of_not_contains hnone] at hafter hlog
      have hnumber' : (later.subscriptions.register topic handler).1.nextId =
          .ofNat (number + 1) := by
        rw [Subscriptions.register, if_neg (by simp [hnone]), UInt32.ofNat_add, hnumber]
        rfl
      have hnew' : ∀ name ∈ rest,
          (later.subscriptions.register topic handler).1.handlers.contains name = false := by
        intro name hmem
        rw [Bool.eq_false_iff, Subscriptions.handlers_register, ne_eq, Dictionary.contains_insert,
          hnew name hmem]
        rintro (rfl | hold)
        · exact htopic hmem
        · cases hold
      rw [List.map_cons, script_cons handler attempt meanwhile (.subscribe channel topic),
        logged_append, writtenOn_append, hlog, ih hafter hnumber' hdistinct hnew' hrest, hnumber]
      rfl

/-- The session of a channel has handlers for these topics. -/
def Knows (topics : List String) (session? : Option (Session Handler)) : Prop :=
  ∃ session ∈ session?, ∀ topic ∈ topics, session.subscriptions.handlers.contains topic = true

/-- A topic with a handler is not told to the server again, and no handler is lost. -/
theorem silent_subscribe {session : Session Handler} {topics : List String} {topic : String}
    (hknown : ∀ name ∈ topics, session.subscriptions.handlers.contains name = true)
    (hmem : topic ∈ topics) :
    (session.subscribe topic handler).2.2 = [] ∧
      Knows topics (some (session.subscribe topic handler).1) := by
  by_cases hconnected : session.isConnected = true
  · rw [Session.subscribe_of_contains hconnected (hknown topic hmem)]
    refine ⟨rfl, _, rfl, fun name hname => ?_⟩
    rw [Subscriptions.handlers_register, Dictionary.contains_insert]
    exact .inr (hknown name hname)
  · rw [Session.subscribe_of_not_connected (Bool.eq_false_iff.2 hconnected)]
    exact ⟨rfl, session, rfl, hknown⟩

/-- Where all topics have handlers, subscribing to them again writes nothing. -/
theorem writtenOn_eq_nil_of_knows {manager : Manager Handler} {channel : Channel}
    {topics : List String} (hknows : Knows topics (manager.session? channel)) {tasks : List Task}
    (htasks : ∀ task ∈ tasks, task.channel = channel →
      ∃ topic ∈ topics, task = .subscribe channel topic) :
    writtenOn channel
      (manager.logged config (script handler attempt meanwhile tasks)) = [] := by
  induction tasks generalizing manager with
  | nil => rfl
  | cons task rest ih =>
      obtain ⟨hfirst, hrest⟩ := List.forall_mem_cons.1 htasks
      obtain ⟨session, hsession, hknown⟩ := hknows
      rw [script_cons handler attempt meanwhile task rest, logged_append, writtenOn_append,
        List.append_eq_nil_iff]
      by_cases hown : task.channel = channel
      · obtain ⟨topic, hmem, rfl⟩ := hfirst hown
        obtain ⟨later, -, hkept, hafter, hlog⟩ := @exists_subscribe_task _ config handler attempt
          meanwhile manager _ _ hsession topic
        rw [← hkept] at hknown
        obtain ⟨hsilent, hstill⟩ := @silent_subscribe _ handler _ _ _ hknown hmem
        rw [← hafter] at hstill
        exact ⟨hlog.trans hsilent, ih hstill hrest⟩
      · obtain ⟨later, hlater, hkept⟩ :=
          @exists_found _ config meanwhile manager _ _ hsession task
        obtain ⟨hafter, -, -⟩ := step_of_task config handler attempt meanwhile manager task
        refine ⟨writtenOn_script_of_ne manager (List.forall_mem_singleton.2 hown), ih ?_ hrest⟩
        refine ⟨later, ?_, by rwa [hkept]⟩
        rw [← hafter, session?_carryOut_of_ne _ hown]
        exact hlater

end

/-! ## What opening the channels comes to -/

section

variable (config : Config) (handler : Handler) (attempt : Channel → Attempt)
variable (meanwhile : Task → List Incident)

/-- The tasks that stand before those of a channel. -/
def tasksBefore : Channel → List Task
  | .submit => []
  | .control => Channel.submit.tasks
  | .feedback => requiredTasks

/-- The manager as it is when it comes to the tasks of a channel. -/
def comingTo (manager : Manager Handler) (channel : Channel) : Manager Handler :=
  manager.after config (script handler attempt meanwhile (tasksBefore channel))

/-- A channel can be served: it is still connected or a new connection is granted, and then all of
its topics are accepted, each task in the state that it finds. -/
def Serves (manager : Manager Handler) (channel : Channel) : Prop :=
  (manager.comingTo config handler attempt meanwhile channel).AdmitsAll config handler attempt
    meanwhile (.connect channel :: channel.listed.map (.subscribe channel))

/-- A channel that is not contacted: nothing is done and nothing is written there, and it makes no
difference what an attempt to connect would have met. -/
structure LeavesAlone (manager : Manager Handler) (channel : Channel) : Prop where
  untouched : ∀ operation ∈ manager.performed config handler attempt meanwhile,
    (∀ attempt, operation ≠ .openChannel channel attempt) ∧
      ∀ topic handler, operation ≠ .subscribe channel topic handler
  silent : writtenOn channel (manager.opening config handler attempt meanwhile).log = []
  untried : ∀ others : Channel → Attempt,
    (∀ other, other ≠ channel → others other = attempt other) →
    manager.opening config handler others meanwhile =
      manager.opening config handler attempt meanwhile

/-- What opening the channels comes to, whatever sessions there are and whatever the server does
before and between the tasks. -/
structure Starts (manager : Manager Handler) : Prop where
  /-- It is a run of the manager. -/
  runs : manager.opening config handler attempt meanwhile =
    manager.ran config (manager.performed config handler attempt meanwhile)
      (manager.opening config handler attempt meanwhile).result
  /-- It succeeds when the two required channels can be served. -/
  result_eq_ok : (manager.opening config handler attempt meanwhile).result = .ok () ↔
    manager.Serves config handler attempt meanwhile .submit ∧
      manager.Serves config handler attempt meanwhile .control
  /-- What happens on the feedback channel makes no difference to that. -/
  undisturbed : ∀ (other : Manager Handler) (others : Channel → Attempt)
    (otherwise : Task → List Incident),
    (∀ channel, channel ≠ .feedback →
      other.session? channel = manager.session? channel ∧ others channel = attempt channel) →
    (∀ task ∈ requiredTasks,
      ((otherwise task).filter fun incident => incident.channel ≠ .feedback) =
        (meanwhile task).filter fun incident => incident.channel ≠ .feedback) →
    (other.opening config handler others otherwise).result =
      (manager.opening config handler attempt meanwhile).result
  without_submit : ¬ manager.Serves config handler attempt meanwhile .submit →
    ∀ channel, channel ≠ .submit → manager.LeavesAlone config handler attempt meanwhile channel
  without_control : ¬ manager.Serves config handler attempt meanwhile .control →
    manager.LeavesAlone config handler attempt meanwhile .feedback
  without_rankings : config.rankingsPath = none →
    manager.LeavesAlone config handler attempt meanwhile .feedback
  /-- When it succeeds, each topic of a required channel is subscribed once on a new session, in the
  order of the list. -/
  subscribed : (manager.opening config handler attempt meanwhile).result = .ok () →
    ∀ channel, channel ≠ .feedback →
      let found := (manager.comingTo config handler attempt meanwhile channel).found config
        meanwhile (.connect channel)
      found.isConnected channel = false →
      ∃ url asked, config.channelUrl channel = .ok url ∧
        Writes [] (channel.listed.map Call.subscription) asked ∧
        writtenOn channel (manager.opening config handler attempt meanwhile).log =
          farewell (found.session? channel) ++
            .opened :: .text ("CONNECT\naccept-version:1.1,1.2\nhost:" ++ Session.hostName url ++
              "\nheart-beat:0,0\n\n\x00") :: asked.map .text
  /-- On a session that is connected and has all topics nothing is written. -/
  silent : ∀ channel session,
    let found := (manager.comingTo config handler attempt meanwhile channel).found config meanwhile
      (.connect channel)
    found.session? channel = some session → session.isConnected = true →
    (∀ topic ∈ channel.listed, session.subscriptions.handlers.contains topic = true) →
    writtenOn channel (manager.opening config handler attempt meanwhile).log = []

/-- The result of an opening is that of the required tasks. -/
theorem result_opening (manager : Manager Handler) :
    (manager.opening config handler attempt meanwhile).result =
      (manager.work config handler attempt meanwhile requiredTasks).result := by
  rw [opening_eq]
  rfl

theorem result_opening_eq_ok (manager : Manager Handler) :
    (manager.opening config handler attempt meanwhile).result = .ok () ↔
      manager.Serves config handler attempt meanwhile .submit ∧
        manager.Serves config handler attempt meanwhile .control := by
  rw [result_opening, result_work_eq_ok, requiredTasks, admitsAll_append, Serves, Serves,
    ← Channel.tasks_eq, ← Channel.tasks_eq]
  rfl

theorem log_opening (manager : Manager Handler) :
    (manager.opening config handler attempt meanwhile).log =
      manager.logged config (script handler attempt meanwhile
        (manager.carriedOut config handler attempt meanwhile (wantedTasks config))) := by
  rw [opening_eq]
  rfl

/-- An opening in which no task of a channel is carried out leaves the channel alone. -/
theorem leavesAlone_of {manager : Manager Handler} {channel : Channel}
    (hothers : ∀ task ∈ manager.carriedOut config handler attempt meanwhile (wantedTasks config),
      task.channel ≠ channel)
    (huntried : ∀ others : Channel → Attempt,
      (∀ other, other ≠ channel → others other = attempt other) →
      manager.opening config handler others meanwhile =
        manager.opening config handler attempt meanwhile) :
    manager.LeavesAlone config handler attempt meanwhile channel := by
  refine ⟨?_, ?_, huntried⟩
  · intro operation hmem
    obtain ⟨task, htask, ⟨incident, -, hincident⟩ | hoperation⟩ :=
      (mem_script handler attempt meanwhile).1 hmem
    · cases incident <;> cases hincident <;> exact ⟨nofun, nofun⟩
    · have hother := hothers task htask
      rw [hoperation]
      cases task with
      | connect named => exact ⟨fun _ hsame => hother (by cases hsame; rfl), nofun⟩
      | subscribe named topic => exact ⟨nofun, fun _ _ hsame => hother (by cases hsame; rfl)⟩
  · rw [log_opening]
    exact writtenOn_script_of_ne manager hothers

/-- Without the submit channel no other one is contacted. -/
theorem leavesAlone_without_submit {manager : Manager Handler}
    (hsubmit : ¬ manager.Serves config handler attempt meanwhile .submit) {channel : Channel}
    (hchannel : channel ≠ .submit) :
    manager.LeavesAlone config handler attempt meanwhile channel := by
  rw [Serves, ← Channel.tasks_eq] at hsubmit
  have hrefuses : ¬ manager.AdmitsAll config handler attempt meanwhile Channel.submit.tasks :=
    hsubmit
  apply leavesAlone_of
  · intro task hmem
    rw [wantedTasks, requiredTasks, List.append_assoc,
      carriedOut_append_of_not_admitsAll config handler attempt meanwhile hrefuses] at hmem
    have htask := (carriedOut_initial config handler attempt meanwhile manager _).subset hmem
    rw [Channel.channel_of_mem_tasks htask]
    exact Ne.symm hchannel
  · intro others hothers
    have hsame : manager.work config handler others meanwhile Channel.submit.tasks =
        manager.work config handler attempt meanwhile Channel.submit.tasks := by
      refine work_congr config handler (fun other hmem => hothers other ?_) (fun _ _ => rfl) _
      rw [show other = .submit from Channel.channel_of_mem_tasks hmem]
      exact Ne.symm hchannel
    have hrefuses' : ¬ manager.AdmitsAll config handler others meanwhile
        Channel.submit.tasks := by
      rw [← result_work_eq_ok, hsame, result_work_eq_ok]
      exact hrefuses
    have hended : (manager.work config handler attempt meanwhile
        Channel.submit.tasks).result.isOk = false := by
      rw [Bool.eq_false_iff]
      intro hok
      obtain ⟨_, hgranted⟩ := exists_of_isOk hok
      exact hrefuses ((result_work_eq_ok config handler attempt meanwhile _ _).1 hgranted)
    simp only [opening, requiredTasks,
      work_append_of_not_admitsAll config handler attempt meanwhile hrefuses,
      work_append_of_not_admitsAll config handler others meanwhile hrefuses', hsame, hended,
      Bool.false_and, Bool.false_eq_true, if_false]

/-- Without the control channel, or without rankings, the feedback channel is not contacted. -/
theorem leavesAlone_feedback {manager : Manager Handler}
    (hspared : ¬ manager.AdmitsAll config handler attempt meanwhile requiredTasks ∨
      config.rankingsPath = none) :
    manager.LeavesAlone config handler attempt meanwhile .feedback := by
  have hrequired : ∀ task ∈ requiredTasks, task.channel ≠ .feedback := by decide
  apply leavesAlone_of
  · have hdone : manager.carriedOut config handler attempt meanwhile (wantedTasks config) =
        manager.carriedOut config handler attempt meanwhile requiredTasks := by
      rw [wantedTasks]
      rcases hspared with hrefuses | hnone
      · exact carriedOut_append_of_not_admitsAll config handler attempt meanwhile hrefuses _
      · simp [hnone]
    rw [hdone]
    intro task hmem
    exact hrequired task
      ((carriedOut_initial config handler attempt meanwhile manager _).subset hmem)
  · intro others hothers
    have hsame : manager.work config handler others meanwhile requiredTasks =
        manager.work config handler attempt meanwhile requiredTasks := by
      exact work_congr config handler (fun other hmem => hothers other (hrequired _ hmem))
        (fun _ _ => rfl) _
    have hended : ((manager.work config handler attempt meanwhile requiredTasks).result.isOk &&
        config.rankingsPath.isSome) = false := by
      rcases hspared with hrefuses | hnone
      · rw [Bool.and_eq_false_iff]
        left
        rw [Bool.eq_false_iff]
        intro hok
        obtain ⟨_, hgranted⟩ := exists_of_isOk hok
        exact hrefuses ((result_work_eq_ok config handler attempt meanwhile _ _).1 hgranted)
      · rw [hnone, Option.isSome_none, Bool.and_false]
    simp only [opening, hsame, hended, Bool.false_eq_true, if_false]

/-- What is written on a channel is written for its own tasks. -/
theorem writtenOn_script_append (manager : Manager Handler) {channel : Channel}
    {before tasks behind : List Task} (hbefore : ∀ task ∈ before, task.channel ≠ channel)
    (hbehind : ∀ task ∈ behind, task.channel ≠ channel) :
    writtenOn channel (manager.logged config
        (script handler attempt meanwhile (before ++ (tasks ++ behind)))) =
      writtenOn channel ((manager.after config (script handler attempt meanwhile before)).logged
        config (script handler attempt meanwhile tasks)) := by
  rw [script_append, script_append, logged_append, logged_append, writtenOn_append,
    writtenOn_append, writtenOn_script_of_ne manager hbefore, writtenOn_script_of_ne _ hbehind,
    List.nil_append, List.append_nil]

/-- On a channel that is opened anew, the handshake is followed by the subscriptions. -/
theorem written_of_admitsAll {manager : Manager Handler} {channel : Channel}
    (hadmits : manager.AdmitsAll config handler attempt meanwhile
      (.connect channel :: channel.listed.map (.subscribe channel)))
    (hended : (manager.found config meanwhile (.connect channel)).isConnected channel = false) :
    ∃ url asked, config.channelUrl channel = .ok url ∧
      Writes [] (channel.listed.map Call.subscription) asked ∧
      writtenOn channel (manager.logged config (script handler attempt meanwhile
          (.connect channel :: channel.listed.map (.subscribe channel)))) =
        farewell ((manager.found config meanwhile (.connect channel)).session? channel) ++
          .opened :: .text ("CONNECT\naccept-version:1.1,1.2\nhost:" ++ Session.hostName url ++
            "\nheart-beat:0,0\n\n\x00") :: asked.map .text := by
  obtain ⟨hfirst, hrest⟩ := hadmits
  obtain ⟨hafter, hlog, -⟩ :=
    step_of_task config handler attempt meanwhile manager (.connect channel)
  rw [← hafter] at hrest
  rw [script_cons handler attempt meanwhile (.connect channel), logged_append, ← hlog, ← hafter]
  rw [← result_carryOut_eq_ok config handler] at hfirst
  generalize manager.found config meanwhile (.connect channel) = found at hfirst hrest hended ⊢
  rw [carryOut] at hfirst hrest ⊢
  rcases found.openChannel_cases config channel (attempt channel) with
    ⟨session, written, hprovides, hopen⟩ | ⟨error, written, hdenies, hopen⟩
  · rw [hopen] at hrest ⊢
    have hstale := isConnected_eq_false.1 hended
    generalize found.session? channel = stale? at hprovides hstale ⊢
    cases hprovides with
    | kept hconnected =>
        rw [hstale session rfl] at hconnected
        cases hconnected
    | @opened _ fresh shown _ hopened =>
        obtain ⟨url, hurl, rfl⟩ := Session.url_of_connect hopened
        have htaken := (Session.isFresh_of_connect hopened).receiveEarly (attempt channel |>.behind
          channel)
        rw [Session.receiveEarly_eq_after] at htaken
        generalize fresh.after _ = session at htaken hrest ⊢
        have hnumber : session.subscriptions.nextId = .ofNat 0 := by
          rw [htaken.unsubscribed]
          rfl
        have hnew : ∀ topic ∈ channel.listed,
            session.subscriptions.handlers.contains topic = false := by
          intro topic _
          rw [htaken.unsubscribed]
          rfl
        have hsession : (found.set channel (some session)).session? channel = some session :=
          if_pos rfl
        refine ⟨url, (subscribeFrames 0 channel.listed).map Frame.encode, hurl,
          writes_subscribeFrames channel.nodup_listed, ?_⟩
        rw [writtenOn_append, writtenOn_onChannel, written_of_subscriptions hsession hnumber
          channel.nodup_listed hnew hrest, encode_connectFrame, List.map_map, List.append_assoc]
        rfl
  · rw [hopen] at hfirst
    cases hfirst

/-- A session that is connected and has all topics is left as it is when its channel is opened. -/
theorem written_eq_nil_of_knows {manager : Manager Handler} {channel : Channel}
    {session : Session Handler}
    (hsession : (manager.found config meanwhile (.connect channel)).session? channel =
      some session) (hconnected : session.isConnected = true)
    (hknown : ∀ topic ∈ channel.listed, session.subscriptions.handlers.contains topic = true)
    {tasks : List Task}
    (htasks : ∀ task ∈ tasks, task.channel = channel →
      ∃ topic ∈ channel.listed, task = .subscribe channel topic) :
    writtenOn channel (manager.logged config
      (script handler attempt meanwhile (.connect channel :: tasks))) = [] := by
  obtain ⟨hafter, hlog, -⟩ :=
    step_of_task config handler attempt meanwhile manager (.connect channel)
  have hopen : (manager.found config meanwhile (.connect channel)).openChannel config channel
      (attempt channel) = (manager.found config meanwhile (.connect channel), .ok (), []) := by
    rw [openChannel, if_pos (by rw [isConnected, hsession]; exact hconnected)]
  rw [carryOut, hopen] at hafter hlog
  rw [script_cons handler attempt meanwhile (.connect channel), logged_append, ← hlog, ← hafter]
  exact writtenOn_eq_nil_of_knows ⟨session, hsession, hknown⟩ htasks

/-- The tasks of a channel that is wanted stand between those of the others. -/
theorem exists_wantedTasks {channel : Channel}
    (hwanted : channel = .feedback → config.rankingsPath.isSome) :
    ∃ behind, wantedTasks config = tasksBefore channel ++ (channel.tasks ++ behind) ∧
      (∀ task ∈ tasksBefore channel, task.channel ≠ channel) ∧
      ∀ task ∈ behind, task.channel ≠ channel := by
  have hextra : ∀ task ∈ (if config.rankingsPath.isSome then Channel.feedback.tasks else []),
      task.channel = .feedback := by
    intro task hmem
    split at hmem
    · exact Channel.channel_of_mem_tasks hmem
    · cases hmem
  cases channel with
  | submit =>
      refine ⟨Channel.control.tasks ++ if config.rankingsPath.isSome then Channel.feedback.tasks
        else [], by rw [wantedTasks, requiredTasks, List.append_assoc]; rfl,
        List.forall_mem_nil _, List.forall_mem_append.2 ⟨by decide, ?_⟩⟩
      intro task hmem
      rw [hextra task hmem]
      decide
  | control =>
      refine ⟨_, by rw [wantedTasks, requiredTasks, List.append_assoc]; rfl, by decide, ?_⟩
      intro task hmem
      rw [hextra task hmem]
      decide
  | feedback =>
      exact ⟨[], by rw [wantedTasks, if_pos (hwanted rfl)]; rfl, by decide, List.forall_mem_nil _⟩

/-- When all goes well, each required channel is carried out as a whole. -/
theorem writtenOn_opening {manager : Manager Handler}
    (hgranted : (manager.opening config handler attempt meanwhile).result = .ok ())
    {channel : Channel} (hrequired : channel ≠ .feedback) :
    writtenOn channel (manager.opening config handler attempt meanwhile).log =
      writtenOn channel ((manager.comingTo config handler attempt meanwhile channel).logged config
        (script handler attempt meanwhile channel.tasks)) := by
  rw [result_opening, result_work_eq_ok] at hgranted
  obtain ⟨behind, htasks, hbefore, hbehind⟩ :=
    @exists_wantedTasks config channel fun hfeedback => absurd hfeedback hrequired
  obtain ⟨rest, hrest⟩ : tasksBefore channel ++ channel.tasks <+: requiredTasks := by
    cases channel with
    | submit => decide
    | control => decide
    | feedback => exact absurd rfl hrequired
  have hdone := carriedOut_append config handler attempt meanwhile hgranted
    (if config.rankingsPath.isSome then Channel.feedback.tasks else [])
  have hinitial := carriedOut_initial config handler attempt meanwhile manager (wantedTasks config)
  rw [← wantedTasks] at hdone
  generalize (manager.after config (script handler attempt meanwhile requiredTasks)).carriedOut
    config handler attempt meanwhile _ = more at hdone
  rw [hdone, ← hrest, htasks, ← List.append_assoc (tasksBefore channel),
    List.append_assoc (tasksBefore channel ++ channel.tasks), List.prefix_append_right_inj]
    at hinitial
  rw [log_opening, hdone, ← hrest, List.append_assoc, List.append_assoc]
  exact writtenOn_script_append config handler attempt meanwhile manager hbefore
    fun task hmem => hbehind task (hinitial.subset hmem)

/-- On a session that is connected and has all topics nothing is written, whether or not its channel
is reached. -/
theorem writtenOn_opening_of_knows {manager : Manager Handler} {channel : Channel}
    {session : Session Handler}
    (hsession : ((manager.comingTo config handler attempt meanwhile channel).found config meanwhile
      (.connect channel)).session? channel = some session) (hconnected : session.isConnected = true)
    (hknown : ∀ topic ∈ channel.listed, session.subscriptions.handlers.contains topic = true) :
    writtenOn channel (manager.opening config handler attempt meanwhile).log = [] := by
  by_cases hwanted : channel = .feedback → config.rankingsPath.isSome
  · obtain ⟨behind, htasks, hbefore, hbehind⟩ := exists_wantedTasks config hwanted
    rw [log_opening]
    have hinitial :=
      carriedOut_initial config handler attempt meanwhile manager (wantedTasks config)
    generalize manager.carriedOut config handler attempt meanwhile (wantedTasks config) = done
      at hinitial ⊢
    rw [htasks] at hinitial
    rcases List.prefix_or_prefix_of_prefix hinitial (List.prefix_append _ _) with
      hearly | ⟨more, rfl⟩
    · exact writtenOn_script_of_ne manager fun task hmem => hbefore task (hearly.subset hmem)
    · rw [List.prefix_append_right_inj, Channel.tasks_eq, List.cons_append] at hinitial
      rw [script_append, logged_append, writtenOn_append, writtenOn_script_of_ne manager hbefore,
        List.nil_append]
      cases more with
      | nil => rfl
      | cons task rest =>
          obtain ⟨rfl, hrest⟩ := List.cons_prefix_cons.1 hinitial
          apply written_eq_nil_of_knows config handler attempt meanwhile hsession hconnected hknown
          intro task hmem hown
          rcases List.mem_append.1 (hrest.subset hmem) with htopic | hother
          · obtain ⟨topic, hlisted, rfl⟩ := List.mem_map.1 htopic
            exact ⟨topic, hlisted, rfl⟩
          · exact absurd hown (hbehind task hother)
  · obtain ⟨rfl, hrankings⟩ := Classical.not_imp.1 hwanted
    exact (leavesAlone_feedback config handler attempt meanwhile
      (.inr (Option.not_isSome_iff_eq_none.1 hrankings))).silent

theorem starts (manager : Manager Handler) : manager.Starts config handler attempt meanwhile := by
  constructor
  · rw [result_opening]
    exact opening_eq config handler attempt meanwhile manager
  · exact result_opening_eq_ok config handler attempt meanwhile manager
  · intro other others otherwise hagree hsame
    rw [result_opening, result_opening]
    have hsessions : AgreeOff .feedback manager other :=
      fun channel hchannel => ((hagree channel hchannel).1).symm
    exact hsessions.result_work (by decide) (fun channel hchannel => (hagree channel hchannel).2)
      hsame
  · intro hsubmit channel hchannel
    exact leavesAlone_without_submit config handler attempt meanwhile hsubmit hchannel
  · intro hcontrol
    apply leavesAlone_feedback
    left
    rw [← result_work_eq_ok, ← result_opening, result_opening_eq_ok]
    exact fun hboth => hcontrol hboth.2
  · intro hrankings
    exact leavesAlone_feedback config handler attempt meanwhile (.inr hrankings)
  · intro hgranted channel hrequired found hended
    obtain ⟨hsubmit, hcontrol⟩ :=
      (result_opening_eq_ok config handler attempt meanwhile manager).1 hgranted
    have hserves : manager.Serves config handler attempt meanwhile channel := by
      cases channel with
      | submit => exact hsubmit
      | control => exact hcontrol
      | feedback => exact absurd rfl hrequired
    rw [writtenOn_opening config handler attempt meanwhile hgranted hrequired, Channel.tasks_eq]
    exact written_of_admitsAll config handler attempt meanwhile hserves hended
  · intro channel session found hsession hconnected hknown
    exact writtenOn_opening_of_knows config handler attempt meanwhile hsession hconnected hknown

end

/-! ## The handler of the last opening -/

/-- As long as a session that is held is connected, its tables are those of the subscriptions on its
connection. -/
theorem Carries.told {config : Config} {channel : Channel} {session : Session Handler}
    {connection : Connection} (hcarries : Carries config channel session connection)
    (hconnected : session.isConnected = true) : session.Told connection.texts := by
  obtain ⟨url, operations, -, hlent, rfl, htexts⟩ := hcarries.history
  have hempty : ({ channel } : Session Handler).Told [] := by
    constructor
    · exact fun _ => rfl
    · intro topic
      simp [Dictionary.contains, destinations]
  have hconnect : subscription? (connectFrame (Session.hostName url)).encode = none :=
    subscription?_encode_of_ne (by simp [connectFrame, Frame.bare])
  have hstart : ({ channel } : Session Handler).Told
      ([] ++ [(connectFrame (Session.hostName url)).encode]) :=
    hempty.of_silent rfl (fun _ => Iff.rfl) (by simp [hconnect])
  rw [htexts]
  exact hstart.after (Session.isHeld_new channel) hlent hconnected

/-- Whether a handler is the only one that the session of a channel can have for a topic. -/
def Feeds (handler : Handler) (topic : String) (session? : Option (Session Handler)) : Prop :=
  ∀ session ∈ session?, session.isConnected = true →
    ∀ other, session.subscriptions.handlers.find? topic = some other → other = handler

/-- A subscription puts its handler in the place of the one before. A session that does not grant it
is not connected any more. -/
theorem feeds_of_subscribe {manager : Manager Handler} {channel : Channel}
    (hheld : ∀ session ∈ manager.session? channel, session.isWritable = true) (config : Config)
    (topic : String) (handler : Handler) :
    Feeds handler topic
      ((manager.perform config (.subscribe channel topic handler)).1.session? channel) := by
  have huse : (Operation.subscribe channel topic handler).use? =
    some (channel, .subscribe topic handler) := rfl
  rw [(manager.perform_of_use config huse).1, session?_set, if_pos rfl]
  intro session hsession hconnected other hfind
  obtain ⟨earlier, hearlier, rfl⟩ := Option.map_eq_some_iff.1 hsession
  rw [Session.perform_subscribe] at hconnected hfind
  cases hresult : (earlier.subscribe topic handler).2.1 with
  | ok _ =>
      rw [Session.subscribe_of_ok hresult, Subscriptions.handlers_register,
        Dictionary.find?_insert, if_pos rfl] at hfind
      exact (Option.some.inj hfind).symm
  | error error =>
      rw [Session.isConnected_of_subscribe (hheld earlier hearlier) hresult] at hconnected
      cases hconnected

/-- Nothing but another subscription puts another handler in its place. -/
theorem Feeds.perform {handler : Handler} {topic : String} {manager : Manager Handler}
    {channel : Channel} (hfeeds : Feeds handler topic (manager.session? channel)) (config : Config)
    {operation : Operation Handler}
    (hown : ∀ other, operation = .subscribe channel topic other → other = handler) :
    Feeds handler topic ((manager.perform config operation).1.session? channel) := by
  have hused {other : Channel} {use : Session.Operation Handler}
      (huse : operation.use? = some (other, use))
      (hother : other = channel → ∀ found, use = .subscribe topic found → found = handler) :
      Feeds handler topic ((manager.perform config operation).1.session? channel) := by
    rw [(manager.perform_of_use config huse).1, session?_set]
    split
    · next hsame =>
      rw [hsame] at hfeeds
      intro session hsession hconnected found hfind
      obtain ⟨earlier, hearlier, rfl⟩ := Option.map_eq_some_iff.1 hsession
      have hstarted : earlier.isConnected = true := by
        by_contra hended
        rw [(Session.perform_of_not_connected (Bool.eq_false_iff.2 hended) use).1] at hconnected
        cases hconnected
      rcases Session.find?_of_perform hfind with hold | hsubscribe
      · exact hfeeds earlier hearlier hstarted found hold
      · exact hother hsame.symm found hsubscribe
    · exact hfeeds
  cases operation with
  | openChannel other attempt =>
      change Feeds handler topic ((manager.openChannel config other attempt).1.session? channel)
      by_cases hother : channel = other
      · subst hother
        rcases manager.openChannel_cases config channel attempt with
          ⟨session, written, hprovides, hopen⟩ | ⟨error, written, -, hopen⟩
        · rw [hopen, session?_set, if_pos rfl]
          generalize manager.session? channel = before at hfeeds hprovides
          cases hprovides with
          | kept _ => exact hfeeds
          | opened _ hopened =>
              have htaken := (Session.isFresh_of_connect hopened).receiveEarly
                (attempt.behind channel)
              rw [Session.receiveEarly_eq_after] at htaken
              rintro _ ⟨⟩ _ found hfind
              rw [htaken.unsubscribed] at hfind
              cases hfind
        · rw [hopen, session?_set, if_pos rfl]
          rintro _ ⟨⟩
      · rw [manager.session?_openChannel_of_ne config attempt hother]
        exact hfeeds
  | get other => exact hfeeds
  | disconnectAll =>
      rw [perform_disconnectAll]
      rintro _ ⟨⟩
  | subscribe other name found =>
      refine hused rfl ?_
      rintro rfl again hsame
      cases hsame
      exact hown _ rfl
  | send other destination payload => exact hused rfl (by simp)
  | receive other event => exact hused rfl (by simp)
  | lose other reason => exact hused rfl (by simp)

theorem Feeds.after {handler : Handler} {topic : String} {manager : Manager Handler}
    {channel : Channel} (hfeeds : Feeds handler topic (manager.session? channel)) (config : Config)
    {operations : List (Operation Handler)}
    (hown : ∀ other, .subscribe channel topic other ∈ operations → other = handler) :
    Feeds handler topic ((manager.after config operations).session? channel) := by
  induction operations generalizing manager with
  | nil => exact hfeeds
  | cons operation rest ih =>
      apply ih (hfeeds.perform config _)
      · exact fun other hmem => hown other (List.mem_cons_of_mem _ hmem)
      · rintro other rfl
        exact hown other List.mem_cons_self

/-- Once a topic was subscribed with a handler, and with no other one since, the handler is the only
one. -/
theorem feeds_reached {config : Config} {channel : Channel} {topic : String} {handler : Handler}
    (earlier : List (Operation Handler)) {done : List (Operation Handler)}
    (hsubscribed : .subscribe channel topic handler ∈ done)
    (hown : ∀ other, .subscribe channel topic other ∈ done → other = handler) :
    Feeds handler topic ((reached config (earlier ++ done)).session? channel) := by
  obtain ⟨front, back, rfl⟩ := List.append_of_mem hsubscribed
  rw [reached, ← List.append_assoc, after_append, after_cons]
  refine Feeds.after (feeds_of_subscribe ?_ config topic handler) config
    fun other hmem => hown other (List.mem_append_right _ (List.mem_cons_of_mem _ hmem))
  intro session hsession
  obtain ⟨newest, older, -, hcarries, -⟩ := exists_carries hsession
  exact hcarries.isHeld.writable

/-- A message for a topic that was subscribed is delivered on a session that is connected. -/
theorem exists_delivered {config : Config} {channel : Channel} {session : Session Handler}
    {connection : Connection} (hcarries : Carries config channel session connection)
    (hconnected : session.isConnected = true) {text topic : String} {frame : Frame}
    (hparse : Frame.parse text = .ok (some frame)) (hcommand : frame.command = .message)
    (hconcerns : Concerns connection.texts frame topic) :
    ∃ handler, session.subscriptions.handlers.find? topic = some handler ∧
      (session.receive (.text text)).2 =
        some (handler, { channel, topic, body := frame.body }) := by
  have htold := hcarries.told hconnected
  have hchosen : ((frame.header? "subscription").bind session.subscriptions.topics.find?).or
      (frame.header? "destination") = some topic ∧ some topic ∈ destinations connection.texts := by
    cases hconcerns with
    | named hid htopic =>
        rw [hid, Option.bind_some, htold.named, htopic, Option.some_or]
        exact ⟨rfl, mem_destinations_of_topicOf? htopic⟩
    | addressed hunnamed hdestination hsubscribed =>
        have hnone : (frame.header? "subscription").bind session.subscriptions.topics.find? =
            none := by
          rw [Option.bind_eq_none_iff]
          intro id hid
          rw [htold.named, hunnamed id hid]
        rw [hnone, Option.none_or]
        exact ⟨hdestination, hsubscribed⟩
  obtain ⟨htopic, hsubscribed⟩ := hchosen
  obtain ⟨handler, hhandler⟩ := Option.isSome_iff_exists.1 ((htold.handled topic).2 hsubscribed)
  refine ⟨handler, hhandler, ?_⟩
  have hfound : session.subscriptions.handlerFor? frame = some (topic, handler) := by
    simp [Subscriptions.handlerFor?, htopic, hhandler]
  have hdelivered : (session.receive (.text text)).2 = session.deliver? frame :=
    Session.delivered_of_parse (hcarries.isHeld.reading hconnected) hparse
  rw [hdelivered, Session.deliver?_eq_some]
  exact ⟨hcommand, hfound, by rw [hcarries.on_channel]⟩

/-! ## Repeated openings -/

/-- What is done with a manager: single operations, and openings of the channels. -/
inductive Episode (Handler : Type)
  | operation (operation : Operation Handler)
  | opening (handler : Handler) (attempt : Channel → Attempt) (meanwhile : Task → List Incident)

/-- The operations that episodes come to. -/
def operationsOf (config : Config) (manager : Manager Handler) :
    List (Episode Handler) → List (Operation Handler)
  | [] => []
  | .operation operation :: rest =>
    operation :: operationsOf config (manager.perform config operation).1 rest
  | .opening handler attempt meanwhile :: rest =>
    let performed := manager.performed config handler attempt meanwhile
    performed ++ operationsOf config (manager.after config performed) rest

/-- Opening the channels subscribes with one handler. -/
theorem eq_of_subscribe_mem_performed {config : Config} {handler : Handler}
    {attempt : Channel → Attempt} {meanwhile : Task → List Incident} {manager : Manager Handler}
    {channel : Channel} {topic : String} {other : Handler}
    (hmem : .subscribe channel topic other ∈
      manager.performed config handler attempt meanwhile) : other = handler := by
  obtain ⟨task, -, ⟨incident, -, hincident⟩ | hoperation⟩ :=
    (mem_script handler attempt meanwhile).1 hmem
  · cases incident <;> cases hincident
  · cases task <;> cases hoperation
    rfl

/-- An opening that succeeds subscribes to every topic that is wanted, or the feedback channel could
not be opened. -/
theorem subscribe_mem_performed {config : Config} {handler : Handler}
    {attempt : Channel → Attempt} {meanwhile : Task → List Incident} {manager : Manager Handler}
    (hgranted : (manager.opening config handler attempt meanwhile).result = .ok ())
    {channel : Channel} (hwanted : channel = .feedback → config.rankingsPath.isSome)
    {topic : String} (htopic : topic ∈ channel.listed) :
    .subscribe channel topic handler ∈ manager.performed config handler attempt meanwhile ∨
      channel = .feedback ∧
        (manager.opening config handler attempt meanwhile).manager.isConnected .feedback =
          false := by
  have hmanager : (manager.opening config handler attempt meanwhile).manager =
      manager.after config (manager.performed config handler attempt meanwhile) := by
    rw [opening_eq]
    rfl
  rw [result_opening, result_work_eq_ok] at hgranted
  have hdone := carriedOut_append config handler attempt meanwhile hgranted
    (if config.rankingsPath.isSome then Channel.feedback.tasks else [])
  rw [← wantedTasks] at hdone
  have hsubscribed (hmem : .subscribe channel topic ∈
      manager.carriedOut config handler attempt meanwhile (wantedTasks config)) :
      .subscribe channel topic handler ∈ manager.performed config handler attempt meanwhile :=
    (mem_script handler attempt meanwhile).2 ⟨_, hmem, .inr rfl⟩
  have hlisted : .subscribe channel topic ∈ channel.tasks := by
    rw [Channel.tasks_eq]
    exact List.mem_cons_of_mem _ (List.mem_map_of_mem htopic)
  by_cases hfeedback : channel = .feedback
  · subst hfeedback
    obtain rfl : topic = "/queue/testfeedback" := List.mem_singleton.1 htopic
    rw [if_pos (hwanted rfl)] at hdone
    generalize hstart : manager.after config (script handler attempt meanwhile requiredTasks) =
      start at hdone
    cases hresult : ((start.found config meanwhile (.connect .feedback)).carryOut config handler
        attempt (.connect .feedback)).2.1 with
    | ok _ =>
        left
        apply hsubscribed
        rw [hdone, Channel.tasks_eq, carriedOut, hresult]
        exact List.mem_append_right _ (List.mem_cons_of_mem _ List.mem_cons_self)
    | error error =>
        right
        obtain ⟨hafter, -, -⟩ :=
          step_of_task config handler attempt meanwhile start (.connect .feedback)
        have hlast : carriedOut config handler attempt meanwhile start Channel.feedback.tasks =
            [.connect .feedback] := by
          rw [Channel.tasks_eq, carriedOut, hresult]
          rfl
        refine ⟨rfl, ?_⟩
        rw [hmanager, performed, hdone, hlast, script_append, after_append, hstart, ← hafter]
        rw [carryOut] at hresult ⊢
        rcases (start.found config meanwhile (.connect .feedback)).openChannel_cases config
            .feedback (attempt .feedback) with ⟨_, _, -, hopen⟩ | ⟨_, _, -, hopen⟩
        · rw [hopen] at hresult
          cases hresult
        · rw [hopen, isConnected, session?_set, if_pos rfl]
          rfl
  · left
    apply hsubscribed
    rw [hdone]
    apply List.mem_append_left
    cases channel with
    | submit => exact List.mem_append_left _ hlisted
    | control => exact List.mem_append_right _ hlisted
    | feedback => exact absurd rfl hfeedback

end Manager

end ClassroomClient
