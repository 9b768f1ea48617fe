/-
# Openings as runs

Opening the channels is a run of the manager: the tasks are carried out one after the other, each
behind what happens before it, and the first one that the manager does not admit is the last. So
what a task meets is the state that a run has reached, and the result of an opening can be read off
the states that its tasks meet.
-/

import ClassroomClient.Proofs.Session.Told
import ClassroomClient.Proofs.Session.Traffic
import ClassroomClient.Session.Opening

namespace ClassroomClient

variable {Handler : Type}

/-- What happens, as an operation. -/
def Incident.operation : Incident → Manager.Operation Handler
  | receive channel event => .receive channel event
  | lose channel reason => .lose channel reason

/-- The channel on which it happens. -/
def Incident.channel : Incident → Channel
  | receive channel _ => channel
  | lose channel _ => channel

/-- The channel of a task. -/
def Task.channel : Task → Channel
  | connect channel => channel
  | subscribe channel _ => channel

/-- What the client does for a task, as an operation. -/
def Task.operation (handler : Handler) (attempt : Channel → Attempt) :
    Task → Manager.Operation Handler
  | connect channel => .openChannel channel (attempt channel)
  | subscribe channel topic => .subscribe channel topic handler

/-- The manager admits a task: the channel is connected or its server grants a new connection, or
its session accepts the topic. -/
def Task.IsAdmitted (config : Config) (attempt : Channel → Attempt) (manager : Manager Handler) :
    Task → Prop
  | connect channel => manager.isConnected channel = true ∨
      ∃ session log, @Session.connect Handler config channel (attempt channel) = (.ok session, log)
  | subscribe channel topic =>
      ∃ session, manager.session? channel = some session ∧ session.Accepts [topic]

namespace Manager

/-! ## What a run writes and delivers -/

/-- What is written in a run. -/
def logged (manager : Manager Handler) (config : Config) : List (Operation Handler) → WireLog
  | [] => []
  | operation :: rest =>
    (manager.perform config operation).2.log ++
      (manager.perform config operation).1.logged config rest

/-- What comes in in a run, with the handlers that it goes to. -/
def deliveries (manager : Manager Handler) (config : Config) :
    List (Operation Handler) → List (Handler × Inbound)
  | [] => []
  | operation :: rest =>
    (manager.perform config operation).2.delivered.toList ++
      (manager.perform config operation).1.deliveries config rest

theorem logged_append (manager : Manager Handler) (config : Config)
    (earlier later : List (Operation Handler)) :
    manager.logged config (earlier ++ later) =
      manager.logged config earlier ++ (manager.after config earlier).logged config later := by
  induction earlier generalizing manager with
  | nil => rfl
  | cons operation rest ih =>
      rw [List.cons_append, logged, ih, logged, after_cons, List.append_assoc]

theorem deliveries_append (manager : Manager Handler) (config : Config)
    (earlier later : List (Operation Handler)) :
    manager.deliveries config (earlier ++ later) =
      manager.deliveries config earlier ++
        (manager.after config earlier).deliveries config later := by
  induction earlier generalizing manager with
  | nil => rfl
  | cons operation rest ih =>
      rw [List.cons_append, deliveries, ih, deliveries, after_cons, List.append_assoc]

/-- A run as an opening that ends like this. -/
def ran (manager : Manager Handler) (config : Config) (operations : List (Operation Handler))
    (result : Except SessionError Unit) : Opening Handler where
  manager := manager.after config operations
  result
  log := manager.logged config operations
  delivered := manager.deliveries config operations

/-- What happens is a run in which nothing is written. -/
theorem meet_eq (manager : Manager Handler) (config : Config) (incidents : List Incident) :
    manager.meet incidents =
        (manager.after config (incidents.map Incident.operation),
          manager.deliveries config (incidents.map Incident.operation)) ∧
      manager.logged config (incidents.map Incident.operation) = [] := by
  induction incidents generalizing manager with
  | nil => exact ⟨rfl, rfl⟩
  | cons incident rest ih =>
      cases incident with
      | receive channel event =>
          obtain ⟨hmeet, hlog⟩ := ih (manager.receive channel event).1
          refine ⟨?_, hlog⟩
          change (((manager.receive channel event).1.meet rest).1,
            (manager.receive channel event).2.toList ++
              ((manager.receive channel event).1.meet rest).2) = _
          rw [hmeet]
          rfl
      | lose channel reason =>
          obtain ⟨hmeet, hlog⟩ := ih (manager.lose channel reason)
          refine ⟨?_, hlog⟩
          rw [meet, hmeet]
          rfl

/-! ## Single tasks -/

section

variable (config : Config) (handler : Handler) (attempt : Channel → Attempt)
variable (meanwhile : Task → List Incident)

/-- What the client does for a task is an operation that delivers nothing. -/
theorem carryOut_eq (manager : Manager Handler) (task : Task) :
    manager.carryOut config handler attempt task =
        ((manager.perform config (task.operation handler attempt)).1,
          (manager.perform config (task.operation handler attempt)).2.result,
          (manager.perform config (task.operation handler attempt)).2.log) ∧
      (manager.perform config (task.operation handler attempt)).2.delivered = none := by
  cases task with
  | connect channel => exact ⟨rfl, rfl⟩
  | subscribe channel topic => exact ⟨rfl, rfl⟩

/-- A task succeeds when the manager admits it. -/
theorem result_carryOut_eq_ok (manager : Manager Handler) (task : Task) :
    (manager.carryOut config handler attempt task).2.1 = .ok () ↔
      task.IsAdmitted config attempt manager := by
  cases task with
  | connect channel =>
      change (manager.openChannel config channel (attempt channel)).2.1 = .ok () ↔ _ ∨ _
      rcases manager.openChannel_cases config channel (attempt channel) with
        ⟨session, written, hprovides, hopen⟩ | ⟨error, written, hdenies, hopen⟩
      · rw [hopen]
        refine ⟨fun _ => ?_, fun _ => rfl⟩
        generalize hsession : manager.session? channel = session? at hprovides
        cases hprovides with
        | kept hconnected => exact .inl (by simp [isConnected, hsession, hconnected])
        | opened hstale hopened => exact .inr ⟨_, _, hopened⟩
      · rw [hopen]
        refine ⟨fun hgranted => (by cases hgranted), ?_⟩
        obtain ⟨hstale, hfailed⟩ := hdenies
        rintro (hconnected | ⟨session, log, hgranted⟩)
        · rw [isConnected_eq_false.2 hstale] at hconnected
          cases hconnected
        · rw [hfailed] at hgranted
          cases hgranted
  | subscribe channel topic =>
      change (manager.subscribe channel topic handler).2.1 = .ok () ↔ ∃ session, _
      unfold Manager.subscribe
      cases manager.session? channel with
      | none => simp
      | some session =>
          have hresult := session.result_subscribe_eq_ok topic handler
          refine ⟨fun hgranted => ⟨session, rfl, hresult.1 hgranted⟩, ?_⟩
          rintro ⟨_, ⟨⟩, haccepts⟩
          exact hresult.2 haccepts

/-! ## Several tasks -/

/-- The operations that tasks come to, each behind what happens before it. -/
def script (tasks : List Task) : List (Operation Handler) :=
  tasks.flatMap fun task =>
    (meanwhile task).map Incident.operation ++ [task.operation handler attempt]

/-- The manager as a task finds it. -/
def found (manager : Manager Handler) (task : Task) : Manager Handler :=
  manager.after config ((meanwhile task).map Incident.operation)

/-- Each of the tasks is admitted by the manager that it finds behind those before it. -/
def AdmitsAll (manager : Manager Handler) : List Task → Prop
  | [] => True
  | task :: rest =>
    task.IsAdmitted config attempt (manager.found config meanwhile task) ∧
      (manager.after config (script handler attempt meanwhile [task])).AdmitsAll rest

@[simp] theorem script_nil : script handler attempt meanwhile [] = [] := rfl

theorem script_cons (task : Task) (rest : List Task) :
    script handler attempt meanwhile (task :: rest) =
      script handler attempt meanwhile [task] ++ script handler attempt meanwhile rest := by
  simp [script]

theorem script_append (first second : List Task) :
    script handler attempt meanwhile (first ++ second) =
      script handler attempt meanwhile first ++ script handler attempt meanwhile second :=
  List.flatMap_append

theorem admitsAll_append (manager : Manager Handler) (first second : List Task) :
    manager.AdmitsAll config handler attempt meanwhile (first ++ second) ↔
      manager.AdmitsAll config handler attempt meanwhile first ∧
        (manager.after config (script handler attempt meanwhile first)).AdmitsAll config handler
          attempt meanwhile second := by
  induction first generalizing manager with
  | nil => exact ⟨fun h => ⟨trivial, h⟩, fun h => h.2⟩
  | cons task rest ih =>
      rw [List.cons_append, AdmitsAll, AdmitsAll, ih,
        script_cons handler attempt meanwhile task rest, after_append, and_assoc]

/-- What a task comes to, together with what happens before it, is what the run comes to. -/
theorem step_of_task (manager : Manager Handler) (task : Task) :
    let outcome := (manager.found config meanwhile task).carryOut config handler attempt task
    let operations := script handler attempt meanwhile [task]
    outcome.1 = manager.after config operations ∧ outcome.2.2 = manager.logged config operations ∧
      (manager.meet (meanwhile task)).2 = manager.deliveries config operations := by
  intro outcome operations
  obtain ⟨hmeet, hsilent⟩ := manager.meet_eq config (meanwhile task)
  obtain ⟨hcarried, hnone⟩ :=
    carryOut_eq config handler attempt (manager.found config meanwhile task) task
  have houtcome : outcome = _ := hcarried
  have hoperations : operations =
      (meanwhile task).map Incident.operation ++ [task.operation handler attempt] :=
    List.append_nil _
  rw [hoperations, after_append, logged_append, deliveries_append, hsilent, hmeet, houtcome]
  rw [found] at hnone ⊢
  refine ⟨rfl, (List.append_nil _).symm, ?_⟩
  rw [deliveries, hnone]
  exact (List.append_nil _).symm

/-- A task that is admitted is carried out, and the work goes on. -/
theorem work_cons_of_admitted {manager : Manager Handler} {task : Task}
    (hadmitted : task.IsAdmitted config attempt (manager.found config meanwhile task))
    (rest : List Task) :
    let operations := script handler attempt meanwhile [task]
    let later := (manager.after config operations).work config handler attempt meanwhile rest
    manager.work config handler attempt meanwhile (task :: rest) =
      { later with log := manager.logged config operations ++ later.log
                   delivered := manager.deliveries config operations ++ later.delivered } := by
  intro operations later
  obtain ⟨hafter, hlog, hdelivered⟩ := step_of_task config handler attempt meanwhile manager task
  have hfound : (manager.meet (meanwhile task)).1 = manager.found config meanwhile task := by
    rw [(manager.meet_eq config (meanwhile task)).1]
    rfl
  have hgranted := (result_carryOut_eq_ok config handler attempt _ task).2 hadmitted
  simp only [later, operations, ← hafter, ← hlog, ← hdelivered]
  rw [work]
  dsimp only
  rw [hfound]
  generalize (manager.found config meanwhile task).carryOut config handler attempt task = outcome
    at hgranted
  obtain ⟨next, result, log⟩ := outcome
  cases hgranted
  rfl

/-- A task that fails ends the work. -/
theorem work_cons_of_failed {manager : Manager Handler} {task : Task} {error : SessionError}
    (hfailed : ((manager.found config meanwhile task).carryOut config handler attempt task).2.1 =
      .error error) (rest : List Task) :
    manager.work config handler attempt meanwhile (task :: rest) =
      manager.ran config (script handler attempt meanwhile [task]) (.error error) := by
  obtain ⟨hafter, hlog, hdelivered⟩ := step_of_task config handler attempt meanwhile manager task
  have hfound : (manager.meet (meanwhile task)).1 = manager.found config meanwhile task := by
    rw [(manager.meet_eq config (meanwhile task)).1]
    rfl
  rw [work]
  simp only [ran, ← hafter, ← hlog, ← hdelivered]
  rw [hfound]
  generalize (manager.found config meanwhile task).carryOut config handler attempt task = outcome
    at hfailed
  obtain ⟨next, result, log⟩ := outcome
  cases hfailed
  rfl

theorem ran_append (manager : Manager Handler) (first second : List (Operation Handler))
    (result : Except SessionError Unit) :
    manager.ran config (first ++ second) result =
      let later := (manager.after config first).ran config second result
      { later with log := manager.logged config first ++ later.log
                   delivered := manager.deliveries config first ++ later.delivered } := by
  rw [ran, after_append, logged_append, deliveries_append]
  rfl

/-- For work count the attempts of the channels that it connects, and what happens before its
tasks. -/
theorem work_congr {attempt others : Channel → Attempt}
    {meanwhile elsewhere : Task → List Incident} {tasks : List Task}
    (hattempts : ∀ channel, .connect channel ∈ tasks → others channel = attempt channel)
    (hincidents : ∀ task ∈ tasks, elsewhere task = meanwhile task) (manager : Manager Handler) :
    manager.work config handler others elsewhere tasks =
      manager.work config handler attempt meanwhile tasks := by
  induction tasks generalizing manager with
  | nil => rfl
  | cons task rest ih =>
      have hrest (manager : Manager Handler) :=
        ih (fun channel hmem => hattempts channel (List.mem_cons_of_mem _ hmem))
          (fun later hmem => hincidents later (List.mem_cons_of_mem _ hmem)) manager
      have hfirst (manager : Manager Handler) :
          manager.carryOut config handler others task =
            manager.carryOut config handler attempt task := by
        cases task with
        | connect channel => rw [carryOut, carryOut, hattempts channel List.mem_cons_self]
        | subscribe channel topic => rfl
      simp only [work, hincidents task List.mem_cons_self, hfirst, hrest]

/-- When all tasks are admitted, they are carried out. -/
theorem work_of_admitsAll {manager : Manager Handler} {tasks : List Task}
    (hadmits : manager.AdmitsAll config handler attempt meanwhile tasks) :
    manager.work config handler attempt meanwhile tasks =
      manager.ran config (script handler attempt meanwhile tasks) (.ok ()) := by
  induction tasks generalizing manager with
  | nil => rfl
  | cons task rest ih =>
      obtain ⟨hfirst, hrest⟩ := hadmits
      rw [work_cons_of_admitted config handler attempt meanwhile hfirst, ih hrest,
        script_cons handler attempt meanwhile task rest, ran_append]

/-- The first task that fails is the last one. -/
theorem work_of_failed {manager : Manager Handler} {earlier : List Task} {task : Task}
    {error : SessionError} (hadmits : manager.AdmitsAll config handler attempt meanwhile earlier)
    (hfailed : (((manager.after config (script handler attempt meanwhile earlier)).found config
      meanwhile task).carryOut config handler attempt task).2.1 = .error error)
    (later : List Task) :
    manager.work config handler attempt meanwhile (earlier ++ task :: later) =
      manager.ran config (script handler attempt meanwhile (earlier ++ [task])) (.error error) := by
  induction earlier generalizing manager with
  | nil => exact work_cons_of_failed config handler attempt meanwhile hfailed later
  | cons first rest ih =>
      obtain ⟨hfirst, hrest⟩ := hadmits
      rw [script_cons handler attempt meanwhile first rest, after_append] at hfailed
      rw [List.cons_append, work_cons_of_admitted config handler attempt meanwhile hfirst,
        ih hrest hfailed, List.cons_append,
        script_cons handler attempt meanwhile first (rest ++ [task]), ran_append]

/-- Either all tasks are admitted, or there is a first one that fails. -/
theorem admitsAll_or_exists_failed (manager : Manager Handler) (tasks : List Task) :
    manager.AdmitsAll config handler attempt meanwhile tasks ∨
      ∃ earlier task later error, tasks = earlier ++ task :: later ∧
        manager.AdmitsAll config handler attempt meanwhile earlier ∧
        (((manager.after config (script handler attempt meanwhile earlier)).found config meanwhile
          task).carryOut config handler attempt task).2.1 = .error error := by
  induction tasks generalizing manager with
  | nil => exact .inl trivial
  | cons task rest ih =>
      cases hresult :
          ((manager.found config meanwhile task).carryOut config handler attempt task).2.1 with
      | error error => exact .inr ⟨[], task, rest, error, rfl, trivial, hresult⟩
      | ok _ =>
          have hfirst := (result_carryOut_eq_ok config handler attempt _ task).1 hresult
          rcases ih (manager.after config (script handler attempt meanwhile [task])) with
            hrest | ⟨earlier, other, later, error, rfl, hadmits, hfailed⟩
          · exact .inl ⟨hfirst, hrest⟩
          · refine .inr ⟨task :: earlier, other, later, error, rfl, ⟨hfirst, hadmits⟩, ?_⟩
            rwa [script_cons handler attempt meanwhile task earlier, after_append]

/-- Tasks succeed when all of them are admitted. -/
theorem result_work_eq_ok (manager : Manager Handler) (tasks : List Task) :
    (manager.work config handler attempt meanwhile tasks).result = .ok () ↔
      manager.AdmitsAll config handler attempt meanwhile tasks := by
  constructor
  · intro hgranted
    rcases admitsAll_or_exists_failed config handler attempt meanwhile manager tasks with
      hadmits | ⟨earlier, task, later, error, rfl, hadmits, hfailed⟩
    · exact hadmits
    · rw [work_of_failed config handler attempt meanwhile hadmits hfailed later] at hgranted
      cases hgranted
  · intro hadmits
    rw [work_of_admitsAll config handler attempt meanwhile hadmits]
    rfl

/-- What comes behind a task that fails makes no difference. -/
theorem work_append_of_not_admitsAll {manager : Manager Handler} {tasks : List Task}
    (hrefuses : ¬ manager.AdmitsAll config handler attempt meanwhile tasks) (more : List Task) :
    manager.work config handler attempt meanwhile (tasks ++ more) =
      manager.work config handler attempt meanwhile tasks := by
  rcases admitsAll_or_exists_failed config handler attempt meanwhile manager tasks with
    hadmits | ⟨earlier, task, later, error, rfl, hadmits, hfailed⟩
  · exact absurd hadmits hrefuses
  · rw [List.append_assoc, List.cons_append,
      work_of_failed config handler attempt meanwhile hadmits hfailed,
      work_of_failed config handler attempt meanwhile hadmits hfailed]

/-! ## What is performed -/

/-- The tasks that are carried out: those up to the first one that is not admitted. -/
def carriedOut (manager : Manager Handler) : List Task → List Task
  | [] => []
  | task :: rest =>
    task ::
      if ((manager.found config meanwhile task).carryOut config handler attempt task).2.1.isOk then
        (manager.after config (script handler attempt meanwhile [task])).carriedOut rest
      else []

theorem carriedOut_append {manager : Manager Handler} {tasks : List Task}
    (hadmits : manager.AdmitsAll config handler attempt meanwhile tasks) (more : List Task) :
    manager.carriedOut config handler attempt meanwhile (tasks ++ more) =
      tasks ++ (manager.after config (script handler attempt meanwhile tasks)).carriedOut config
        handler attempt meanwhile more := by
  induction tasks generalizing manager with
  | nil => rfl
  | cons task rest ih =>
      obtain ⟨hfirst, hrest⟩ := hadmits
      rw [List.cons_append, carriedOut, (result_carryOut_eq_ok config handler attempt _ task).2
        hfirst, ih hrest, script_cons handler attempt meanwhile task rest, after_append]
      rfl

theorem carriedOut_of_failed {manager : Manager Handler} {earlier : List Task} {task : Task}
    {error : SessionError} (hadmits : manager.AdmitsAll config handler attempt meanwhile earlier)
    (hfailed : (((manager.after config (script handler attempt meanwhile earlier)).found config
      meanwhile task).carryOut config handler attempt task).2.1 = .error error)
    (later : List Task) :
    manager.carriedOut config handler attempt meanwhile (earlier ++ task :: later) =
      earlier ++ [task] := by
  rw [carriedOut_append config handler attempt meanwhile hadmits, carriedOut, hfailed]
  rfl

/-- What comes behind a task that fails is not carried out. -/
theorem carriedOut_append_of_not_admitsAll {manager : Manager Handler} {tasks : List Task}
    (hrefuses : ¬ manager.AdmitsAll config handler attempt meanwhile tasks) (more : List Task) :
    manager.carriedOut config handler attempt meanwhile (tasks ++ more) =
      manager.carriedOut config handler attempt meanwhile tasks := by
  rcases admitsAll_or_exists_failed config handler attempt meanwhile manager tasks with
    hadmits | ⟨earlier, task, later, error, rfl, hadmits, hfailed⟩
  · exact absurd hadmits hrefuses
  · rw [List.append_assoc, List.cons_append,
      carriedOut_of_failed config handler attempt meanwhile hadmits hfailed,
      carriedOut_of_failed config handler attempt meanwhile hadmits hfailed]

/-- No other tasks are carried out. -/
theorem carriedOut_initial (manager : Manager Handler) (tasks : List Task) :
    manager.carriedOut config handler attempt meanwhile tasks <+: tasks := by
  induction tasks generalizing manager with
  | nil => exact List.nil_prefix
  | cons task rest ih =>
      rw [carriedOut, List.cons_prefix_cons]
      refine ⟨rfl, ?_⟩
      split
      · exact ih _
      · exact List.nil_prefix

/-- Work is a run of what is carried out. -/
theorem work_eq (manager : Manager Handler) (tasks : List Task) :
    manager.work config handler attempt meanwhile tasks =
      manager.ran config
        (script handler attempt meanwhile
          (manager.carriedOut config handler attempt meanwhile tasks))
        (manager.work config handler attempt meanwhile tasks).result := by
  rcases admitsAll_or_exists_failed config handler attempt meanwhile manager tasks with
    hadmits | ⟨earlier, task, later, error, rfl, hadmits, hfailed⟩
  · have hall := carriedOut_append config handler attempt meanwhile hadmits []
    rw [List.append_nil, carriedOut, List.append_nil] at hall
    rw [hall, work_of_admitsAll config handler attempt meanwhile hadmits]
    rfl
  · rw [carriedOut_of_failed config handler attempt meanwhile hadmits hfailed,
      work_of_failed config handler attempt meanwhile hadmits hfailed]
    rfl

/-- The tasks that the client would like to carry out. -/
def wantedTasks : List Task :=
  requiredTasks ++ if config.rankingsPath.isSome then Channel.feedback.tasks else []

theorem mem_topics_of_mem_wantedTasks {channel : Channel} {topic : String}
    (hmem : .subscribe channel topic ∈ wantedTasks config) : topic ∈ channel.topics := by
  have hlisted {other : Channel} (htask : .subscribe channel topic ∈ other.tasks) :
      topic ∈ channel.topics := by
    simp only [Channel.tasks, List.mem_cons, List.mem_map, reduceCtorEq, false_or,
      Task.subscribe.injEq] at htask
    obtain ⟨_, htopic, rfl, rfl⟩ := htask
    exact htopic
  rw [wantedTasks, requiredTasks, List.mem_append, List.mem_append] at hmem
  rcases hmem with (hsubmit | hcontrol) | hfeedback
  · exact hlisted hsubmit
  · exact hlisted hcontrol
  · split at hfeedback
    · exact hlisted hfeedback
    · cases hfeedback

/-- What is done to open the channels. -/
def performed (manager : Manager Handler) : List (Operation Handler) :=
  script handler attempt meanwhile
    (manager.carriedOut config handler attempt meanwhile (wantedTasks config))

/-- Opening the channels is a run, and its result is that of the required tasks. -/
theorem opening_eq (manager : Manager Handler) :
    manager.opening config handler attempt meanwhile =
      manager.ran config (manager.performed config handler attempt meanwhile)
        (manager.work config handler attempt meanwhile requiredTasks).result := by
  rcases admitsAll_or_exists_failed config handler attempt meanwhile manager requiredTasks with
    hadmits | ⟨earlier, task, later, error, htasks, hadmits, hfailed⟩
  · have hwork := work_of_admitsAll config handler attempt meanwhile hadmits
    rw [performed, wantedTasks, carriedOut_append config handler attempt meanwhile hadmits,
      script_append, opening, hwork, ran_append]
    by_cases hrankings : config.rankingsPath.isSome = true
    · rw [if_pos hrankings]
      simp only [hrankings]
      have hextra := work_eq config handler attempt meanwhile
        (manager.after config (script handler attempt meanwhile requiredTasks))
        Channel.feedback.tasks
      generalize (manager.after config (script handler attempt meanwhile requiredTasks)).carriedOut
        config handler attempt meanwhile Channel.feedback.tasks = done at hextra ⊢
      simp only [ran, Except.isOk, Except.toBool, Bool.and_true, if_true] at hextra ⊢
      rw [hextra]
    · rw [if_neg hrankings]
      simp [hrankings, carriedOut, ran, logged, deliveries, after]
  · rw [performed, wantedTasks, opening, htasks, List.append_assoc, List.cons_append,
      carriedOut_of_failed config handler attempt meanwhile hadmits hfailed,
      work_of_failed config handler attempt meanwhile hadmits hfailed]
    rfl

/-- What is performed for tasks are the tasks and what happens before them. -/
theorem mem_script {tasks : List Task} {operation : Operation Handler} :
    operation ∈ script handler attempt meanwhile tasks ↔
      ∃ task ∈ tasks, (∃ incident ∈ meanwhile task, incident.operation = operation) ∨
        operation = task.operation handler attempt := by
  simp [script]

/-! ## Sessions that are held -/

variable {config handler attempt meanwhile}

/-- A session that is held stays so unless its channel cannot be opened again. -/
theorem isSome_after_task {manager : Manager Handler} {channel : Channel} {task : Task}
    (hkept : task = .connect channel →
      task.IsAdmitted config attempt (manager.found config meanwhile task))
    (hsome : (manager.session? channel).isSome) :
    ((manager.after config (script handler attempt meanwhile [task])).session? channel).isSome := by
  have hused : ∀ operation ∈ (meanwhile task).map (@Incident.operation Handler),
      operation.use?.isSome := by
    intro operation hmem
    obtain ⟨incident, -, rfl⟩ := List.mem_map.1 hmem
    cases incident <;> rfl
  have hfound : ((manager.found config meanwhile task).session? channel).isSome :=
    (manager.isSome_after_uses config channel hused).trans hsome
  obtain ⟨hafter, -, -⟩ := step_of_task config handler attempt meanwhile manager task
  rw [← hafter]
  generalize manager.found config meanwhile task = found at hkept hfound
  cases task with
  | connect other =>
      by_cases hother : channel = other
      · subst hother
        exact isSome_of_openChannel
          ((result_carryOut_eq_ok config handler attempt found _).2 (hkept rfl))
      · change ((found.openChannel config other (attempt other)).1.session? channel).isSome
        rw [session?_openChannel_of_ne _ _ _ hother]
        exact hfound
  | subscribe other topic =>
      exact (found.isSome_subscribe other channel topic handler).trans hfound

theorem isSome_after_script {manager : Manager Handler} {channel : Channel} {tasks : List Task}
    (hkept : .connect channel ∉ tasks) (hsome : (manager.session? channel).isSome) :
    ((manager.after config (script handler attempt meanwhile tasks)).session? channel).isSome := by
  induction tasks generalizing manager with
  | nil => exact hsome
  | cons task rest ih =>
      rw [script_cons handler attempt meanwhile task rest, after_append]
      refine ih (fun hmem => hkept (List.mem_cons_of_mem _ hmem)) (isSome_after_task ?_ hsome)
      rintro rfl
      exact absurd List.mem_cons_self hkept

/-- A channel that was opened among tasks that were all admitted has a session. -/
theorem isSome_of_admitsAll {manager : Manager Handler} {channel : Channel} {tasks : List Task}
    (hadmits : manager.AdmitsAll config handler attempt meanwhile tasks)
    (hopened : .connect channel ∈ tasks ∨ (manager.session? channel).isSome) :
    ((manager.after config (script handler attempt meanwhile tasks)).session? channel).isSome := by
  induction tasks generalizing manager with
  | nil => exact hopened.resolve_left List.not_mem_nil
  | cons task rest ih =>
      obtain ⟨hfirst, hrest⟩ := hadmits
      rw [script_cons handler attempt meanwhile task rest, after_append]
      apply ih hrest
      rcases hopened with hmem | hsome
      · rcases List.mem_cons.1 hmem with rfl | hlater
        · obtain ⟨hafter, -, -⟩ :=
            step_of_task config handler attempt meanwhile manager (.connect channel)
          rw [← hafter]
          exact .inr (isSome_of_openChannel
            ((result_carryOut_eq_ok config handler attempt _ _).2 hfirst))
        · exact .inl hlater
      · exact .inr (isSome_after_task (fun _ => hfirst) hsome)

/-- Channels that are needed have a session when they could be opened. -/
theorem isSome_of_opening {manager : Manager Handler}
    (hgranted : (manager.opening config handler attempt meanwhile).result = .ok ())
    {channel : Channel} (hneeded : channel ≠ .feedback) :
    ((manager.opening config handler attempt meanwhile).manager.session? channel).isSome := by
  rw [opening_eq] at hgranted ⊢
  have hadmits := (result_work_eq_ok config handler attempt meanwhile _ _).1 hgranted
  change ((manager.after config (manager.performed config handler attempt meanwhile)).session?
    channel).isSome
  rw [performed, wantedTasks, carriedOut_append config handler attempt meanwhile hadmits,
    script_append, after_append]
  apply isSome_after_script
  · intro hmem
    have hextra := (carriedOut_initial config handler attempt meanwhile _ _).subset hmem
    split at hextra
    · simp [Channel.tasks, hneeded] at hextra
    · cases hextra
  · apply isSome_of_admitsAll hadmits
    left
    cases channel with
    | submit => decide
    | control => decide
    | feedback => exact absurd rfl hneeded

end

end Manager

end ClassroomClient
