import Web3Id.Construction.Issuer.Shutdown

namespace Web3Id.Issuer

open Library

/-- The main function holds its receiver until it is triggered. -/
def Stage.listening : Stage → Bool
  | .channel | .awaitServer | .returned _ => false
  | _ => true

/-- The main function has created the receiver. -/
def Stage.created (stage : Stage) : Receiver → Bool
  | .died => stage ≠ .channel
  | .prometheus => stage ≠ .channel && stage ≠ .prometheusReceiver
  | .server => stage ≠ .channel && stage ≠ .prometheusReceiver && stage ≠ .serverReceiver

/-- The main function has not reached the start of the task. -/
def Stage.before (stage : Stage) : Task → Bool
  | .shutdownSignal => !stage.created .server || stage = .setShutdown
  | .prometheus => !stage.created .server || stage = .setShutdown || stage = .startPrometheus
  | .transactionSender =>
      !stage.created .server || stage = .setShutdown || stage = .startPrometheus ||
        stage = .startSender
  | .server =>
      !stage.created .server || stage = .setShutdown || stage = .startPrometheus ||
        stage = .startSender || stage = .startServer

/-- A task starts after all receivers are there. -/
theorem Stage.created_of_started {stage : Stage} {task : Task}
    (started : stage.before task ≠ true) (receiver : Receiver) :
    stage.created receiver = true := by
  have last : stage.created .server = true := by
    cases task <;> simp_all [Stage.before]
  simp only [Stage.created, Bool.and_eq_true] at last
  cases receiver <;> simp [Stage.created, last]

/-- The future of the receiver is still there. -/
def Services.keeps (self : Services) (receiver : Receiver) : Prop :=
  self.triggered receiver = false ∧
    match receiver.task with
    | none => self.stage.listening = true
    | some task => self.tasks task = .notStarted ∨ self.tasks task = .running

/-- The tasks that have ended normally. -/
def Services.ended (self : Services) : List Task :=
  [Task.shutdownSignal, .prometheus, .transactionSender, .server].filter
    fun task => self.tasks task = .finished

/-- What holds of a service after every event. -/
structure Sound (services : Services) : Prop where
  capacity : services.died.capacity = 10
  few : services.died.log.length ≤ services.ended.length
  kept : ∀ task, services.tasks task = .finished → services.died.log ≠ []
  unstarted : ∀ task, services.stage.before task = true → services.tasks task = .notStarted
  fresh : ∀ receiver, services.stage.created receiver = true → services.keeps receiver →
    services.died.Fresh receiver
  isOpen : (∀ outcome, services.stage ≠ .returned outcome) → services.died.isOpen = true
  caused : ∀ receiver, services.triggered receiver = true → services.died.log ≠ []
  untriggered : services.stage.listening = true → services.triggered .died = false
  triggered : services.stage = .awaitServer ∨ services.stage = .returned .stopped ∨
    services.stage = .returned .terminatedForcefully → services.triggered .died = true
  absent : services.prometheusAddress = false →
    services.tasks .prometheus = .notStarted ∧ services.triggered .prometheus = false
  ended : ∀ outcome, services.stage = .returned outcome → ∀ task, services.tasks task ≠ .running
  aborted : ∀ task, services.tasks task = .aborted → ∃ outcome, services.stage = .returned outcome
  logged : .channelClosed ∉ services.log
  notified : .unableToNotify ∈ services.log →
    services.triggered .died = true ∧ services.prometheusAddress = true

theorem Sound.start (prometheusAddress : Bool) : Sound (Services.start prometheusAddress) where
  capacity := rfl
  few := Nat.zero_le _
  kept := by simp [Services.start]
  unstarted := by simp [Services.start]
  fresh := by
    intro receiver created
    cases receiver <;> cases created
  isOpen := by simp [Services.start, Broadcast.empty]
  caused := by simp [Services.start]
  untriggered := by simp [Services.start]
  triggered := by simp [Services.start]
  absent := by simp [Services.start]
  ended := by simp [Services.start]
  aborted := by simp [Services.start]
  logged := by simp [Services.start]
  notified := by simp [Services.start]

section Readings

variable {services : Services}

/-- At most four messages are ever sent. -/
theorem Sound.room (sound : Sound services) :
    services.died.log.length ≤ services.died.capacity := by
  have few := sound.few
  have all : services.ended.length ≤ 4 := List.length_filter_le _ _
  rw [sound.capacity]
  omega

/-- No message is sent before a task has ended. -/
theorem Sound.log_ne_nil (sound : Sound services) :
    services.died.log ≠ [] ↔ ∃ task, services.tasks task = .finished := by
  constructor
  · intro sent
    have few := sound.few
    have some : 0 < services.ended.length :=
      Nat.lt_of_lt_of_le (List.length_pos_iff.mpr sent) few
    obtain ⟨task, ended⟩ := List.exists_mem_of_length_pos some
    exact ⟨task, of_decide_eq_true (List.mem_filter.mp ended).2⟩
  · rintro ⟨task, finished⟩
    exact sound.kept task finished

/-- The main function is past the start of a task that runs. -/
theorem Sound.started (sound : Sound services) {task : Task}
    (running : services.tasks task = .running) : services.stage.before task ≠ true := by
  intro early
  rw [sound.unstarted task early] at running
  cases running

/-- A future that waits belongs to a receiver that is kept. -/
theorem Sound.polled (sound : Sound services) {receiver : Receiver}
    (polls : services.polls receiver = true) :
    services.stage.created receiver = true ∧ services.keeps receiver := by
  cases receiver with
  | died =>
    simp only [Services.polls, Receiver.task, Bool.and_eq_true, Bool.not_eq_true',
      decide_eq_true_eq] at polls
    simp [Services.keeps, Receiver.task, Stage.created, Stage.listening, polls]
  | prometheus =>
    simp only [Services.polls, Receiver.task, Bool.and_eq_true, Bool.not_eq_true',
      decide_eq_true_eq] at polls
    exact ⟨Stage.created_of_started (sound.started polls.2) _, polls.1, .inr polls.2⟩
  | server =>
    simp only [Services.polls, Receiver.task, Bool.and_eq_true, Bool.not_eq_true',
      decide_eq_true_eq] at polls
    exact ⟨Stage.created_of_started (sound.started polls.2) _, polls.1, .inr polls.2⟩

/-- A future that waits finds the first message, or nothing yet. -/
theorem Sound.receive (sound : Sound services) {receiver : Receiver}
    (polls : services.polls receiver = true) :
    services.died.receive receiver =
      if services.died.log = [] then .pending else .message () := by
  obtain ⟨created, keeps⟩ := sound.polled polls
  rw [(sound.fresh receiver created keeps).receive sound.room]
  cases sent : services.died.log with
  | cons message rest => rfl
  | nil =>
    have opened : services.died.isOpen = true := by
      apply sound.isOpen
      intro outcome returned
      cases receiver with
      | died => simp [Services.keeps, Receiver.task, returned, Stage.listening] at keeps
      | prometheus =>
        simp [Services.polls, Receiver.task, sound.ended outcome returned] at polls
      | server => simp [Services.polls, Receiver.task, sound.ended outcome returned] at polls
    rw [opened]
    rfl

end Readings

section Steps

variable {services : Services}

/-- The same tasks have ended after a change to the others. -/
theorem Services.ended_congr (services : Services) {after : Services}
    (same : ∀ task, after.tasks task = .finished ↔ services.tasks task = .finished) :
    after.ended = services.ended := by
  simp only [Services.ended, same]

/-- A task that ends is one more. -/
theorem Services.ended_finish {services after : Services} {task : Task}
    (running : services.tasks task = .running)
    (tasks : after.tasks = Function.update services.tasks task .finished) :
    after.ended.length = services.ended.length + 1 := by
  simp only [Services.ended, tasks, ← List.countP_eq_length_filter, List.countP_cons,
    List.countP_nil, Function.update_apply]
  cases task <;> simp [running] <;> omega

/-- The main function creates its receivers before any task starts. -/
theorem Sound.subscribe (sound : Sound services) (receiver : Receiver) {next : Stage}
    (early : ∀ task, services.stage.before task = true)
    (listens : services.stage.created .died = true → services.stage.listening = true)
    (listening : next.listening = true)
    (created : ∀ other, next.created other = true →
      other = receiver ∨ services.stage.created other = true) :
    Sound { services with stage := next, died := services.died.subscribe receiver } := by
  have unstarted task := sound.unstarted task (early task)
  have empty : services.died.log = [] := by
    by_contra sent
    obtain ⟨task, finished⟩ := sound.log_ne_nil.mp sent
    rw [unstarted task] at finished
    cases finished
  have untouched other : services.triggered other = false := by
    by_contra triggered
    exact sound.caused other (Bool.eq_true_of_not_eq_false triggered) empty
  have running : ∀ outcome, services.stage ≠ .returned outcome := by
    intro outcome returned
    have first := early .server
    rw [returned] at first
    cases first
  refine ⟨sound.capacity, sound.few, sound.kept, fun task _ => unstarted task, ?_,
    fun _ => sound.isOpen running, sound.caused, fun _ => untouched .died, ?_, sound.absent, ?_, ?_,
    sound.logged, sound.notified⟩
  · intro other there _
    show Function.update services.died.seen receiver (some services.died.log.length) other = some 0
    rw [Function.update_apply, empty]
    split
    · rfl
    · rename_i distinct
      have before := (created other there).resolve_left distinct
      refine sound.fresh other before ⟨untouched other, ?_⟩
      cases other with
      | died => exact listens before
      | prometheus => exact .inl (unstarted .prometheus)
      | server => exact .inl (unstarted .server)
  · rintro (stage | stage | stage) <;> simp only at stage <;> rw [stage] at listening <;>
      cases listening
  · intro outcome returned
    simp only at returned
    rw [returned] at listening
    cases listening
  · intro task aborted
    simp only [unstarted task, reduceCtorEq] at aborted

/-- The main function starts a task that it has not started before. -/
theorem Sound.spawn (sound : Sound services) (task : Task) {next : Stage}
    (first : services.stage.before task = true)
    (listens : services.stage.listening = true) (listening : next.listening = true)
    (created : ∀ receiver, next.created receiver = true → services.stage.created receiver = true)
    (later : ∀ other, next.before other = true → other ≠ task ∧
      services.stage.before other = true)
    (address : task = .prometheus → services.prometheusAddress = true) :
    Sound { services.spawn task with stage := next } := by
  have notStarted := sound.unstarted task first
  have elsewhere other (distinct : other ≠ task) :
      (services.spawn task).tasks other = services.tasks other :=
    Function.update_of_ne distinct _ _
  have here : (services.spawn task).tasks task = .running := Function.update_self _ _ _
  have settled other (state : TaskState) (isNew : state ≠ .running) (old : state ≠ .notStarted) :
      (services.spawn task).tasks other = state ↔ services.tasks other = state := by
    by_cases same : other = task
    · rw [same, here, notStarted]
      exact ⟨fun eq => absurd eq.symm isNew, fun eq => absurd eq.symm old⟩
    · rw [elsewhere other same]
  have running : ∀ outcome, services.stage ≠ .returned outcome := by
    intro outcome returned
    rw [returned] at listens
    cases listens
  refine ⟨sound.capacity, ?_, ?_, ?_, ?_, fun _ => sound.isOpen running, sound.caused,
    fun _ => sound.untriggered listens, ?_, ?_, ?_, ?_, sound.logged, sound.notified⟩
  · rw [Services.ended_congr services]
    · exact sound.few
    · exact fun other => settled other .finished (by decide) (by decide)
  · intro other finished
    exact sound.kept other ((settled other .finished (by decide) (by decide)).mp finished)
  · intro other early
    obtain ⟨distinct, before⟩ := later other early
    exact (elsewhere other distinct).trans (sound.unstarted other before)
  · intro receiver there keeps
    refine sound.fresh receiver (created receiver there) ⟨keeps.1, ?_⟩
    cases receiver with
    | died => exact listens
    | prometheus =>
      by_cases same : Task.prometheus = task
      · exact .inl (same ▸ notStarted)
      · have state := keeps.2
        simp only [Receiver.task, elsewhere _ same] at state
        exact state
    | server =>
      by_cases same : Task.server = task
      · exact .inl (same ▸ notStarted)
      · have state := keeps.2
        simp only [Receiver.task, elsewhere _ same] at state
        exact state
  · rintro (stage | stage | stage) <;> simp only at stage <;> rw [stage] at listening <;>
      cases listening
  · intro without
    refine ⟨?_, (sound.absent without).2⟩
    have distinct : Task.prometheus ≠ task := by
      intro same
      exact Bool.false_ne_true (without.symm.trans (address same.symm))
    exact (elsewhere _ distinct).trans (sound.absent without).1
  · intro outcome returned
    simp only at returned
    rw [returned] at listening
    cases listening
  · intro other aborted
    obtain ⟨outcome, returned⟩ :=
      sound.aborted other ((settled other .aborted (by decide) (by decide)).mp aborted)
    exact absurd returned (running outcome)

/-- The end of the main function aborts what is still running. -/
theorem Sound.finish (sound : Sound services) {outcome : Outcome}
    (created : ∀ receiver, services.stage.created receiver = true)
    (waited : outcome ≠ .failedToStart → services.stage = .awaitServer) :
    Sound (services.finish outcome) := by
  have settled task (state : TaskState) (isNew : state ≠ .running) (old : state ≠ .aborted) :
      (services.finish outcome).tasks task = state ↔ services.tasks task = state := by
    simp only [Services.finish]
    split
    · rename_i running
      rw [running]
      exact ⟨fun eq => absurd eq.symm old, fun eq => absurd eq.symm isNew⟩
    · exact Iff.rfl
  have stopped task : (services.finish outcome).tasks task ≠ .running := by
    simp only [Services.finish]
    split
    · decide
    · assumption
  refine ⟨sound.capacity, ?_, ?_, ?_, ?_, ?_, sound.caused, ?_, ?_, ?_, fun _ _ => stopped, ?_,
    sound.logged, sound.notified⟩
  · rw [Services.ended_congr services]
    · exact sound.few
    · exact fun task => settled task .finished (by decide) (by decide)
  · intro task finished
    exact sound.kept task ((settled task .finished (by decide) (by decide)).mp finished)
  · intro task early
    cases task <;> cases early
  · intro receiver there keeps
    refine sound.fresh receiver (created receiver) ⟨keeps.1, ?_⟩
    cases receiver with
    | died => cases keeps.2
    | prometheus =>
      exact keeps.2.imp (settled .prometheus .notStarted (by decide) (by decide)).mp
        (fun running => absurd running (stopped .prometheus))
    | server =>
      exact keeps.2.imp (settled .server .notStarted (by decide) (by decide)).mp
        (fun running => absurd running (stopped .server))
  · intro running
    exact absurd rfl (running outcome)
  · intro listening
    cases listening
  · rintro (stage | stage | stage)
    · cases stage
    · refine sound.triggered (.inl (waited ?_))
      rintro rfl
      cases stage
    · refine sound.triggered (.inl (waited ?_))
      rintro rfl
      cases stage
  · intro without
    obtain ⟨notStarted, untouched⟩ := sound.absent without
    exact ⟨(settled .prometheus .notStarted (by decide) (by decide)).mpr notStarted, untouched⟩
  · exact fun _ _ => ⟨outcome, rfl⟩

/-- The main function passes a task that is not configured. -/
theorem Sound.skip (sound : Sound services) {next : Stage}
    (listens : services.stage.listening = true) (listening : next.listening = true)
    (created : ∀ receiver, next.created receiver = true → services.stage.created receiver = true)
    (later : ∀ task, next.before task = true → services.stage.before task = true) :
    Sound { services with stage := next } := by
  have running : ∀ outcome, services.stage ≠ .returned outcome := by
    intro outcome returned
    rw [returned] at listens
    cases listens
  refine ⟨sound.capacity, sound.few, sound.kept,
    fun task early => sound.unstarted task (later task early), ?_, fun _ => sound.isOpen running,
    sound.caused, fun _ => sound.untriggered listens, ?_, sound.absent, ?_, ?_, sound.logged,
    sound.notified⟩
  · intro receiver there keeps
    refine sound.fresh receiver (created receiver there) ⟨keeps.1, ?_⟩
    cases receiver with
    | died => exact listens
    | prometheus => exact keeps.2
    | server => exact keeps.2
  · rintro (stage | stage | stage) <;> simp only at stage <;> rw [stage] at listening <;>
      cases listening
  · intro outcome returned
    simp only at returned
    rw [returned] at listening
    cases listening
  · intro task aborted
    obtain ⟨outcome, returned⟩ := sound.aborted task aborted
    exact absurd returned (running outcome)

@[simp]
theorem Services.dropReceiver_capacity (services : Services) (task : Task) :
    (services.dropReceiver task).capacity = services.died.capacity := by
  cases task <;> rfl

@[simp]
theorem Services.dropReceiver_log (services : Services) (task : Task) :
    (services.dropReceiver task).log = services.died.log := by
  cases task <;> rfl

@[simp]
theorem Services.dropReceiver_isOpen (services : Services) (task : Task) :
    (services.dropReceiver task).isOpen = services.died.isOpen := by
  cases task <;> rfl

/-- Only the receiver of the task is dropped. -/
theorem Services.dropReceiver_seen (services : Services) {task : Task} {receiver : Receiver}
    (other : receiver.task ≠ some task) :
    (services.dropReceiver task).seen receiver = services.died.seen receiver := by
  cases task <;> cases receiver <;> first | rfl | exact absurd rfl other

/-- The receivers that are kept after one is dropped. -/
theorem Sound.fresh_drop (sound : Sound services) {receiver other : Receiver}
    (there : services.stage.created other = true) (keeps : services.keeps other)
    (distinct : other ≠ receiver) : (services.died.drop receiver).Fresh other := by
  show Function.update services.died.seen receiver none other = some 0
  rw [Function.update_of_ne distinct]
  exact sound.fresh other there keeps

/-- The main function goes on when its future has a message. -/
theorem Sound.triggerMain (sound : Sound services) (polls : services.polls .died = true)
    (sent : services.died.log ≠ []) : Sound (services.shutdownTrigger .died) := by
  simp only [Services.polls, Receiver.task, Bool.and_eq_true, Bool.not_eq_true',
    decide_eq_true_eq] at polls
  have notReturned : ∀ outcome, services.stage ≠ .returned outcome := by simp [polls.2]
  have created receiver : services.stage.created receiver = true := by
    rw [polls.2]
    cases receiver <;> rfl
  refine ⟨sound.capacity, sound.few, sound.kept, ?_, ?_, fun _ => sound.isOpen notReturned,
    fun _ _ => sent, ?_, fun _ => rfl, sound.absent, ?_, ?_, sound.logged, ?_⟩
  · intro task early
    cases task <;> cases early
  · intro other there keeps
    cases other with
    | died => cases keeps.2
    | prometheus => exact sound.fresh_drop (created _) ⟨keeps.1, keeps.2⟩ (by decide)
    | server => exact sound.fresh_drop (created _) ⟨keeps.1, keeps.2⟩ (by decide)
  · intro listening
    cases listening
  · intro outcome returned
    cases returned
  · intro task aborted
    obtain ⟨outcome, returned⟩ := sound.aborted task aborted
    exact absurd returned (notReturned outcome)
  · exact fun logged => ⟨rfl, (sound.notified logged).2⟩

/-- A task knows that it must stop when its future has a message. -/
theorem Sound.triggerTask (sound : Sound services) {receiver : Receiver} {task : Task}
    (isTask : receiver.task = some task) (running : services.tasks task = .running)
    (sent : services.died.log ≠ []) : Sound (services.shutdownTrigger receiver) := by
  have distinct : receiver ≠ .died := by
    rintro rfl
    cases isTask
  have same : services.shutdownTrigger receiver = { services with
      died := services.died.drop receiver
      triggered := Function.update services.triggered receiver true } := by
    cases receiver with
    | died => exact absurd rfl distinct
    | prometheus => rfl
    | server => rfl
  have elsewhere other (apart : other ≠ receiver) :
      Function.update services.triggered receiver true other = services.triggered other :=
    Function.update_of_ne apart _ _
  have main := elsewhere .died distinct.symm
  rw [same]
  refine ⟨sound.capacity, sound.few, sound.kept, sound.unstarted, ?_, sound.isOpen,
    fun _ _ => sent, fun listens => main.trans (sound.untriggered listens),
    fun late => main.trans (sound.triggered late), ?_, sound.ended, sound.aborted, sound.logged,
    fun logged => ⟨main.trans (sound.notified logged).1, (sound.notified logged).2⟩⟩
  · intro other there keeps
    have apart : other ≠ receiver := by
      rintro rfl
      exact absurd keeps.1 (by simp)
    have untouched := (elsewhere other apart).symm.trans keeps.1
    exact sound.fresh_drop there ⟨untouched, keeps.2⟩ apart
  · intro without
    obtain ⟨notStarted, untouched⟩ := sound.absent without
    refine ⟨notStarted, (elsewhere .prometheus ?_).trans untouched⟩
    rintro rfl
    cases isTask
    rw [notStarted] at running
    cases running

/-- A future that waits finds a message only when a task has ended, and is over then. -/
theorem Sound.poll (sound : Sound services) {receiver : Receiver}
    (polls : services.polls receiver = true) : Sound (services.poll receiver) := by
  unfold Services.poll
  rw [sound.receive polls]
  split_ifs with empty
  · exact sound
  · cases receiver with
    | died => exact sound.triggerMain polls empty
    | prometheus =>
      simp only [Services.polls, Receiver.task, Bool.and_eq_true, decide_eq_true_eq] at polls
      exact sound.triggerTask rfl polls.2 empty
    | server =>
      simp only [Services.polls, Receiver.task, Bool.and_eq_true, decide_eq_true_eq] at polls
      exact sound.triggerTask rfl polls.2 empty

/-- A task that is over leaves the other receivers as they are. -/
theorem Sound.fresh_leave (sound : Sound services) {task : Task} {state : TaskState}
    (isOver : state ≠ .notStarted ∧ state ≠ .running) {other : Receiver}
    (there : services.stage.created other = true) (untouched : services.triggered other = false)
    (keeps : match other.task with
      | none => services.stage.listening = true
      | some its => Function.update services.tasks task state its = .notStarted ∨
          Function.update services.tasks task state its = .running) :
    (services.dropReceiver task).seen other = some 0 := by
  have apart : other.task ≠ some task := by
    intro same
    rw [same] at keeps
    simp only [Function.update_self] at keeps
    exact keeps.elim isOver.1 isOver.2
  rw [services.dropReceiver_seen apart]
  refine sound.fresh other there ⟨untouched, ?_⟩
  cases isTask : other.task with
  | none =>
    rw [isTask] at keeps
    exact keeps
  | some its =>
    rw [isTask] at keeps apart
    have distinct : its ≠ task := fun same => apart (congrArg some same)
    simp only [Function.update_of_ne distinct] at keeps
    exact keeps

/-- A running task is over, and it has sent some messages. -/
theorem Sound.leave (sound : Sound services) {task : Task} (state : TaskState)
    (messages : List Unit) (running : services.tasks task = .running)
    (isOver : state = .finished ∨ state = .panicked)
    (few : messages.length ≤ if state = .finished then 1 else 0)
    (kept : state = .finished → services.died.log ++ messages ≠ []) :
    Sound { services with
      tasks := Function.update services.tasks task state
      died := { services.dropReceiver task with log := services.died.log ++ messages } } := by
  have settled : state ≠ .notStarted ∧ state ≠ .running ∧ state ≠ .aborted := by
    rcases isOver with rfl | rfl <;> decide
  have elsewhere other (distinct : other ≠ task) :
      Function.update services.tasks task state other = services.tasks other :=
    Function.update_of_ne distinct _ _
  have started : services.tasks task ≠ .notStarted := by
    rw [running]
    decide
  refine ⟨?_, ?_, ?_, ?_, ?_, ?_, ?_, sound.untriggered, sound.triggered, ?_, ?_, ?_,
    sound.logged, sound.notified⟩
  · exact (services.dropReceiver_capacity task).trans sound.capacity
  · have before := sound.few
    rw [List.length_append]
    rcases isOver with rfl | rfl
    · rw [Services.ended_finish running rfl]
      exact Nat.add_le_add before few
    · rw [Services.ended_congr services]
      · exact Nat.add_le_add before few
      · intro other
        by_cases same : other = task
        · rw [same, running]
          simp
        · exact ⟨(elsewhere other same).symm.trans, (elsewhere other same).trans⟩
  · intro other finished
    by_cases same : other = task
    · rw [same] at finished
      exact kept ((Function.update_self _ _ _).symm.trans finished)
    · have sent := sound.kept other ((elsewhere other same).symm.trans finished)
      exact List.append_ne_nil_of_left_ne_nil sent _
  · intro other early
    have notStarted := sound.unstarted other early
    exact (elsewhere other (fun same => started (same ▸ notStarted))).trans notStarted
  · exact fun other there keeps =>
      sound.fresh_leave ⟨settled.1, settled.2.1⟩ there keeps.1 keeps.2
  · exact fun notReturned => (services.dropReceiver_isOpen task).trans (sound.isOpen notReturned)
  · exact fun other triggered =>
      List.append_ne_nil_of_left_ne_nil (sound.caused other triggered) _
  · intro without
    obtain ⟨notStarted, untouched⟩ := sound.absent without
    exact ⟨(elsewhere _ (fun same => started (same ▸ notStarted))).trans notStarted, untouched⟩
  · exact fun outcome returned => absurd running (sound.ended outcome returned task)
  · intro other aborted
    by_cases same : other = task
    · rw [same] at aborted
      exact absurd ((Function.update_self _ _ _).symm.trans aborted) settled.2.2
    · exact sound.aborted other ((elsewhere other same).symm.trans aborted)

/-- The main function has a trigger, and Prometheus a receiver, when a task cannot send. -/
theorem Sound.refused (sound : Sound services) {task : Task}
    (running : services.tasks task = .running)
    (refused : (services.dropReceiver task).send () = none) :
    services.triggered .died = true ∧ services.prometheusAddress = true := by
  have alone receiver : (services.dropReceiver task).seen receiver = none := by
    by_contra listens
    rw [Broadcast.send, if_pos ⟨receiver, Option.isSome_iff_ne_none.mpr listens⟩] at refused
    cases refused
  have created := Stage.created_of_started (sound.started running)
  constructor
  · by_contra untouched
    have listens : services.stage.listening = true := by
      cases stage : services.stage with
      | channel => cases stage ▸ created .died
      | awaitServer => exact absurd (sound.triggered (.inl stage)) untouched
      | returned outcome => exact absurd running (sound.ended outcome stage task)
      | _ => rfl
    have fresh := sound.fresh .died (created _) ⟨Bool.eq_false_iff.mpr untouched, listens⟩
    have gone := (services.dropReceiver_seen (by simp [Receiver.task])).symm.trans (alone .died)
    exact Option.some_ne_none _ (fresh.symm.trans gone)
  · by_contra without
    obtain ⟨notStarted, untouched⟩ := sound.absent (Bool.eq_false_iff.mpr without)
    have fresh := sound.fresh .prometheus (created _) ⟨untouched, .inl notStarted⟩
    have apart : Receiver.task .prometheus ≠ some task := by
      intro same
      cases same
      rw [notStarted] at running
      cases running
    have gone := (services.dropReceiver_seen apart).symm.trans (alone .prometheus)
    exact Option.some_ne_none _ (fresh.symm.trans gone)

theorem Sound.logs (sound : Sound services)
    (notified : services.triggered .died = true ∧ services.prometheusAddress = true) :
    Sound (services.logs .unableToNotify) := by
  refine ⟨sound.capacity, sound.few, sound.kept, sound.unstarted, sound.fresh, sound.isOpen,
    sound.caused, sound.untriggered, sound.triggered, sound.absent, sound.ended, sound.aborted,
    ?_, fun _ => notified⟩
  intro logged
  rcases List.mem_append.mp logged with logged | logged
  · exact sound.logged logged
  · simp at logged

theorem Sound.panic (sound : Sound services) {task : Task}
    (running : services.tasks task = .running) :
    Sound { services with
      tasks := Function.update services.tasks task .panicked
      died := services.dropReceiver task } := by
  have left := sound.leave .panicked [] running (.inr rfl) (Nat.zero_le _)
    (fun finished => absurd finished (by decide))
  rw [List.append_nil, ← services.dropReceiver_log task] at left
  exact left

theorem Sound.finishTask (sound : Sound services) {task : Task}
    (running : services.tasks task = .running) : Sound (services.finishTask task) := by
  unfold Services.finishTask
  cases sent : (services.dropReceiver task).send () with
  | some died =>
    rw [Broadcast.send] at sent
    split at sent
    · cases sent
      rw [services.dropReceiver_log]
      exact sound.leave .finished [()] running (.inl rfl) (Nat.le_refl 1) (fun _ => by simp)
    · cases sent
  | none =>
    have notified := sound.refused running sent
    have messages := sound.caused .died notified.1
    have left := sound.leave .finished [] running (.inl rfl) (Nat.zero_le _)
      (fun _ => by rwa [List.append_nil])
    rw [List.append_nil, ← services.dropReceiver_log task] at left
    simp only
    split
    · exact left.logs notified
    · exact left

/-- Every statement of the main function keeps the service sound. -/
theorem Sound.main (sound : Sound services) : Sound services.main := by
  unfold Services.main
  cases stage : services.stage with
  | channel =>
    exact sound.subscribe .died (by rw [stage]; decide) (by rw [stage]; decide) rfl
      (by rw [stage]; decide)
  | prometheusReceiver =>
    exact sound.subscribe .prometheus (by rw [stage]; decide) (by rw [stage]; decide) rfl
      (by rw [stage]; decide)
  | serverReceiver =>
    exact sound.subscribe .server (by rw [stage]; decide) (by rw [stage]; decide) rfl
      (by rw [stage]; decide)
  | setShutdown =>
    exact sound.spawn .shutdownSignal (by rw [stage]; decide) (by rw [stage]; decide) rfl
      (by rw [stage]; decide) (by rw [stage]; decide) (fun same => absurd same (by decide))
  | startPrometheus =>
    simp only
    split
    · rename_i address
      exact sound.spawn .prometheus (by rw [stage]; decide) (by rw [stage]; decide) rfl
        (by rw [stage]; decide) (by rw [stage]; decide) (fun _ => address)
    · exact sound.skip (by rw [stage]; decide) rfl (by rw [stage]; decide) (by rw [stage]; decide)
  | startSender =>
    exact sound.spawn .transactionSender (by rw [stage]; decide) (by rw [stage]; decide) rfl
      (by rw [stage]; decide) (by rw [stage]; decide) (fun same => absurd same (by decide))
  | startServer =>
    exact sound.spawn .server (by rw [stage]; decide) (by rw [stage]; decide) rfl
      (by rw [stage]; decide) (by rw [stage]; decide) (fun same => absurd same (by decide))
  | awaitTrigger => exact sound
  | awaitServer =>
    simp only
    split
    · exact sound
    · exact sound.finish (by rw [stage]; decide) (fun _ => stage)
  | returned outcome => exact sound

/-- Every event keeps the service sound. -/
theorem Sound.step (sound : Sound services) (event : ServiceEvent) :
    Sound (services.step event) := by
  cases event with
  | main => exact sound.main
  | mainFails =>
    simp only [Services.step]
    split
    · rename_i stage
      exact sound.finish (by rw [stage]; decide) (fun failed => absurd rfl failed)
    · rename_i stage
      exact sound.finish (by rw [stage]; decide) (fun failed => absurd rfl failed)
    · exact sound
  | poll receiver =>
    simp only [Services.step]
    split_ifs with polls
    · exact sound.poll polls
    · exact sound
  | finish task =>
    simp only [Services.step]
    split_ifs with running
    · exact sound.finishTask running
    · exact sound
  | panic task =>
    simp only [Services.step]
    split_ifs with running
    · exact sound.panic running
    · exact sound
  | timeout =>
    simp only [Services.step]
    split
    · rename_i stage
      split_ifs
      · exact sound.finish (by rw [stage]; decide) (fun _ => stage)
      · exact sound
    · exact sound

end Steps

/-- A service is sound after any events. -/
theorem Sound.run (prometheusAddress : Bool) (events : List ServiceEvent) :
    Sound ((Services.start prometheusAddress).run events) := by
  induction events using List.reverseRecOn with
  | nil => exact .start prometheusAddress
  | append_singleton events event sound =>
    rw [Services.run, List.foldl_concat]
    exact sound.step event

/-- The end of one task reaches every other, and the main function outlives them all. -/
structure Orderly (services : Services) : Prop where
  informed : ∀ receiver, services.polls receiver = true →
    services.died.receive receiver =
      if ∃ task, services.tasks task = .finished then .message () else .pending
  caused : ∀ receiver, services.triggered receiver = true → ∃ task, services.tasks task = .finished
  unclosed : .channelClosed ∉ services.log
  notified : .unableToNotify ∈ services.log →
    services.triggered .died = true ∧ services.prometheusAddress = true
  ends : services.stage = .awaitTrigger → ∀ task, services.tasks task = .finished →
    (services.run [.poll .died, .main, .timeout]).stage =
      .returned (if services.tasks .server = .running then .terminatedForcefully else .stopped)
  ended : ∀ outcome, services.stage = .returned outcome →
    (outcome = .failedToStart ∨ services.triggered .died = true) ∧
      ∀ task, services.tasks task ≠ .running
  aborted : ∀ task, services.tasks task = .aborted → ∃ outcome, services.stage = .returned outcome

/-- The main function stops within its timeout once a task has ended. -/
theorem Sound.ends {services : Services} (sound : Sound services)
    (waits : services.stage = .awaitTrigger) {task : Task}
    (finished : services.tasks task = .finished) :
    (services.run [.poll .died, .main, .timeout]).stage =
      .returned (if services.tasks .server = .running then .terminatedForcefully
        else .stopped) := by
  have polls : services.polls .died = true := by
    simp [Services.polls, Receiver.task, waits, sound.untriggered, Stage.listening]
  have sent := sound.kept task finished
  have first : services.step (.poll .died) = services.shutdownTrigger .died := by
    simp only [Services.step, polls, if_true, Services.poll]
    rw [sound.receive polls, if_neg sent]
  simp only [Services.run, List.foldl_cons, List.foldl_nil, first]
  by_cases running : services.tasks .server = .running
  · simp [Services.step, Services.main, Services.shutdownTrigger, Services.finish, running]
  · simp [Services.step, Services.main, Services.shutdownTrigger, Services.finish, running]

end Web3Id.Issuer
