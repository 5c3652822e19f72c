import Web3Id.Library.CounterDiscipline

namespace Web3Id.Library

namespace Program

variable {Call Reply A : Type}

/-- After its first calls are answered, a program goes on with the rest. -/
inductive Leaves : Program Call (fun _ => Reply) A → List (Call × Reply) →
    Program Call (fun _ => Reply) A → Prop
  | start (program : Program Call (fun _ => Reply) A) : Leaves program [] program
  | answered {call : Call} {next : Reply → Program Call (fun _ => Reply) A} {reply : Reply}
      {trace : List (Call × Reply)} {rest : Program Call (fun _ => Reply) A}
      (later : Leaves (next reply) trace rest) :
      Leaves (.call call next) ((call, reply) :: trace) rest

/-- A further reply moves the rest by one call. -/
theorem Leaves.snoc {program : Program Call (fun _ => Reply) A} {trace : List (Call × Reply)}
    {call : Call} {next : Reply → Program Call (fun _ => Reply) A}
    (leaves : Leaves program trace (.call call next)) (reply : Reply) :
    Leaves program (trace ++ [(call, reply)]) (next reply) := by
  generalize same : (Program.call call next : Program Call (fun _ => Reply) A) = rest at leaves
  induction leaves with
  | start program =>
      subst same
      exact .answered (.start _)
  | answered later ih => exact .answered (ih same)

/-- A program that returns makes no call. -/
theorem Leaves.of_pure {value : A} {trace : List (Call × Reply)}
    {rest : Program Call (fun _ => Reply) A} (leaves : Leaves (.pure value) trace rest) :
    trace = [] ∧ rest = .pure value := by
  cases leaves with
  | start => exact ⟨rfl, rfl⟩

/-- A program that calls waits for its reply, or goes on with it. -/
theorem Leaves.of_call {call : Call} {next : Reply → Program Call (fun _ => Reply) A}
    {trace : List (Call × Reply)} {rest : Program Call (fun _ => Reply) A}
    (leaves : Leaves (.call call next) trace rest) :
    (trace = [] ∧ rest = .call call next) ∨
      ∃ reply later, trace = (call, reply) :: later ∧ Leaves (next reply) later rest := by
  cases leaves with
  | start => exact .inl ⟨rfl, rfl⟩
  | answered later => exact .inr ⟨_, _, rfl, later⟩

end Program

namespace Worker

variable {State Clock Job Call Reply Answer : Type}

/-- The answer that a client has got. -/
def Client.answer : Option (Client Job Answer) → Option Answer
  | some (.answered answer) | some (.returned answer) => some answer
  | _ => none

/-- The calls that served a client, with their replies. -/
def System.callsOf (system : System State Job Call Reply Answer) (client : Nat) :
    List (Call × Reply) :=
  (system.sent.filter fun sent => sent.client = client).map fun sent => (sent.call, sent.reply)

/-- The calls of a client are those that the history keeps for it. -/
theorem System.mem_callsOf {system : System State Job Call Reply Answer} {client : Nat}
    {call : Call} {reply : Reply} :
    (call, reply) ∈ system.callsOf client ↔ ⟨client, call, reply⟩ ∈ system.sent := by
  simp only [System.callsOf, List.mem_map, List.mem_filter, decide_eq_true_eq, Prod.mk.injEq]
  constructor
  · rintro ⟨⟨_, _, _⟩, ⟨member, rfl⟩, rfl, rfl⟩
    exact member
  · intro member
    exact ⟨_, ⟨member, rfl⟩, rfl, rfl⟩

/-- The first connection of a client names its job. -/
def connected : List (Event Clock Job Reply) → Nat → Option Job
  | [], _ => none
  | .connect other job :: events, client =>
      if other = client then some job else connected events client
  | _ :: events, client => connected events client

/-- The worker takes the job of a client and reads its clock. -/
def System.Takes (system : System State Job Call Reply Answer) (event : Event Clock Job Reply)
    (client : Nat) (clock : Clock) : Prop :=
  event = .dequeue clock ∧ system.phase = .idle ∧ ∃ job rest, system.queue = (client, job) :: rest

/-- The calls that served a client come from one iteration on a job of this client, with a clock
that the worker has read for it. -/
def System.Iterates (worker : Worker State Clock Job Call Reply Answer) (holds : State → Prop)
    (admitted : Nat → Job → Prop) (reads : Nat → Clock → Prop)
    (system : System State Job Call Reply Answer) (client : Nat)
    (rest : Program Call (fun _ => Reply) (State × Answer × Bool)) : Prop :=
  ∃ job state clock, admitted client job ∧ reads client clock ∧ holds state ∧
    Program.Leaves (worker.iteration state clock job) (system.callsOf client) rest

/-- The invariant follows each job from its client through the channel to the answer. -/
structure Traced (worker : Worker State Clock Job Call Reply Answer) (holds : State → Prop)
    (admitted : Nat → Job → Prop) (reads : Nat → Clock → Prop)
    (system : System State Job Call Reply Answer) : Prop where
  state : holds system.state
  split : system.enqueued = system.dequeued ++ system.queue.map Prod.fst
  distinct : system.enqueued.Nodup
  entered : ∀ client ∈ system.enqueued, Client.entered (system.clients client) = true
  sending : ∀ client job, system.clients client = some (.sending job) → admitted client job
  queued : ∀ entry ∈ system.queue, admitted entry.1 entry.2
  sent : ∀ sent ∈ system.sent, sent.client ∈ system.dequeued
  served : ∀ client ∈ system.dequeued, ∃ rest,
    system.Iterates worker holds admitted reads client rest
  answered : ∀ client answer, Client.answer (system.clients client) = some answer →
    client ∈ system.dequeued ∧ ∃ after continues,
      system.Iterates worker holds admitted reads client (.pure (after, answer, continues))
  busy : ∀ client program, system.phase = .busy client program →
    client ∈ system.dequeued ∧ Client.answer (system.clients client) = none ∧
      system.Iterates worker holds admitted reads client program

/-- An iteration that runs to its end keeps the property of the state. -/
def Keeps (worker : Worker State Clock Job Call Reply Answer) (holds : State → Prop) : Prop :=
  ∀ state clock job trace after answer continues, holds state →
    Program.Leaves (worker.iteration state clock job) trace (.pure (after, answer, continues)) →
    holds after

variable {worker : Worker State Clock Job Call Reply Answer} {holds : State → Prop}
  {admitted : Nat → Job → Prop} {reads : Nat → Clock → Prop}
  {system : System State Job Call Reply Answer}

theorem Traced.initial {state : State} (start : holds state) :
    Traced worker holds admitted reads (.initial state) where
  state := start
  split := rfl
  distinct := List.nodup_nil
  entered := by simp [System.initial]
  sending := by simp [System.initial]
  queued := by simp [System.initial]
  sent := by simp [System.initial]
  served := by simp [System.initial]
  answered := by simp [System.initial, Client.answer]
  busy := by simp [System.initial]

/-- A client that was not taken has made no call. -/
theorem Traced.callsOf_untaken (traced : Traced worker holds admitted reads system) {client : Nat}
    (untaken : client ∉ system.dequeued) : system.callsOf client = [] := by
  rw [System.callsOf, List.map_eq_nil_iff, List.filter_eq_nil_iff]
  intro sent member same
  exact untaken (of_decide_eq_true same ▸ traced.sent sent member)

theorem System.Iterates.mono {more : Nat → Job → Prop} {client : Nat}
    {rest : Program Call (fun _ => Reply) (State × Answer × Bool)}
    (iterates : system.Iterates worker holds admitted reads client rest)
    (implies : ∀ client job, admitted client job → more client job) :
    system.Iterates worker holds more reads client rest := by
  obtain ⟨job, state, clock, own, read, kept, leaves⟩ := iterates
  exact ⟨job, state, clock, implies _ _ own, read, kept, leaves⟩

/-- More admitted jobs keep the invariant. -/
theorem Traced.mono {more : Nat → Job → Prop} (traced : Traced worker holds admitted reads system)
    (implies : ∀ client job, admitted client job → more client job) :
    Traced worker holds more reads system :=
  { traced with
    sending := fun client job sends => implies _ _ (traced.sending client job sends)
    queued := fun entry member => implies _ _ (traced.queued entry member)
    served := fun client taken =>
      (traced.served client taken).imp fun _ iterates => iterates.mono implies
    answered := fun client answer got => by
      obtain ⟨taken, after, continues, iterates⟩ := traced.answered client answer got
      exact ⟨taken, after, continues, iterates.mono implies⟩
    busy := fun client program works => by
      obtain ⟨taken, unanswered, iterates⟩ := traced.busy client program works
      exact ⟨taken, unanswered, iterates.mono implies⟩ }

/-- A move of one client to a form without a new answer keeps the invariant. -/
theorem Traced.update (traced : Traced worker holds admitted reads system) (target : Nat)
    {value : Client Job Answer}
    (enters : Client.entered (some value) = true ∨ target ∉ system.enqueued)
    (sends : ∀ job, value = .sending job → admitted target job)
    (answers : ∀ answer, Client.answer (some value) = some answer →
      Client.answer (system.clients target) = some answer) :
    Traced worker holds admitted reads
      { system with clients := Function.update system.clients target (some value) } := by
  have others : ∀ client answer,
      Client.answer (Function.update system.clients target (some value) client) = some answer →
      Client.answer (system.clients client) = some answer := by
    intro client answer got
    by_cases same : client = target
    · subst same
      rw [Function.update_self] at got
      exact answers answer got
    · rwa [Function.update_of_ne same] at got
  refine { traced with entered := ?_, sending := ?_, answered := ?_, busy := ?_ }
  · intro client member
    by_cases same : client = target
    · subst same
      rcases enters with enters | outside
      · simpa using enters
      · exact absurd member outside
    · simpa [Function.update_of_ne same] using traced.entered client member
  · intro client job sending
    by_cases same : client = target
    · subst same
      exact sends job (by simpa using sending)
    · exact traced.sending client job (by simpa [Function.update_of_ne same] using sending)
  · intro client answer got
    exact traced.answered client answer (others client answer got)
  · intro client program works
    obtain ⟨taken, unanswered, iterates⟩ := traced.busy client program works
    refine ⟨taken, ?_, iterates⟩
    rw [Option.eq_none_iff_forall_ne_some]
    intro answer got
    have before := others client answer got
    rw [unanswered] at before
    cases before

/-- A client that has not entered the channel is outside of it. -/
theorem Traced.outside (traced : Traced worker holds admitted reads system) {client : Nat}
    (absent : Client.entered (system.clients client) = false) : client ∉ system.enqueued := by
  intro member
  rw [traced.entered client member] at absent
  cases absent

/-- The client at the head of the channel has not been taken before. -/
theorem Traced.head_untaken (traced : Traced worker holds admitted reads system) {client : Nat}
    {job : Job} {rest : List (Nat × Job)} (head : system.queue = (client, job) :: rest) :
    client ∉ system.dequeued := by
  intro member
  have distinct := traced.distinct
  rw [traced.split, head, List.map_cons] at distinct
  exact List.disjoint_of_nodup_append distinct member List.mem_cons_self

/-- The worker takes the oldest job. -/
theorem Traced.take (traced : Traced worker holds admitted reads system) {client : Nat} {job : Job}
    {rest : List (Nat × Job)} (head : system.queue = (client, job) :: rest)
    (idle : system.phase = .idle) {clock : Clock} (read : reads client clock) :
    Traced worker holds admitted reads (system.take client rest) ∧
      (system.take client rest).Iterates worker holds admitted reads client
        (worker.iteration system.state clock job) := by
  have own : admitted client job := by
    apply traced.queued (client, job)
    rw [head]
    exact List.mem_cons_self
  have begins : (system.take client rest).Iterates worker holds admitted reads client
      (worker.iteration system.state clock job) := by
    refine ⟨job, system.state, clock, own, read, traced.state, ?_⟩
    change Program.Leaves _ (system.callsOf client) _
    rw [traced.callsOf_untaken (traced.head_untaken head)]
    exact .start _
  refine ⟨{ traced with
    split := ?_, queued := ?_, sent := ?_, served := ?_, answered := ?_, busy := ?_ }, begins⟩
  · have split := traced.split
    rw [head] at split
    simpa [System.take] using split
  · intro entry member
    apply traced.queued entry
    rw [head]
    exact List.mem_cons_of_mem _ member
  · intro sent member
    exact List.mem_append_left _ (traced.sent sent member)
  · intro other taken
    rcases List.mem_append.mp taken with before | now
    · exact traced.served other before
    · cases List.mem_singleton.mp now
      exact ⟨_, begins⟩
  · intro other answer got
    obtain ⟨taken, after, continues, iterates⟩ := traced.answered other answer got
    exact ⟨List.mem_append_left _ taken, after, continues, iterates⟩
  · intro other program works
    change system.phase = _ at works
    rw [idle] at works
    cases works

/-- A reply extends the calls of its client and of no other. -/
theorem System.callsOf_record (system : System State Job Call Reply Answer) (client other : Nat)
    (call : Call) (reply : Reply) :
    (system.record ⟨client, call, reply⟩).callsOf other =
      system.callsOf other ++ if client = other then [(call, reply)] else [] := by
  simp only [System.callsOf, System.record, List.filter_append, List.map_append]
  by_cases same : client = other <;> simp [same]

/-- The reply to a call is recorded for the client that the worker serves. -/
theorem Traced.replied (traced : Traced worker holds admitted reads system) {client : Nat}
    {call : Call} {next : Reply → Program Call (fun _ => Reply) (State × Answer × Bool)}
    (works : system.phase = .busy client (.call call next)) (reply : Reply) :
    Traced worker holds admitted reads { system.record ⟨client, call, reply⟩ with phase := .idle } ∧
      (system.record ⟨client, call, reply⟩).Iterates worker holds admitted reads client
        (next reply) := by
  obtain ⟨taken, unanswered, job, state, clock, own, read, kept, leaves⟩ :=
    traced.busy client _ works
  have goesOn : (system.record ⟨client, call, reply⟩).Iterates worker holds admitted reads client
      (next reply) := by
    refine ⟨job, state, clock, own, read, kept, ?_⟩
    rw [System.callsOf_record, if_pos rfl]
    exact leaves.snoc reply
  have others : ∀ other rest, client ≠ other →
      system.Iterates worker holds admitted reads other rest →
      (system.record ⟨client, call, reply⟩).Iterates worker holds admitted reads other rest := by
    intro other rest different iterates
    unfold System.Iterates at iterates ⊢
    rwa [System.callsOf_record, if_neg different, List.append_nil]
  refine ⟨{ traced with sent := ?_, served := ?_, answered := ?_, busy := ?_ }, goesOn⟩
  · intro sent member
    rcases List.mem_append.mp member with before | now
    · exact traced.sent sent before
    · cases List.mem_singleton.mp now
      exact taken
  · intro other before
    by_cases same : client = other
    · subst same
      exact ⟨_, goesOn⟩
    · exact (traced.served other before).imp fun rest => others other rest same
  · intro other answer got
    have different : client ≠ other := by
      rintro rfl
      have none := unanswered.symm.trans got
      cases none
    obtain ⟨before, after, continues, iterates⟩ := traced.answered other answer got
    exact ⟨before, after, continues, others other _ different iterates⟩
  · intro other program idle
    cases idle

/-- The worker waits for its next reply, or delivers the answer. -/
theorem Traced.settle (keeps : worker.Keeps holds) {client : Nat}
    (traced : Traced worker holds admitted reads { system with phase := .idle })
    (taken : client ∈ system.dequeued)
    (unanswered : Client.answer (system.clients client) = none)
    {program : Program Call (fun _ => Reply) (State × Answer × Bool)}
    (iterates : system.Iterates worker holds admitted reads client program) :
    Traced worker holds admitted reads (system.settle client program) := by
  cases program with
  | call call next =>
      refine { traced with busy := ?_ }
      intro other program works
      cases works
      exact ⟨taken, unanswered, iterates⟩
  | pure value =>
      obtain ⟨after, answer, continues⟩ := value
      have own : ∀ other got,
          Client.answer (system.deliver client answer other) = some got →
          Client.answer (system.clients other) = some got ∨ (other = client ∧ got = answer) := by
        intro other got delivered
        rcases deliver_cases system client answer with same | changed
        · rw [same] at delivered
          exact .inl delivered
        · rw [changed] at delivered
          by_cases equal : other = client
          · subst equal
            rw [Function.update_self] at delivered
            exact .inr ⟨rfl, (Option.some.inj delivered).symm⟩
          · rw [Function.update_of_ne equal] at delivered
            exact .inl delivered
      refine { traced with state := ?_, entered := ?_, sending := ?_, answered := ?_, busy := ?_ }
      · obtain ⟨job, state, clock, -, -, kept, leaves⟩ := iterates
        exact keeps _ _ _ _ _ _ _ kept leaves
      · intro other member
        exact deliver_entered system client answer (traced.entered other member)
      · intro other job sending
        rcases deliver_cases system client answer with same | changed
        · exact traced.sending other job ((congrFun same other).symm.trans sending)
        · have sending' : system.deliver client answer other = some (.sending job) := sending
          rw [changed] at sending'
          by_cases equal : other = client
          · subst equal
            rw [Function.update_self] at sending'
            cases sending'
          · rw [Function.update_of_ne equal] at sending'
            exact traced.sending other job sending'
      · intro other got delivered
        rcases own other got delivered with before | ⟨rfl, rfl⟩
        · exact traced.answered other got before
        · exact ⟨taken, after, continues, iterates⟩
      · intro other program works
        change (if continues then Phase.idle else Phase.stopped) = _ at works
        cases continues <;> cases works

/-- Every event keeps the invariant when a new client brings an admitted job, and the worker reads
an admitted clock. -/
theorem Traced.step (keeps : worker.Keeps holds)
    (traced : Traced worker holds admitted reads system) (event : Event Clock Job Reply)
    (admits : ∀ client job, event = .connect client job → system.clients client = none →
      admitted client job)
    (takes : ∀ client clock, system.Takes event client clock → reads client clock) :
    Traced worker holds admitted reads (system.step worker event) := by
  cases event with
  | connect client job =>
      simp only [System.step]
      split
      · rename_i new
        refine traced.update client (.inr (traced.outside (by simp [new, Client.entered]))) ?_ ?_
        · rintro other ⟨⟩
          exact admits client job rfl new
        · rintro answer ⟨⟩
      · exact traced
  | enqueue client =>
      simp only [System.step]
      split
      · rename_i job sending
        split
        · have absent : client ∉ system.enqueued :=
            traced.outside (by simp [sending, Client.entered])
          have moved : Traced worker holds admitted reads
              { system with clients := Function.update system.clients client (some .waiting) } :=
            traced.update client (.inl rfl) (fun _ same => by cases same)
              (fun _ same => by cases same)
          refine { moved with split := ?_, distinct := ?_, entered := ?_, queued := ?_ }
          · simp [traced.split]
          · exact traced.distinct.append (List.nodup_singleton _) (by simpa using absent)
          · intro other member
            rcases List.mem_append.mp member with before | same
            · exact entered_update rfl (traced.entered other before)
            · rw [List.mem_singleton.mp same]
              simp [Client.entered]
          · intro entry member
            rcases List.mem_append.mp member with before | same
            · exact traced.queued entry before
            · cases List.mem_singleton.mp same
              exact traced.sending client job sending
        · exact traced
      · exact traced
  | refuse client =>
      simp only [System.step]
      split
      · split
        · exact traced
        · exact traced.update client (.inl rfl) (fun _ same => by cases same)
            (fun _ same => by cases same)
      · exact traced
  | dequeue clock =>
      simp only [System.step]
      split
      · rename_i client job rest idle head
        have read := takes client clock ⟨rfl, idle, job, rest, head⟩
        obtain ⟨base, begins⟩ := traced.take head idle read
        have untaken := traced.head_untaken head
        refine Traced.settle keeps ?_ (List.mem_append_right _ (List.mem_singleton.mpr rfl)) ?_ begins
        · refine { base with busy := ?_ }
          intro other program works
          cases works
        · change Client.answer (system.clients client) = none
          rw [Option.eq_none_iff_forall_ne_some]
          intro answer got
          exact untaken (traced.answered client answer got).1
      · exact traced
  | reply reply =>
      simp only [System.step]
      split
      · rename_i client call next works
        obtain ⟨base, goesOn⟩ := traced.replied works reply
        obtain ⟨taken, unanswered, -⟩ := traced.busy client _ works
        exact Traced.settle keeps base taken unanswered goesOn
      · exact traced
  | cancel client =>
      simp only [System.step]
      split
      all_goals
        first
          | exact traced.update client (.inl rfl) (fun _ same => by cases same)
              (fun _ same => by cases same)
          | exact traced
  | read client =>
      simp only [System.step]
      split
      · rename_i answer got
        refine traced.update client (.inl rfl) (fun _ same => by cases same) ?_
        rintro other ⟨⟩
        rw [got]
        rfl
      · exact traced
  | abandon client =>
      simp only [System.step]
      split
      · split
        · exact traced
        · exact traced.update client (.inl rfl) (fun _ same => by cases same)
            (fun _ same => by cases same)
      · exact traced

/-- An event leaves a client as it was or moves it on, and only a stopped worker fails a client. -/
theorem System.step_client (worker : Worker State Clock Job Call Reply Answer)
    (system : System State Job Call Reply Answer) (event : Event Clock Job Reply) (client : Nat) :
    (system.step worker event).clients client = system.clients client ∨
      ∃ value, (system.step worker event).clients client = some value ∧
        (system.phase.running = true → value ≠ .failed) := by
  have update : ∀ target {value : Client Job Answer},
      (system.phase.running = true → value ≠ .failed) →
      Function.update system.clients target (some value) client = system.clients client ∨
        ∃ moved, Function.update system.clients target (some value) client = some moved ∧
          (system.phase.running = true → moved ≠ .failed) := by
    intro target value unfailed
    by_cases same : client = target
    · subst same
      exact .inr ⟨value, Function.update_self .., unfailed⟩
    · exact .inl (Function.update_of_ne same ..)
  have settle : ∀ (other : System State Job Call Reply Answer) target program,
      other.clients = system.clients →
      (other.settle target program).clients client = system.clients client ∨
        ∃ moved, (other.settle target program).clients client = some moved ∧
          (system.phase.running = true → moved ≠ .failed) := by
    intro other target program same
    cases program with
    | call call next => exact .inl (congrFun same client)
    | pure value =>
        change other.deliver target value.2.1 client = _ ∨
          ∃ moved, other.deliver target value.2.1 client = some moved ∧ _
        rcases deliver_cases other target value.2.1 with kept | changed
        · rw [kept, same]
          exact .inl rfl
        · rw [changed, same]
          exact update target (by simp)
  cases event with
  | dequeue clock =>
      simp only [System.step]
      split
      · exact settle _ _ _ rfl
      · exact .inl rfl
  | reply reply =>
      simp only [System.step]
      split
      · exact settle _ _ _ rfl
      · exact .inl rfl
  | _ =>
      simp only [System.step]
      repeat' split
      all_goals
        first
          | exact .inl rfl
          | exact update _ (by simp_all)

/-- A client that has connected stays in the system. -/
theorem System.step_isSome (worker : Worker State Clock Job Call Reply Answer)
    (system : System State Job Call Reply Answer) (event : Event Clock Job Reply) {client : Nat}
    (present : (system.clients client).isSome = true) :
    ((system.step worker event).clients client).isSome = true := by
  rcases system.step_client worker event client with same | ⟨value, moved, -⟩
  · rw [same]
    exact present
  · rw [moved]
    rfl

/-- While the worker runs, no client is told that it has died. -/
theorem System.step_unfailed (worker : Worker State Clock Job Call Reply Answer)
    {system : System State Job Call Reply Answer} (running : system.phase.running = true)
    (unfailed : ∀ client, system.clients client ≠ some .failed) (event : Event Clock Job Reply)
    (client : Nat) : (system.step worker event).clients client ≠ some .failed := by
  rcases system.step_client worker event client with same | ⟨value, moved, other⟩
  · rw [same]
    exact unfailed client
  · rw [moved]
    exact fun failed => other running (Option.some.inj failed)

theorem System.run_isSome (worker : Worker State Clock Job Call Reply Answer)
    (system : System State Job Call Reply Answer) (events : List (Event Clock Job Reply))
    {client : Nat} (present : (system.clients client).isSome = true) :
    ((system.run worker events).clients client).isSome = true := by
  induction events generalizing system with
  | nil => exact present
  | cons event events ih => exact ih _ (system.step_isSome worker event present)

/-- A completed call stays in the history. -/
theorem System.step_sent (worker : Worker State Clock Job Call Reply Answer)
    (system : System State Job Call Reply Answer) (event : Event Clock Job Reply) :
    ∀ sent ∈ system.sent, sent ∈ (system.step worker event).sent := by
  intro sent member
  have settle : ∀ (other : System State Job Call Reply Answer) client program,
      sent ∈ other.sent → sent ∈ (other.settle client program).sent := by
    intro other client program before
    cases program <;> exact before
  cases event with
  | dequeue clock =>
      simp only [System.step]
      split
      · exact settle _ _ _ member
      · exact member
  | reply reply =>
      simp only [System.step]
      split
      · exact settle _ _ _ (List.mem_append_left _ member)
      · exact member
  | _ =>
      simp only [System.step]
      repeat' split
      all_goals exact member

/-- A client outside of the system has not connected. -/
theorem connected_none (worker : Worker State Clock Job Call Reply Answer) {client : Nat}
    (events : List (Event Clock Job Reply)) {system : System State Job Call Reply Answer}
    (absent : (system.run worker events).clients client = none) :
    connected events client = none := by
  induction events generalizing system with
  | nil => rfl
  | cons event events ih =>
      have outside : (system.step worker event).clients client = none := by
        by_contra present
        have found := System.run_isSome worker _ events (Option.isSome_iff_ne_none.mpr present)
        rw [Option.isSome_iff_ne_none] at found
        exact found absent
      cases event with
      | connect other job =>
          rw [connected]
          split
          · rename_i same
            subst same
            simp only [System.step] at outside
            split at outside <;> simp_all
          · exact ih absent
      | _ => exact ih absent

/-- A connection that is not the first one of its client has no effect on the client's job. -/
theorem connected_append (events more : List (Event Clock Job Reply)) (client : Nat) :
    connected (events ++ more) client = (connected events client).or (connected more client) := by
  induction events with
  | nil => rfl
  | cons event events ih =>
      cases event with
      | connect other job =>
          simp only [List.cons_append, connected]
          split
          · rfl
          · exact ih
      | _ => exact ih

/-- In every run, each client is served with the job of its first connection. -/
theorem Traced.connected (keeps : worker.Keeps holds) {state : State} (start : holds state)
    (events : List (Event Clock Job Reply)) :
    Traced worker holds (fun client job => Worker.connected events client = some job)
      (fun _ _ => True) (System.run worker (.initial state) events) := by
  induction events using List.reverseRecOn with
  | nil => exact .initial start
  | append_singleton events event ih =>
      rw [System.run, List.foldl_append]
      refine Traced.step keeps (ih.mono fun client job own => ?_) event ?_ fun _ _ _ => trivial
      · rw [connected_append, own]
        rfl
      · intro client job same new
        rw [connected_append, connected_none worker events new, same]
        simp [Worker.connected]

end Worker

end Web3Id.Library
