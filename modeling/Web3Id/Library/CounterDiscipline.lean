import Web3Id.Library.ChannelWorker

namespace Web3Id.Library.Worker

variable {State Clock Job Call Reply Answer : Type}

/-- A disciplined iteration keeps the counter, or makes one call that carries the counter and
advances it exactly when the call is accepted. -/
inductive Disciplined (counter : State → Nat) (carried : Call → Nat) (accepted : Reply → Bool)
    (state : State) : Program Call (fun _ => Reply) (State × Answer × Bool) → Prop
  | silent {after : State} {answer : Answer} {continues : Bool}
      (kept : counter after = counter state) :
      Disciplined counter carried accepted state (.pure (after, answer, continues))
  | submits {call : Call} {next : Reply → Program Call (fun _ => Reply) (State × Answer × Bool)}
      (carries : carried call = counter state)
      (ends : ∀ reply, ∃ after answer continues, next reply = .pure (after, answer, continues) ∧
        counter after = counter state + if accepted reply then 1 else 0) :
      Disciplined counter carried accepted state (.call call next)

/-- The accepted calls keep the order in which they were answered. -/
def System.accepted (accepted : Reply → Bool) (system : System State Job Call Reply Answer) :
    List (Sent Call Reply) := system.sent.filter fun sent => accepted sent.reply

/-- A busy worker serves one client. -/
def Phase.client : Phase State Call Reply Answer → List Nat
  | .busy client _ => [client]
  | _ => []

/-- An entered client has put its job into the channel. -/
def Client.entered : Option (Client Job Answer) → Bool
  | none | some (.sending _) => false
  | _ => true

/-- The invariant relates the counter, the accepted calls, and the order of the channel. -/
structure Ordered (counter : State → Nat) (carried : Call → Nat) (accepted : Reply → Bool)
    (start : Nat) (system : System State Job Call Reply Answer) : Prop where
  split : system.enqueued = system.dequeued ++ system.queue.map Prod.fst
  distinct : system.enqueued.Nodup
  entered : ∀ client ∈ system.enqueued, Client.entered (system.clients client) = true
  served : (system.sent.map Sent.client ++ system.phase.client).Sublist system.dequeued
  waits : ∀ client program, system.phase = .busy client program →
    Disciplined counter carried accepted system.state program ∧ ∃ call next, program = .call call next
  counted : counter system.state = start + (system.accepted accepted).length
  numbered : (system.accepted accepted).map (fun sent => carried sent.call) =
    List.range' start (system.accepted accepted).length

variable {counter : State → Nat} {carried : Call → Nat} {accepted : Reply → Bool} {start : Nat}
  {system : System State Job Call Reply Answer}

theorem Ordered.initial {state : State} (equal : counter state = start) :
    Ordered counter carried accepted start
      (System.initial state : System State Job Call Reply Answer) where
  split := rfl
  distinct := List.nodup_nil
  entered := by simp [System.initial]
  served := by simp [System.initial, Phase.client]
  waits := by simp [System.initial]
  counted := by simpa [System.initial, System.accepted] using equal
  numbered := by simp [System.initial, System.accepted]

/-- A move of one client that does not leave the channel keeps the order. -/
theorem Ordered.clients (ordered : Ordered counter carried accepted start system)
    {clients : Nat → Option (Client Job Answer)}
    (kept : ∀ client ∈ system.enqueued, Client.entered (clients client) = true) :
    Ordered counter carried accepted start { system with clients := clients } :=
  { ordered with entered := kept }

/-- Changing one client to an entered form keeps every entered client. -/
theorem entered_update {clients : Nat → Option (Client Job Answer)} {target other : Nat}
    {value : Client Job Answer} (enters : Client.entered (some value) = true)
    (before : Client.entered (clients other) = true) :
    Client.entered (Function.update clients target (some value) other) = true := by
  by_cases same : other = target
  · subst same
    simpa using enters
  · simpa [Function.update_of_ne same] using before

/-- Changing one client to an entered form keeps the order. -/
theorem Ordered.update (ordered : Ordered counter carried accepted start system) (target : Nat)
    {value : Client Job Answer} (enters : Client.entered (some value) = true) :
    Ordered counter carried accepted start
      { system with clients := Function.update system.clients target (some value) } :=
  ordered.clients fun client member => entered_update enters (ordered.entered client member)

/-- A client outside the channel may take any form. -/
theorem Ordered.outside (ordered : Ordered counter carried accepted start system) {target : Nat}
    (absent : Client.entered (system.clients target) = false) (value : Option (Client Job Answer)) :
    Ordered counter carried accepted start
      { system with clients := Function.update system.clients target value } := by
  apply ordered.clients
  intro client member
  have different : client ≠ target := by
    intro same
    rw [same] at member
    rw [ordered.entered target member] at absent
    cases absent
  rw [Function.update_of_ne different]
  exact ordered.entered client member

/-- A delivery changes at most the client that it is meant for. -/
theorem deliver_cases (system : System State Job Call Reply Answer) (target : Nat)
    (answer : Answer) : system.deliver target answer = system.clients ∨
      system.deliver target answer =
        Function.update system.clients target (some (.answered answer)) := by
  unfold System.deliver
  split
  · exact Or.inr rfl
  · exact Or.inl rfl

/-- An answer reaches only a client that has entered the channel. -/
theorem deliver_entered (system : System State Job Call Reply Answer) (target : Nat)
    (answer : Answer) {client : Nat} (before : Client.entered (system.clients client) = true) :
    Client.entered (system.deliver target answer client) = true := by
  rcases deliver_cases system target answer with same | changed
  · rwa [same]
  · rw [changed]
    exact entered_update rfl before

/-- The end of an iteration keeps the order when the counter follows the accepted calls. -/
theorem Ordered.finish (system : System State Job Call Reply Answer) {client : Nat}
    {after : State} {answer : Answer} {continues : Bool}
    (split : system.enqueued = system.dequeued ++ system.queue.map Prod.fst)
    (distinct : system.enqueued.Nodup)
    (entered : ∀ client ∈ system.enqueued, Client.entered (system.clients client) = true)
    (served : (system.sent.map Sent.client).Sublist system.dequeued)
    (counted : counter after = start + (system.accepted accepted).length)
    (numbered : (system.accepted accepted).map (fun sent => carried sent.call) =
      List.range' start (system.accepted accepted).length) :
    Ordered counter carried accepted start
      (system.settle client (.pure (after, answer, continues))) where
  split := split
  distinct := distinct
  entered other member := deliver_entered system client answer (entered other member)
  served := by cases continues <;> simpa [System.settle, Phase.client] using served
  waits := by cases continues <;> simp [System.settle]
  counted := counted
  numbered := numbered

/-- The worker takes the oldest job and runs its iteration up to the first call. -/
theorem Ordered.dequeue (ordered : Ordered counter carried accepted start system)
    {client : Nat} {job : Job} {rest : List (Nat × Job)}
    (head : system.queue = (client, job) :: rest) (idle : system.phase = .idle)
    {program : Program Call (fun _ => Reply) (State × Answer × Bool)}
    (disciplined : Disciplined counter carried accepted system.state program) :
    Ordered counter carried accepted start ((system.take client rest).settle client program) := by
  have split : (system.take client rest).enqueued =
      (system.take client rest).dequeued ++ (system.take client rest).queue.map Prod.fst := by
    have before := ordered.split
    rw [head] at before
    simpa [System.take] using before
  have served : (system.sent.map Sent.client ++ [client]).Sublist (system.dequeued ++ [client]) := by
    have before := ordered.served
    rw [idle] at before
    simp only [Phase.client, List.append_nil] at before
    exact before.append (List.Sublist.refl _)
  cases disciplined with
  | silent kept =>
      apply Ordered.finish _ split ordered.distinct ordered.entered
      · exact (List.sublist_append_left _ _).trans served
      · rw [kept]
        exact ordered.counted
      · exact ordered.numbered
  | submits carries ends =>
      refine ⟨split, ordered.distinct, ordered.entered, served, ?_, ordered.counted, ordered.numbered⟩
      intro other program equal
      cases equal
      exact ⟨.submits carries ends, _, _, rfl⟩

/-- The reply ends the iteration and appends at most one accepted call. -/
theorem Ordered.replied (ordered : Ordered counter carried accepted start system)
    {client : Nat} {call : Call}
    {next : Reply → Program Call (fun _ => Reply) (State × Answer × Bool)}
    (busy : system.phase = .busy client (.call call next)) (reply : Reply) :
    Ordered counter carried accepted start
      ((system.record ⟨client, call, reply⟩).settle client (next reply)) := by
  obtain ⟨disciplined, -⟩ := ordered.waits client _ busy
  cases disciplined with
  | submits carries ends =>
      obtain ⟨after, answer, continues, returns, advanced⟩ := ends reply
      rw [returns]
      have grown : (system.record ⟨client, call, reply⟩).accepted accepted =
          system.accepted accepted ++ if accepted reply then [⟨client, call, reply⟩] else [] := by
        simp only [System.accepted, System.record, List.filter_append, List.filter_singleton]
        cases accepted reply <;> rfl
      apply Ordered.finish (system.record ⟨client, call, reply⟩) ordered.split
        ordered.distinct ordered.entered
      · have before := ordered.served
        rw [busy] at before
        simpa [System.record, Phase.client] using before
      · rw [advanced, grown, ordered.counted]
        cases accepted reply <;> simp [Nat.add_assoc]
      · rw [grown]
        cases accepted reply with
        | false => simpa using ordered.numbered
        | true =>
            simp only [if_true, List.map_append, List.map_cons, List.map_nil, List.length_append,
              List.length_singleton, List.range'_concat, ordered.numbered, carries, ordered.counted,
              Nat.one_mul]

/-- Every event keeps the order. -/
theorem Ordered.step {worker : Worker State Clock Job Call Reply Answer}
    (disciplined : ∀ state clock job,
      Disciplined counter carried accepted state (worker.iteration state clock job))
    (ordered : Ordered counter carried accepted start system) (event : Event Clock Job Reply) :
    Ordered counter carried accepted start (system.step worker event) := by
  cases event with
  | connect client job =>
      simp only [System.step]
      split
      · exact ordered.outside (by simp [Client.entered, *]) _
      · exact ordered
  | enqueue client =>
      simp only [System.step]
      split
      · rename_i job sending
        split
        · have absent : client ∉ system.enqueued := by
            intro member
            have entered := ordered.entered client member
            rw [sending] at entered
            cases entered
          refine ⟨?_, ?_, ?_, ordered.served, ordered.waits, ordered.counted, ordered.numbered⟩
          · simp [ordered.split]
          · exact ordered.distinct.append (List.nodup_singleton _) (by simpa using absent)
          · intro other member
            rcases List.mem_append.mp member with before | same
            · exact entered_update rfl (ordered.entered other before)
            · rw [List.mem_singleton.mp same]
              simp [Client.entered]
        · exact ordered
      · exact ordered
  | refuse client =>
      simp only [System.step]
      split
      · split
        · exact ordered
        · exact ordered.update client rfl
      · exact ordered
  | dequeue clock =>
      simp only [System.step]
      split
      · rename_i idle head
        exact ordered.dequeue head idle (disciplined _ _ _)
      · exact ordered
  | reply reply =>
      simp only [System.step]
      split
      · rename_i busy
        exact ordered.replied busy reply
      · exact ordered
  | cancel client =>
      simp only [System.step]
      split
      · exact ordered.update client rfl
      · exact ordered.update client rfl
      · exact ordered.update client rfl
      · exact ordered
  | read client =>
      simp only [System.step]
      split
      · exact ordered.update client rfl
      · exact ordered
  | abandon client =>
      simp only [System.step]
      split
      · split
        · exact ordered
        · exact ordered.update client rfl
      · exact ordered

/-- Every interleaving keeps the order. -/
theorem Ordered.run {worker : Worker State Clock Job Call Reply Answer}
    (disciplined : ∀ state clock job,
      Disciplined counter carried accepted state (worker.iteration state clock job))
    (ordered : Ordered counter carried accepted start system)
    (events : List (Event Clock Job Reply)) :
    Ordered counter carried accepted start (system.run worker events) := by
  induction events generalizing system with
  | nil => exact ordered
  | cons event events ih => exact ih (ordered.step disciplined event)

/-- The clients of the accepted calls keep the order in which they entered the channel. -/
theorem Ordered.accepted_sublist (ordered : Ordered counter carried accepted start system) :
    ((system.accepted accepted).map Sent.client).Sublist system.enqueued := by
  have taken : (system.sent.map Sent.client).Sublist system.dequeued :=
    (List.sublist_append_left _ _).trans ordered.served
  have whole : system.dequeued.Sublist system.enqueued := by
    rw [ordered.split]
    exact List.sublist_append_left _ _
  exact ((List.filter_sublist.map Sent.client).trans taken).trans whole

end Web3Id.Library.Worker
