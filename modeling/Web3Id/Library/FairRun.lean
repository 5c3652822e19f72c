import Mathlib.Data.Nat.Init
import Web3Id.Library.CounterDiscipline

namespace Web3Id.Library

/-- What holds until a helpful event still holds when the first of these events comes. -/
theorem exists_helpful (holds helpful : Nat → Prop)
    (persists : ∀ time, holds time → ¬ helpful time → holds (time + 1)) {start last : Nat}
    (begins : holds start) (later : start ≤ last) (comes : helpful last) :
    ∃ time, start ≤ time ∧ holds time ∧ helpful time := by
  by_contra never
  have always : ∀ time, start ≤ time → holds time := by
    intro time after
    induction after with
    | refl => exact begins
    | @step time after ih => exact persists time ih fun now => never ⟨time, after, ih, now⟩
  exact never ⟨last, later, always last later, comes⟩

namespace Worker

variable {State Clock Job Call Reply Answer : Type}

/-- The state of the system at each time of an infinite run. -/
def System.at (worker : Worker State Clock Job Call Reply Answer)
    (start : System State Job Call Reply Answer) (events : Nat → Event Clock Job Reply) :
    Nat → System State Job Call Reply Answer
  | 0 => start
  | time + 1 => (System.at worker start events time).step worker (events time)

/-- A waiting client is in the channel, or the worker serves it; a busy worker waits for a reply. -/
structure Attended (system : System State Job Call Reply Answer) : Prop where
  waiting : ∀ client, system.clients client = some .waiting →
    client ∈ system.queue.map Prod.fst ∨ client ∈ system.phase.client
  calls : ∀ client program, system.phase = .busy client program →
    ∃ call next, program = .call call next

/-- A fair run takes jobs while the worker is idle, replies to every call, and tells the waiting
clients of a stopped worker that it is gone. -/
structure Fair (worker : Worker State Clock Job Call Reply Answer)
    (start : System State Job Call Reply Answer) (events : Nat → Event Clock Job Reply) :
    Prop where
  takes : ∀ time, (start.at worker events time).phase = .idle →
    (start.at worker events time).queue ≠ [] → ∃ later ≥ time, ∃ clock, events later = .dequeue clock
  replies : ∀ time client program, (start.at worker events time).phase = .busy client program →
    ∃ later ≥ time, ∃ reply, events later = .reply reply
  drops : ∀ time client, (start.at worker events time).phase = .stopped →
    (start.at worker events time).clients client = some .waiting →
    ∃ later ≥ time, events later = .abandon client

variable {worker : Worker State Clock Job Call Reply Answer}
  {start system : System State Job Call Reply Answer} {events : Nat → Event Clock Job Reply}

theorem Attended.initial (state : State) :
    Attended (System.initial state : System State Job Call Reply Answer) where
  waiting := by simp [System.initial]
  calls := by simp [System.initial]

/-- A client that does not begin to wait leaves the others attended. -/
theorem Attended.update (attended : Attended system) (target : Nat) {value : Client Job Answer}
    (other : value ≠ .waiting) :
    Attended { system with clients := Function.update system.clients target (some value) } where
  waiting client waits := by
    by_cases same : client = target
    · subst same
      simp only [Function.update_self] at waits
      exact absurd (Option.some.inj waits) other
    · exact attended.waiting client (by simpa [Function.update_of_ne same] using waits)
  calls := attended.calls

/-- After its answer is delivered, a client does not wait. -/
theorem deliver_waiting (system : System State Job Call Reply Answer) (target : Nat)
    (answer : Answer) {client : Nat} (waits : system.deliver target answer client = some .waiting) :
    client ≠ target ∧ system.clients client = some .waiting := by
  by_cases open_ : system.clients target = some .waiting
  · have delivered : system.deliver target answer =
        Function.update system.clients target (some (.answered answer)) := by
      simp [System.deliver, open_]
    rw [delivered] at waits
    by_cases same : client = target
    · subst same
      simp at waits
    · exact ⟨same, by simpa [Function.update_of_ne same] using waits⟩
  · have kept : system.deliver target answer = system.clients := by
      unfold System.deliver
      split
      · contradiction
      · rfl
    rw [kept] at waits
    refine ⟨?_, waits⟩
    rintro rfl
    exact open_ waits

/-- A settled worker serves the client on, or has delivered its answer. -/
theorem Attended.settle {client : Nat}
    (waiting : ∀ other, system.clients other = some .waiting →
      other ∈ system.queue.map Prod.fst ∨ other = client)
    (program : Program Call (fun _ => Reply) (State × Answer × Bool)) :
    Attended (system.settle client program) := by
  cases program with
  | call call next =>
      refine ⟨?_, ?_⟩
      · intro other waits
        exact (waiting other waits).imp_right List.mem_singleton.mpr
      · rintro _ _ ⟨⟩
        exact ⟨call, next, rfl⟩
  | pure value =>
      obtain ⟨after, answer, continues⟩ := value
      refine ⟨?_, ?_⟩
      · intro other waits
        obtain ⟨different, before⟩ := deliver_waiting system client answer waits
        rcases waiting other before with queued | same
        · exact .inl queued
        · exact absurd same different
      · intro other program works
        change (if continues then Phase.idle else Phase.stopped) = _ at works
        cases continues <;> cases works

/-- Every event keeps the clients attended. -/
theorem Attended.step (attended : Attended system) (event : Event Clock Job Reply) :
    Attended (system.step worker event) := by
  cases event with
  | connect client job =>
      simp only [System.step]
      split
      · exact attended.update client (by simp)
      · exact attended
  | enqueue client =>
      simp only [System.step]
      split
      · split
        · refine ⟨?_, attended.calls⟩
          intro other waits
          by_cases same : other = client
          · subst same
            exact .inl (by simp)
          · have before : system.clients other = some .waiting := by
              simpa [Function.update_of_ne same] using waits
            refine (attended.waiting other before).imp_left fun queued => ?_
            rw [List.map_append]
            exact List.mem_append_left _ queued
        · exact attended
      · exact attended
  | refuse client =>
      simp only [System.step]
      split
      · split
        · exact attended
        · exact attended.update client (by simp)
      · exact attended
  | dequeue clock =>
      simp only [System.step]
      split
      · rename_i client job rest idle head
        refine Attended.settle ?_ _
        intro other waits
        rcases attended.waiting other waits with queued | served
        · rw [head] at queued
          exact (List.mem_cons.mp queued).symm
        · rw [idle] at served
          cases served
      · exact attended
  | reply reply =>
      simp only [System.step]
      split
      · rename_i client call next works
        refine Attended.settle ?_ _
        intro other waits
        have served := attended.waiting other waits
        rw [works] at served
        exact served.imp_right List.mem_singleton.mp
      · exact attended
  | cancel client =>
      simp only [System.step]
      split
      all_goals
        first
          | exact attended.update client (by simp)
          | exact attended
  | read client =>
      simp only [System.step]
      split
      · exact attended.update client (by simp)
      · exact attended
  | abandon client =>
      simp only [System.step]
      split
      · split
        · exact attended
        · exact attended.update client (by simp)
      · exact attended

theorem Attended.at (attended : Attended start) (time : Nat) :
    Attended (start.at worker events time) := by
  induction time with
  | zero => exact attended
  | succ time ih => exact ih.step (events time)

/-- The number of clients ahead of a client in the channel. -/
def System.Position (system : System State Job Call Reply Answer) (client place : Nat) : Prop :=
  ∃ before job after, system.queue = before ++ (client, job) :: after ∧ before.length = place

/-- New jobs enter the channel behind a client. -/
theorem System.Position.append {other : System State Job Call Reply Answer} {client place : Nat}
    {more : List (Nat × Job)} (position : system.Position client place)
    (grown : other.queue = system.queue ++ more) : other.Position client place := by
  obtain ⟨before, job, after, split, length⟩ := position
  exact ⟨before, job, after ++ more, by rw [grown, split]; simp, length⟩

/-- The clients of the first channel keep their places in the second one. -/
def System.KeepsPlaces (first second : System State Job Call Reply Answer) : Prop :=
  ∀ client place, first.Position client place → second.Position client place

/-- Only an idle worker takes jobs, and only a busy worker takes replies. -/
theorem System.step_still (worker : Worker State Clock Job Call Reply Answer)
    (system : System State Job Call Reply Answer) (event : Event Clock Job Reply)
    (idle : ∀ clock, event = .dequeue clock → system.phase ≠ .idle)
    (busy : ∀ reply, event = .reply reply → ∀ client program, system.phase ≠ .busy client program) :
    (system.step worker event).phase = system.phase ∧
      system.KeepsPlaces (system.step worker event) := by
  suffices grows : (system.step worker event).phase = system.phase ∧
      ∃ more, (system.step worker event).queue = system.queue ++ more by
    obtain ⟨same, more, grown⟩ := grows
    exact ⟨same, fun client place position => position.append grown⟩
  cases event with
  | dequeue clock =>
      simp only [System.step]
      split
      · rename_i is _
        exact absurd is (idle clock rfl)
      · exact ⟨rfl, [], by simp⟩
  | reply reply =>
      simp only [System.step]
      split
      · rename_i works
        exact absurd works (busy reply rfl _ _)
      · exact ⟨rfl, [], by simp⟩
  | enqueue client =>
      simp only [System.step]
      split
      · split
        · exact ⟨rfl, _, rfl⟩
        · exact ⟨rfl, [], by simp⟩
      · exact ⟨rfl, [], by simp⟩
  | _ =>
      simp only [System.step]
      repeat' split
      all_goals exact ⟨rfl, [], by simp⟩

/-- A settled worker goes on with the client, or the client does not wait any more. -/
theorem System.settle_cases (system : System State Job Call Reply Answer) (client : Nat)
    (program : Program Call (fun _ => Reply) (State × Answer × Bool)) :
    (system.settle client program).queue = system.queue ∧
      ((system.settle client program).phase = .busy client program ∨
        (∀ other rest, (system.settle client program).phase ≠ .busy other rest) ∧
          (system.settle client program).clients client ≠ some .waiting) := by
  refine ⟨by cases program <;> rfl, ?_⟩
  cases program with
  | call call next => exact .inl rfl
  | pure value =>
      obtain ⟨after, answer, continues⟩ := value
      refine .inr ⟨?_, ?_⟩
      · intro other rest works
        change (if continues then Phase.idle else Phase.stopped) = _ at works
        cases continues <;> cases works
      · intro waits
        exact (deliver_waiting system client answer waits).1 rfl

/-- In a fair run, a busy worker comes to the end of its iteration, and the channel keeps its
order. -/
theorem Fair.settles (fair : Fair worker start events) (attended : Attended start)
    (program : Program Call (fun _ => Reply) (State × Answer × Bool)) {time client : Nat}
    (works : (start.at worker events time).phase = .busy client program) :
    ∃ later ≥ time,
      (∀ other rest, (start.at worker events later).phase ≠ .busy other rest) ∧
      (start.at worker events later).clients client ≠ some .waiting ∧
      (start.at worker events time).KeepsPlaces (start.at worker events later) := by
  induction program generalizing time with
  | pure value =>
      obtain ⟨call, next, same⟩ := (attended.at time).calls client _ works
      cases same
  | call call next ih =>
      obtain ⟨last, after, comes⟩ := fair.replies time client _ works
      have persists : ∀ now,
          (start.at worker events now).phase = .busy client (.call call next) ∧
            (start.at worker events time).KeepsPlaces (start.at worker events now) →
          ¬ (∃ reply, events now = .reply reply) →
          (start.at worker events (now + 1)).phase = .busy client (.call call next) ∧
            (start.at worker events time).KeepsPlaces (start.at worker events (now + 1)) := by
        rintro now ⟨busy, kept⟩ other
        obtain ⟨same, keeps⟩ := System.step_still worker _ (events now)
          (fun clock _ => by rw [busy]; simp) (fun reply replies => absurd ⟨reply, replies⟩ other)
        exact ⟨same.trans busy, fun client place position => keeps _ _ (kept _ _ position)⟩
      obtain ⟨now, between, ⟨busy, kept⟩, reply, replied⟩ :=
        exists_helpful _ _ persists ⟨works, fun _ _ => id⟩ after comes
      have replies : start.at worker events (now + 1) =
          ((start.at worker events now).record ⟨client, call, reply⟩).settle client
            (next reply) := by
        simp only [System.at, System.step, replied, busy]
      obtain ⟨queue, cases_⟩ := System.settle_cases
        ((start.at worker events now).record ⟨client, call, reply⟩) client (next reply)
      rw [← replies] at queue cases_
      have keeps : (start.at worker events time).KeepsPlaces
          (start.at worker events (now + 1)) := by
        intro target place position
        have moved : (start.at worker events (now + 1)).queue =
            (start.at worker events now).queue ++ [] := by
          rw [queue, List.append_nil]
          rfl
        exact (kept target place position).append moved
      rcases cases_ with goesOn | ⟨ended, served⟩
      · obtain ⟨later, beyond, ended, served, rest⟩ := ih reply goesOn
        exact ⟨later, by omega, ended, served,
          fun target place position => rest _ _ (keeps _ _ position)⟩
      · exact ⟨now + 1, by omega, ended, served, keeps⟩

/-- In a fair run, an idle worker takes the client at the head of the channel. -/
theorem Fair.dequeues (fair : Fair worker start events) {time target place : Nat}
    (idle : (start.at worker events time).phase = .idle)
    (position : (start.at worker events time).Position target place) :
    ∃ now ≥ time, ∃ client job rest clock,
      (start.at worker events now).Position target place ∧
      (start.at worker events now).queue = (client, job) :: rest ∧
      start.at worker events (now + 1) = ((start.at worker events now).take client rest).settle
        client (worker.iteration (start.at worker events now).state clock job) := by
  have some_ : (start.at worker events time).queue ≠ [] := by
    obtain ⟨before, job, after, split, -⟩ := position
    rw [split]
    simp
  obtain ⟨last, after, comes⟩ := fair.takes time idle some_
  have persists : ∀ now,
      (start.at worker events now).phase = .idle ∧
        (start.at worker events now).Position target place →
      ¬ (∃ clock, events now = .dequeue clock) →
      (start.at worker events (now + 1)).phase = .idle ∧
        (start.at worker events (now + 1)).Position target place := by
    rintro now ⟨still, placed⟩ other
    obtain ⟨same, keeps⟩ := System.step_still worker _ (events now)
      (fun clock takes => absurd ⟨clock, takes⟩ other) (fun reply _ => by rw [still]; simp)
    exact ⟨same.trans still, keeps _ _ placed⟩
  obtain ⟨now, between, ⟨still, placed⟩, clock, takes⟩ :=
    exists_helpful _ _ persists ⟨idle, position⟩ after comes
  cases head : (start.at worker events now).queue with
  | nil =>
      obtain ⟨before, job, after, split, -⟩ := placed
      rw [head] at split
      simp at split
  | cons entry rest =>
      obtain ⟨client, job⟩ := entry
      refine ⟨now, between, client, job, rest, clock, placed, head, ?_⟩
      simp only [System.at, System.step, takes, still, head]

/-- A stopped worker stays stopped. -/
theorem stopped_forever {time later : Nat} (after : time ≤ later)
    (stopped : (start.at worker events time).phase = .stopped) :
    (start.at worker events later).phase = .stopped := by
  induction after with
  | refl => exact stopped
  | @step later after ih =>
      obtain ⟨same, -⟩ := System.step_still worker _ (events later)
        (fun clock _ => by rw [ih]; simp) (fun reply _ => by rw [ih]; simp)
      exact same.trans ih

/-- The clients of a stopped worker do not wait forever. -/
theorem Fair.dropped (fair : Fair worker start events) {time target : Nat}
    (stopped : (start.at worker events time).phase = .stopped)
    (waits : ∀ later ≥ time, (start.at worker events later).clients target = some .waiting) :
    False := by
  obtain ⟨later, after, drops⟩ := fair.drops time target stopped (waits time (Nat.le_refl _))
  have still := stopped_forever after stopped
  have next := waits (later + 1) (by omega)
  simp [System.at, System.step, drops, waits later after, still, Phase.running] at next

/-- In a fair run, a waiting client in the channel comes nearer to its head. -/
theorem Fair.advances (fair : Fair worker start events) (attended : Attended start)
    {target place time : Nat}
    (waits : ∀ later ≥ time, (start.at worker events later).clients target = some .waiting)
    (position : (start.at worker events time).Position target place) :
    ∃ later ≥ time, ∃ nearer < place, (start.at worker events later).Position target nearer := by
  obtain ⟨free, after, unoccupied, placed⟩ : ∃ free ≥ time,
      (∀ other rest, (start.at worker events free).phase ≠ .busy other rest) ∧
      (start.at worker events free).Position target place := by
    cases phase : (start.at worker events time).phase with
    | busy client program =>
        obtain ⟨free, after, unoccupied, -, keeps⟩ := fair.settles attended program phase
        exact ⟨free, after, unoccupied, keeps _ _ position⟩
    | _ => exact ⟨time, Nat.le_refl _, by rw [phase]; simp, position⟩
  cases phase : (start.at worker events free).phase with
  | busy client program => exact absurd phase (unoccupied client program)
  | stopped =>
      exact (fair.dropped phase fun later beyond => waits later (Nat.le_trans after beyond)).elim
  | idle =>
      obtain ⟨now, between, client, job, rest, clock, stands, head, takes⟩ :=
        fair.dequeues phase placed
      obtain ⟨queue, cases_⟩ := System.settle_cases ((start.at worker events now).take client rest)
        client (worker.iteration (start.at worker events now).state clock job)
      rw [← takes] at queue cases_
      obtain ⟨before, own, behind, split, length⟩ := stands
      cases before with
      | nil =>
          -- the worker serves the client itself
          rw [head] at split
          obtain ⟨rfl, rfl⟩ := Prod.mk.inj (List.cons.inj split).1
          rcases cases_ with works | ⟨-, served⟩
          · obtain ⟨later, beyond, -, served, -⟩ := fair.settles attended _ works
            exact absurd (waits later (by omega)) served
          · exact absurd (waits (now + 1) (by omega)) served
      | cons entry before =>
          rw [head] at split
          refine ⟨now + 1, by omega, before.length, ?_, before, own, behind, ?_, rfl⟩
          · rw [← length]
            exact Nat.lt_succ_self _
          · rw [queue]
            exact (List.cons.inj split).2

/-- In a fair run, no client waits forever. -/
theorem Fair.ends (fair : Fair worker start events) (attended : Attended start) (time target : Nat) :
    ∃ later ≥ time, (start.at worker events later).clients target ≠ some .waiting := by
  by_contra never
  have forever : ∀ later ≥ time,
      (start.at worker events later).clients target = some .waiting :=
    fun later after => by_contra fun other => never ⟨later, after, other⟩
  have nowhere : ∀ place later, time ≤ later →
      ¬ (start.at worker events later).Position target place := by
    intro place
    induction place using Nat.strong_induction_on with
    | _ place ih =>
        intro later after position
        obtain ⟨beyond, more, nearer, less, placed⟩ := fair.advances attended
          (fun other past => forever other (Nat.le_trans after past)) position
        exact ih nearer less beyond (Nat.le_trans after more) placed
  rcases (attended.at time).waiting target (forever time (Nat.le_refl _)) with queued | served
  · obtain ⟨entry, member, rfl⟩ := List.mem_map.mp queued
    obtain ⟨before, behind, split⟩ := List.append_of_mem member
    exact nowhere _ time (Nat.le_refl _) ⟨before, entry.2, behind, split, rfl⟩
  · cases phase : (start.at worker events time).phase with
    | busy client program =>
        rw [phase] at served
        cases List.mem_singleton.mp served
        obtain ⟨later, after, -, done, -⟩ := fair.settles attended program phase
        exact done (forever later after)
    | _ =>
        rw [phase] at served
        cases served

/-- A waiting client is answered, gives up, or finds the worker stopped. -/
inductive Departs (system : System State Job Call Reply Answer) (client : Nat) : Prop
  | answered (answer : Answer) (got : system.clients client = some (.answered answer))
  | cancelled (gone : system.clients client = some .cancelled)
  | failed (dropped : system.clients client = some .failed) (stopped : system.phase = .stopped)

/-- An answer reaches the client that it is meant for. -/
theorem System.settle_waiting (other : System State Job Call Reply Answer) {client : Nat}
    (waits : other.clients client = some .waiting) (target : Nat)
    (program : Program Call (fun _ => Reply) (State × Answer × Bool)) :
    (other.settle target program).clients client = some .waiting ∨
      Departs (other.settle target program) client := by
  cases program with
  | call call next => exact .inl waits
  | pure value =>
      obtain ⟨after, answer, continues⟩ := value
      change other.deliver target answer client = _ ∨ _
      by_cases same : client = target
      · subst same
        refine .inr (.answered answer ?_)
        change other.deliver client answer client = _
        simp [System.deliver, waits]
      · left
        rcases deliver_cases other target answer with kept | delivered
        · rw [kept]
          exact waits
        · rw [delivered, Function.update_of_ne same]
          exact waits

/-- One event lets a client wait on or depart. -/
theorem System.step_waiting (worker : Worker State Clock Job Call Reply Answer) {client : Nat}
    (waits : system.clients client = some .waiting) (event : Event Clock Job Reply) :
    (system.step worker event).clients client = some .waiting ∨
      Departs (system.step worker event) client := by
  have others : ∀ target value, client ≠ target →
      Function.update system.clients target value client = some .waiting := by
    intro target value different
    rw [Function.update_of_ne different]
    exact waits
  cases event with
  | dequeue clock =>
      simp only [System.step]
      split
      · exact System.settle_waiting (system.take _ _) waits _ _
      · exact .inl waits
  | reply reply =>
      simp only [System.step]
      split
      · exact System.settle_waiting (system.record _) waits _ _
      · exact .inl waits
  | cancel target =>
      by_cases same : client = target
      · subst same
        refine .inr (.cancelled ?_)
        simp [System.step, waits]
      · left
        simp only [System.step]
        split
        all_goals
          first
            | exact others _ _ same
            | exact waits
  | abandon target =>
      by_cases same : client = target
      · subst same
        simp only [System.step, waits]
        split
        · exact .inl waits
        · rename_i stopped
          refine .inr (.failed (by simp) ?_)
          change system.phase = .stopped
          cases phase : system.phase with
          | stopped => rfl
          | _ => simp [phase, Phase.running] at stopped
      · left
        simp only [System.step]
        split
        · split
          · exact waits
          · exact others _ _ same
        · exact waits
  | _ =>
      left
      simp only [System.step]
      repeat' split
      all_goals
        first
          | exact waits
          | exact others _ _ (by rintro rfl; simp_all)

/-- In a fair run, every client that has entered the channel departs. -/
theorem Fair.departs (fair : Fair worker start events) (attended : Attended start)
    {time client : Nat} (waits : (start.at worker events time).clients client = some .waiting) :
    ∃ later ≥ time, Departs (start.at worker events later) client := by
  by_contra never
  have forever : ∀ later, time ≤ later →
      (start.at worker events later).clients client = some .waiting := by
    intro later after
    induction after with
    | refl => exact waits
    | @step later after ih =>
        rcases System.step_waiting worker ih (events later) with still | departs
        · exact still
        · exact absurd ⟨later + 1, Nat.le_succ_of_le after, departs⟩ never
  obtain ⟨later, after, done⟩ := fair.ends attended time client
  exact done (forever later after)

end Worker

end Web3Id.Library
