import Web3Id.Construction.Issuer.Web3IdService
import Web3Id.Library.FairRun
import Web3Id.Proof.Issuer.LostReplyWeb3IdIssuer
import Web3Id.Proof.Issuer.SomeIssuerLoop

namespace Web3Id.Web3IdIssuer

open Library Library.Worker

/-- The worker runs, and goes on after the reply that it waits for. -/
structure Running (system : IssuerSystem) : Prop where
  runs : system.phase ≠ .stopped
  resumes : ∀ client program, system.phase = .busy client program →
    ∃ call next, program = .call call next ∧
      ∀ reply, ∃ after answer, next reply = .pure (after, answer, true)

/-- The worker answers every reply and goes on. -/
theorem txSender_resumes (self : IssuerWorker) (seconds : UInt64) (data : IssueChannelData) :
    ∃ call next, self.txSender seconds data = .call call next ∧
      ∀ reply, ∃ after answer, next reply = .pure (after, answer, true) := by
  refine ⟨_, _, rfl, ?_⟩
  intro reply
  cases reply with
  | ok txHash => exact ⟨_, _, rfl⟩
  | error error => exact ⟨_, _, rfl⟩

theorem Running.initial (worker : IssuerWorker) : Running (.initial worker) where
  runs := by simp [System.initial]
  resumes := by simp [System.initial]

theorem Running.step {capacity : Nat} {system : IssuerSystem} (running : Running system)
    (event : Event UInt64 IssueChannelData RegisterReply) :
    Running (system.step (channelWorker capacity) event) := by
  have same : ∀ {other : IssuerSystem}, other.phase = system.phase → Running other := by
    intro other equal
    exact ⟨equal ▸ running.runs, equal ▸ running.resumes⟩
  cases event with
  | dequeue seconds =>
      simp only [System.step]
      split
      · rename_i client data rest idle head
        obtain ⟨call, next, calls, resumes⟩ := txSender_resumes system.state seconds data
        simp only [channelWorker, calls]
        refine ⟨by simp [System.settle], ?_⟩
        rintro _ _ ⟨⟩
        exact ⟨call, next, rfl, resumes⟩
      · exact running
  | reply reply =>
      simp only [System.step]
      split
      · rename_i client call next works
        obtain ⟨_, _, calls, resumes⟩ := running.resumes client _ works
        cases calls
        obtain ⟨after, answer, ends⟩ := resumes reply
        rw [ends]
        exact ⟨by simp [System.settle], by simp [System.settle]⟩
      · exact running
  | _ =>
      simp only [System.step]
      repeat' split
      all_goals exact same rfl

/-- The worker of the generic issuer never stops. -/
theorem Running.at {capacity : Nat} {start : IssuerSystem} (running : Running start)
    (events : Nat → Event UInt64 IssueChannelData RegisterReply) (time : Nat) :
    Running (start.at (channelWorker capacity) events time) := by
  induction time with
  | zero => exact running
  | succ time ih => exact ih.step (events time)

end Web3IdIssuer

open Library Library.Worker

/-- In every fair run, a request that has entered the channel is answered or given up by its client;
it fails only when the worker of the Telegram or Discord issuer has stopped, and the worker of the
generic issuer never stops. -/
theorem issuers_answerWaiting :
    (∀ (sdk : SomeIssuer.Sdk) (capacity : Nat) (worker : SomeIssuer.IssuerWorker)
      (events : Nat → Event SomeIssuer.Reading SomeIssuer.IssueChannelData RegisterReply),
      Fair (SomeIssuer.channelWorker sdk capacity) (.initial worker) events →
      ∀ time client,
        (System.at (SomeIssuer.channelWorker sdk capacity) (.initial worker) events
          time).clients client = some .waiting →
        ∃ later ≥ time, Departs
          (System.at (SomeIssuer.channelWorker sdk capacity) (.initial worker) events later)
          client) ∧
    (∀ (capacity : Nat) (worker : Web3IdIssuer.IssuerWorker)
      (events : Nat → Event UInt64 Web3IdIssuer.IssueChannelData RegisterReply),
      (∀ time, (System.at (Web3IdIssuer.channelWorker capacity) (.initial worker) events
        time).phase ≠ .stopped) ∧
      (Fair (Web3IdIssuer.channelWorker capacity) (.initial worker) events →
      ∀ time client,
        (System.at (Web3IdIssuer.channelWorker capacity) (.initial worker) events
          time).clients client = some .waiting →
        ∃ later ≥ time,
          let system := System.at (Web3IdIssuer.channelWorker capacity) (.initial worker) events later
          (∃ answer, system.clients client = some (.answered answer)) ∨
            system.clients client = some .cancelled)) := by
  refine ⟨?_, ?_⟩
  · intro sdk capacity worker events fair time client waits
    exact fair.departs (.initial worker) waits
  · intro capacity worker events
    have runs : ∀ time, (System.at (Web3IdIssuer.channelWorker capacity) (.initial worker) events
        time).phase ≠ .stopped :=
      fun time => ((Web3IdIssuer.Running.initial worker).at events time).runs
    refine ⟨runs, ?_⟩
    intro fair time client waits
    obtain ⟨later, after, departs⟩ := fair.departs (.initial worker) waits
    refine ⟨later, after, ?_⟩
    cases departs with
    | answered answer got => exact .inl ⟨answer, got⟩
    | cancelled gone => exact .inr gone
    | failed dropped stopped => exact absurd stopped (runs later)

section Sample

variable {State Clock Job Call Reply Answer : Type}

/-- One client is served, and then nothing happens any more. -/
def sampleEvents (job : Job) (clock : Clock) (reply : Reply) : Nat → Event Clock Job Reply
  | 0 => .connect 0 job
  | 1 => .enqueue 0
  | 2 => .dequeue clock
  | 3 => .reply reply
  | _ => .read 1

/-- The sample run is fair when the worker replies to its client and is idle before and after. -/
theorem sampleEvents_fair {worker : Worker State Clock Job Call Reply Answer}
    {start : System State Job Call Reply Answer} {job : Job} {clock : Clock} {reply : Reply}
    (idle : ∀ time ≤ 4, time ≠ 3 →
      (start.at worker (sampleEvents job clock reply) time).phase = .idle)
    (empty : ∀ time ≤ 4, time ≠ 2 →
      (start.at worker (sampleEvents job clock reply) time).queue = [])
    (works : (start.at worker (sampleEvents job clock reply) 3).phase ≠ .stopped)
    (rests : (start.at worker (sampleEvents job clock reply) 4).step worker (.read 1) =
      start.at worker (sampleEvents job clock reply) 4) :
    Fair worker start (sampleEvents job clock reply) := by
  have later : ∀ time, start.at worker (sampleEvents job clock reply) (time + 4) =
      start.at worker (sampleEvents job clock reply) 4 := by
    intro time
    induction time with
    | zero => rfl
    | succ time ih =>
        change (start.at worker _ (time + 4)).step worker (.read 1) = _
        rw [ih, rests]
  have idle : ∀ time ≠ 3,
      (start.at worker (sampleEvents job clock reply) time).phase = .idle := by
    intro time other
    rcases Nat.lt_or_ge time 5 with before | after
    · exact idle time (by omega) other
    · obtain ⟨rest, rfl⟩ := Nat.exists_eq_add_of_le' (Nat.le_of_succ_le after)
      rw [later]
      exact idle 4 (Nat.le_refl 4) (by decide)
  have empty : ∀ time ≠ 2,
      (start.at worker (sampleEvents job clock reply) time).queue = [] := by
    intro time other
    rcases Nat.lt_or_ge time 5 with before | after
    · exact empty time (by omega) other
    · obtain ⟨rest, rfl⟩ := Nat.exists_eq_add_of_le' (Nat.le_of_succ_le after)
      rw [later]
      exact empty 4 (Nat.le_refl 4) (by decide)
  refine ⟨?_, ?_, ?_⟩
  · intro time _ queued
    by_cases second : time = 2
    · exact ⟨2, Nat.le_of_eq second, clock, rfl⟩
    · exact absurd (empty time second) queued
  · intro time client program busy
    by_cases third : time = 3
    · exact ⟨3, Nat.le_of_eq third, reply, rfl⟩
    · cases (idle time third).symm.trans busy
  · intro time client stopped _
    by_cases third : time = 3
    · exact absurd (third ▸ stopped) works
    · cases (idle time third).symm.trans stopped

end Sample

/-- The client of the sample run is answered or leaves, at either kind of issuer. -/
theorem issuers_answerWaiting_sample :
    (∃ later ≥ 2, Departs
      (System.at (SomeIssuer.channelWorker SomeIssuer.sampleSdk 100)
        (.initial SomeIssuer.sampleWorker)
        (sampleEvents SomeIssuer.sampleData SomeIssuer.sampleReading (.ok ⟨9⟩)) later) 0) ∧
    ∃ later ≥ 2,
      let system := System.at (Web3IdIssuer.channelWorker 100) (.initial Web3IdIssuer.sampleWorker)
        (sampleEvents Web3IdIssuer.sampleData 1 (.ok ⟨9⟩)) later
      (∃ answer, system.clients 0 = some (.answered answer)) ∨
        system.clients 0 = some .cancelled := by
  constructor
  · refine issuers_answerWaiting.1 _ _ _ _ (sampleEvents_fair ?_ ?_ ?_ rfl) 2 0 rfl
    · rintro (_ | _ | _ | _ | _ | time) bound other <;> first | rfl | omega
    · rintro (_ | _ | _ | _ | _ | time) bound other <;> first | rfl | omega
    · exact nofun
  · refine (issuers_answerWaiting.2 _ _ _).2 (sampleEvents_fair ?_ ?_ ?_ rfl) 2 0 rfl
    · rintro (_ | _ | _ | _ | _ | time) bound other <;> first | rfl | omega
    · rintro (_ | _ | _ | _ | _ | time) bound other <;> first | rfl | omega
    · exact nofun

end Web3Id
