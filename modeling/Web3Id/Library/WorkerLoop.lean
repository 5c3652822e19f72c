import Mathlib.Tactic.Common
import Web3Id.Library.CounterDiscipline
import Web3Id.Library.Execution

namespace Web3Id.Library.Worker

variable {State Clock Job Call Reply Answer : Type}

/-- An exchange records one call, its reply, the number that the peer expected for it, and whether
the peer carried the call out. -/
structure Exchange (Job Call Reply : Type) where
  job : Job
  call : Call
  reply : Reply
  expected : Nat
  landed : Bool

/-- A loop keeps the worker, the number that its peer expects next, and both histories with the
newest entry first. -/
structure Loop (State Job Call Reply Answer : Type) where
  state : State
  running : Bool
  next : Nat
  exchanges : List (Exchange Job Call Reply)
  answers : List (Job × Answer)

/-- The loop starts with empty histories. -/
def Loop.start (state : State) (next : Nat) : Loop State Job Call Reply Answer :=
  ⟨state, true, next, [], []⟩

/-- A running loop takes one job, and its peer chooses the reply to the call of that job. A call
is carried out when it moves the number that the peer expects. -/
inductive Loop.Turn (worker : Worker State Clock Job Call Reply Answer)
    (peer : Nat → Call → Reply → Nat → Prop) :
    Loop State Job Call Reply Answer → Clock × Job → Loop State Job Call Reply Answer → Prop
  | silent {loop : Loop State Job Call Reply Answer} {clock : Clock} {job : Job} {after : State}
      {answer : Answer} {continues : Bool} (running : loop.running = true)
      (ends : worker.iteration loop.state clock job = .pure (after, answer, continues)) :
      Loop.Turn worker peer loop (clock, job)
        { loop with
          state := after
          running := continues
          answers := (job, answer) :: loop.answers }
  | exchange {loop : Loop State Job Call Reply Answer} {clock : Clock} {job : Job} {call : Call}
      {next : Reply → Program Call (fun _ => Reply) (State × Answer × Bool)} {reply : Reply}
      {number : Nat} {after : State} {answer : Answer} {continues : Bool}
      (running : loop.running = true)
      (calls : worker.iteration loop.state clock job = .call call next)
      (replies : peer loop.next call reply number)
      (ends : next reply = .pure (after, answer, continues)) :
      Loop.Turn worker peer loop (clock, job)
        { state := after
          running := continues
          next := number
          exchanges :=
            ⟨job, call, reply, loop.next, decide (number ≠ loop.next)⟩ :: loop.exchanges
          answers := (job, answer) :: loop.answers }

/-- A stopped loop takes no further job. -/
theorem Loop.Turn.running {worker : Worker State Clock Job Call Reply Answer}
    {peer : Nat → Call → Reply → Nat → Prop} {first second : Loop State Job Call Reply Answer}
    {input : Clock × Job} (turn : Loop.Turn worker peer first input second) :
    first.running = true := by
  cases turn with
  | silent running _ => exact running
  | exchange running _ _ _ => exact running

/-- A sequenced peer carries out only the call with the number that it expects. Its acceptance
always reaches the number, while a call may be carried out without an accepting reply. -/
structure Sequenced (carried : Call → Nat) (accepted : Reply → Bool)
    (peer : Nat → Call → Reply → Nat → Prop) : Prop where
  moves : ∀ next call reply number, peer next call reply number →
    number = next ∨ carried call = next ∧ number = next + 1
  accepts : ∀ next call reply number, peer next call reply number → accepted reply = true →
    number = next + 1

variable {counter : State → Nat} {carried : Call → Nat} {accepted : Reply → Bool}
  {worker : Worker State Clock Job Call Reply Answer} {peer : Nat → Call → Reply → Nat → Prop}

/-- A loop lags by at most one when the peer carried out at most one call that the worker missed. -/
def Loop.Lags (counter : State → Nat) (loop : Loop State Job Call Reply Answer) : Prop :=
  loop.next = counter loop.state ∨ loop.next = counter loop.state + 1

/-- A turn of a disciplined worker either exchanges nothing, or makes one call with its counter.
Then the call landed and was accepted, landed unnoticed, or was refused. -/
inductive Loop.Effect (counter : State → Nat) (carried : Call → Nat) (accepted : Reply → Bool)
    (first second : Loop State Job Call Reply Answer) (job : Job) : Prop
  | silent (exchanges : second.exchanges = first.exchanges) (next : second.next = first.next)
      (kept : counter second.state = counter first.state)
  | accepted {exchange : Exchange Job Call Reply}
      (exchanges : second.exchanges = exchange :: first.exchanges) (same : exchange.job = job)
      (expected : exchange.expected = first.next)
      (carries : carried exchange.call = counter first.state) (landed : exchange.landed = true)
      (noticed : accepted exchange.reply = true) (current : counter first.state = first.next)
      (next : second.next = first.next + 1)
      (advanced : counter second.state = counter first.state + 1)
  | lost {exchange : Exchange Job Call Reply}
      (exchanges : second.exchanges = exchange :: first.exchanges) (same : exchange.job = job)
      (expected : exchange.expected = first.next)
      (carries : carried exchange.call = counter first.state) (landed : exchange.landed = true)
      (missed : accepted exchange.reply = false) (current : counter first.state = first.next)
      (next : second.next = first.next + 1)
      (kept : counter second.state = counter first.state)
  | refused {exchange : Exchange Job Call Reply}
      (exchanges : second.exchanges = exchange :: first.exchanges) (same : exchange.job = job)
      (expected : exchange.expected = first.next)
      (carries : carried exchange.call = counter first.state) (idle : exchange.landed = false)
      (missed : accepted exchange.reply = false) (next : second.next = first.next)
      (kept : counter second.state = counter first.state)

/-- Every turn has one of these effects. -/
theorem Loop.Turn.effect {first second : Loop State Job Call Reply Answer} {input : Clock × Job}
    (turn : Loop.Turn worker peer first input second)
    (disciplined : Disciplined counter carried accepted first.state
      (worker.iteration first.state input.1 input.2))
    (sequenced : Sequenced carried accepted peer) :
    Loop.Effect counter carried accepted first second input.2 := by
  cases turn with
  | silent running ends =>
      rw [ends] at disciplined
      cases disciplined with
      | silent kept => exact .silent rfl rfl kept
  | @exchange _ _ _ _ reply number _ _ _ running calls replies ends =>
      rw [calls] at disciplined
      cases disciplined with
      | submits carries finishes =>
          obtain ⟨after, answer, continues, returns, advanced⟩ := finishes reply
          rw [ends] at returns
          cases returns
          have moved := sequenced.moves _ _ _ _ replies
          cases noticed : accepted reply with
          | true =>
              have lands := sequenced.accepts _ _ _ _ replies noticed
              have current : counter first.state = first.next := by omega
              rw [noticed, if_pos rfl] at advanced
              exact .accepted rfl rfl rfl carries (by simp [lands]) noticed current lands advanced
          | false =>
              rw [noticed, if_neg Bool.false_ne_true] at advanced
              rcases moved with same | ⟨current, lands⟩
              · exact .refused rfl rfl rfl carries (by simp [same]) noticed same advanced
              · exact .lost rfl rfl rfl carries (by simp [lands]) noticed (carries.symm.trans current)
                  lands advanced

/-- One turn keeps the lag. -/
theorem Loop.Effect.lags {first second : Loop State Job Call Reply Answer} {job : Job}
    (effect : Loop.Effect counter carried accepted first second job)
    (lags : first.Lags counter) : second.Lags counter := by
  unfold Loop.Lags at lags ⊢
  cases effect <;> omega

/-- A lagging worker has no further call carried out and never catches up. -/
theorem Loop.Effect.behind {first second : Loop State Job Call Reply Answer} {job : Job}
    (effect : Loop.Effect counter carried accepted first second job)
    (behind : counter first.state < first.next) :
    counter second.state = counter first.state ∧ second.next = first.next ∧
      second.exchanges.filter (fun exchange => exchange.landed) =
        first.exchanges.filter (fun exchange => exchange.landed) ∧
      second.exchanges.filter (fun exchange => accepted exchange.reply) =
        first.exchanges.filter (fun exchange => accepted exchange.reply) := by
  cases effect with
  | silent exchanges next kept => exact ⟨kept, next, by rw [exchanges], by rw [exchanges]⟩
  | accepted exchanges same expected carries landed noticed current next advanced => omega
  | lost exchanges same expected carries landed missed current next kept => omega
  | refused exchanges same expected carries idle missed next kept =>
      refine ⟨kept, next, ?_, ?_⟩
      · rw [exchanges, List.filter_cons_of_neg (by simp [idle])]
      · rw [exchanges, List.filter_cons_of_neg (by simp [missed])]

end Web3Id.Library.Worker
