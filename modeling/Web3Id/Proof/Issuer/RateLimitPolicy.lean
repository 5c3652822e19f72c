import Web3Id.Library.SlidingWindow
import Web3Id.Proof.Issuer.SomeIssuerLoop

namespace Web3Id.SomeIssuer

open Library Library.Worker

/-- The limiter of a loop keeps its configuration, represents the registered users, and admitted
each of them below the multiplicity. -/
structure Limited (maxQueueSize multiplicity : Nat) (loop : IssuerLoop) : Prop where
  capacity : loop.state.state.limit.maxQueueSize = maxQueueSize
  repeats : loop.state.state.limit.multiplicity = multiplicity
  represents : loop.state.state.limit.Represents (registeredUsers loop)
  paced : Paced multiplicity (max 1 maxQueueSize) (registeredUsers loop)

/-- The window of the limiter follows from its capacity. -/
theorem Limited.window {maxQueueSize multiplicity : Nat} {loop : IssuerLoop}
    (limited : Limited maxQueueSize multiplicity loop) :
    loop.state.state.limit.window = max 1 maxQueueSize := by
  rw [RateLimiter.window, limited.capacity]

/-- The check of the limiter counts the user among the latest registrations. -/
theorem Limited.checkLimit {maxQueueSize multiplicity : Nat} {loop : IssuerLoop}
    (limited : Limited maxQueueSize multiplicity loop) (user : String) :
    loop.state.state.limit.checkLimit user = true ↔
      ((registeredUsers loop).take (max 1 maxQueueSize)).count user < multiplicity := by
  rw [limited.represents.checkLimit, limited.window, limited.repeats]

/-- A loop that starts with a new state is limited. -/
theorem Limited.start (worker : IssuerWorker) (nonce maxQueueSize multiplicity next : Nat) :
    Limited maxQueueSize multiplicity
      (Loop.start { worker with state := .new nonce maxQueueSize multiplicity } next) where
  capacity := rfl
  repeats := rfl
  represents := SyncState.new_represents nonce maxQueueSize multiplicity
  paced := trivial

/-- Every turn keeps the loop limited. -/
theorem Limited.turn {maxQueueSize multiplicity : Nat} {sdk : Sdk} {first second : IssuerLoop}
    {reading : Reading} {data : IssueChannelData}
    (limited : Limited maxQueueSize multiplicity first)
    (outcome : LoopOutcome sdk first second reading data) :
    Limited maxQueueSize multiplicity second := by
  rcases outcome.limit with ⟨users, state⟩ | ⟨users, state, room⟩
  · exact ⟨by rw [state, limited.capacity], by rw [state, limited.repeats],
      by rw [users, state]; exact limited.represents, by rw [users]; exact limited.paced⟩
  · constructor
    · rw [state, ← limited.capacity]
      exact updateLimit_maxQueueSize _ _
    · rw [state, ← limited.repeats]
      exact updateLimit_multiplicity _ _
    · rw [users, state]
      exact limited.represents.updateLimit data.userId
    · rw [users]
      exact ⟨(limited.checkLimit data.userId).mp room, limited.paced⟩

/-- Every run keeps the loop limited. -/
theorem Limited.run {maxQueueSize multiplicity capacity : Nat} {sdk : Sdk}
    {peer : Nat → RegisterCall → RegisterReply → Nat → Prop} {first last : IssuerLoop}
    {inputs : List (Reading × IssueChannelData)}
    (run : Execution (Loop.Turn (channelWorker sdk capacity) peer) first inputs last)
    (limited : Limited maxQueueSize multiplicity first) :
    Limited maxQueueSize multiplicity last :=
  run.invariant (fun _ _ _ before turn => before.turn (turn_outcome turn)) limited

/-- The answer to a failed registration never reports a rate limit. -/
theorem rejection_chain_ne (error : Cis4TransactionError) :
    (rejection (.chain error)).1 ≠ .tooManyRequests := by
  cases error with
  | invalidParams message => simp [rejection]
  | nodeRejected reason => simp [rejection]
  | rpcError error =>
      cases error with
      | parseError message => simp [rejection]
      | callError status =>
          simp only [rejection]
          split <;> simp

/-- The answer to an accepted registration never reports a rate limit. -/
theorem respond_ne_limited (sdk : Sdk) (self : IssuerWorker) (reading : Reading)
    (data : IssueChannelData) (txHash : TransactionHash) :
    (self.respond sdk reading data txHash).2.1 ≠ .error .tooManyRequests := by
  unfold IssuerWorker.respond
  split <;> simp

/-- A valid request is rate limited exactly when the check of the limiter fails. -/
theorem LoopOutcome.tooMany {sdk : Sdk} {first second : IssuerLoop} {reading : Reading}
    {data : IssueChannelData} (outcome : LoopOutcome sdk first second reading data)
    (valid : first.state.validateCredential reading.now data.credential = .ok ()) :
    second.answers.head? = some (data, .error .tooManyRequests) ↔
      first.state.state.limit.checkLimit data.userId = false := by
  cases outcome with
  | invalid fails state exchanges answers => simp [valid] at fails
  | limited valid full state exchanges answers => simp [answers, full]
  | accepted valid room exchanges same reply state answers =>
      have other := respond_ne_limited sdk (first.state.registered data.userId) reading data
      simp [answers, room, other]
  | failed valid room exchanges same reply state answers running =>
      have other := rejection_chain_ne
      simp [answers, room, other]

/-- A request that was not registered leaves the limiter and the nonce unchanged. -/
theorem LoopOutcome.unchanged {sdk : Sdk} {first second : IssuerLoop} {reading : Reading}
    {data : IssueChannelData} (outcome : LoopOutcome sdk first second reading data)
    (refused : (∃ error,
        first.state.validateCredential reading.now data.credential = .error error) ∨
      second.answers.head? = some (data, .error .tooManyRequests) ∨
      ∃ exchange error, second.exchanges = exchange :: first.exchanges ∧
        exchange.reply = .error error) : second.state.state = first.state.state := by
  cases outcome with
  | invalid fails state exchanges answers => rw [state]
  | limited valid full state exchanges answers => rw [state]
  | accepted valid room exchanges same reply state answers =>
      exfalso
      rcases refused with ⟨error, fails⟩ | limited | ⟨exchange, error, grown, failed⟩
      · simp [valid] at fails
      · have other := respond_ne_limited sdk (first.state.registered data.userId) reading data
        simp [answers, other] at limited
      · rw [exchanges, List.cons.injEq] at grown
        rw [← grown.1, reply] at failed
        cases failed
  | failed valid room exchanges same reply state answers running => rw [state]

/-- The rate limit holds in every window of registrations, is reported exactly when the window is
full for the user, and requests that register nothing leave it unchanged. -/
theorem rateLimitPolicy (sdk : Sdk) (capacity : Nat)
    (peer : Nat → RegisterCall → RegisterReply → Nat → Prop) (worker : IssuerWorker)
    (nonce maxQueueSize multiplicity next : Nat) (inputs : List (Reading × IssueChannelData))
    (loop : IssuerLoop)
    (run : Execution (Loop.Turn (channelWorker sdk capacity) peer)
      (.start { worker with state := .new nonce maxQueueSize multiplicity } next) inputs loop) :
    (∀ segment, segment <:+: registeredUsers loop → segment.length = max 1 maxQueueSize + 1 →
      ∀ user, segment.count user ≤ multiplicity) ∧
    (∀ reading data after,
      Loop.Turn (channelWorker sdk capacity) peer loop (reading, data) after →
      loop.state.validateCredential reading.now data.credential = .ok () →
      (after.answers.head? = some (data, .error .tooManyRequests) ↔
        multiplicity ≤
          ((registeredUsers loop).take (max 1 maxQueueSize)).count data.userId)) ∧
    (∀ reading data after,
      Loop.Turn (channelWorker sdk capacity) peer loop (reading, data) after →
      ((∃ error, loop.state.validateCredential reading.now data.credential = .error error) ∨
        after.answers.head? = some (data, .error .tooManyRequests) ∨
        ∃ exchange error, after.exchanges = exchange :: loop.exchanges ∧
          exchange.reply = .error error) →
      after.state.state = loop.state.state) := by
  have limited := Limited.run run (Limited.start worker nonce maxQueueSize multiplicity next)
  refine ⟨?_, ?_, ?_⟩
  · intro segment inside length user
    exact limited.paced.count_infix_le inside (Nat.le_of_eq length) user
  · intro reading data after turn valid
    rw [(turn_outcome turn).tooMany valid, ← Bool.not_eq_true, limited.checkLimit data.userId,
      Nat.not_lt]
  · intro reading data after turn refused
    exact (turn_outcome turn).unchanged refused

/-- After one registration of a user, a limit of one refuses the next request of that user. -/
theorem rateLimitPolicy_sample :
    1 ≤ ((registeredUsers sampleAccepted).take (max 1 0)).count "42" := by
  have turn : Loop.Turn (channelWorker sampleSdk 100) Node.Answers sampleAccepted
      (sampleReading, sampleData) { sampleAccepted with
        answers := (sampleData, .error .tooManyRequests) :: sampleAccepted.answers } :=
    .silent rfl rfl
  exact ((rateLimitPolicy sampleSdk 100 Node.Answers sampleWorker 5 0 1 5
    [(sampleReading, sampleData)] sampleAccepted (.single sampleAccepted_turn)).2.1
      sampleReading sampleData _ turn rfl).mp rfl

end Web3Id.SomeIssuer
