import Web3Id.Proof.Issuer.SomeIssuerLoop

namespace Web3Id

open Library Library.Worker

namespace SomeIssuer

/-- The nonce of a loop is the nonce that its worker tracks. -/
abbrev nonceOf (worker : IssuerWorker) : Nat := worker.state.nonce

/-- A turn against the node has an effect on the nonces of both sides. -/
theorem turn_effect {sdk : Sdk} {capacity : Nat} {first second : IssuerLoop}
    {input : Reading × IssueChannelData}
    (turn : Loop.Turn (channelWorker sdk capacity) Node.Answers first input second) :
    Loop.Effect nonceOf (fun call : RegisterCall => call.metadata.nonce) RegisterReply.isOk
      first second input.2 :=
  turn.effect (txSender_disciplined sdk first.state input.1 input.2) Node.answers_sequenced

/-- The history holds a reply that reports an invalid argument. -/
def SawInvalidArgument (loop : IssuerLoop) : Prop :=
  ∃ exchange ∈ loop.exchanges, ∃ error, exchange.reply = .error error ∧
    error.isInvalidArgument = true

/-- Against a node that may lose replies, the worker lags by at most one, has stopped after an
invalid argument, and its limiter misses at most the registration that it lags behind. -/
structure Tracks (limit : RateLimiter) (loop : IssuerLoop) : Prop where
  lags : loop.Lags nonceOf
  stops : SawInvalidArgument loop → loop.running = false
  limiter : loop.state.state.limit =
    (registeredUsers loop).foldr (fun user limit => limit.updateLimit user) limit
  counted : ∀ user, (acceptedUsers loop).count user ≤
    (registeredUsers loop).count user + (loop.next - nonceOf loop.state)

theorem Tracks.start (worker : IssuerWorker) :
    Tracks worker.state.limit (Loop.start worker worker.state.nonce) where
  lags := .inl rfl
  stops := by simp [SawInvalidArgument, Loop.start]
  limiter := rfl
  counted := by simp [acceptedUsers, Loop.start]

/-- An invalid argument stops the loop in the turn that reports it. -/
theorem LoopOutcome.stops {sdk : Sdk} {first second : IssuerLoop} {reading : Reading}
    {data : IssueChannelData} (outcome : LoopOutcome sdk first second reading data)
    (before : ¬ SawInvalidArgument first) (after : SawInvalidArgument second) :
    second.running = false := by
  obtain ⟨exchange, member, error, reply, invalid⟩ := after
  cases outcome with
  | invalid fails state exchanges answers =>
      rw [exchanges] at member
      exact absurd ⟨exchange, member, error, reply, invalid⟩ before
  | limited valid full state exchanges answers =>
      rw [exchanges] at member
      exact absurd ⟨exchange, member, error, reply, invalid⟩ before
  | accepted valid room exchanges same accepted state answers =>
      rw [exchanges] at member
      rcases List.mem_cons.mp member with equal | older
      · rw [equal, accepted] at reply
        cases reply
      · exact absurd ⟨exchange, older, error, reply, invalid⟩ before
  | failed valid room exchanges same failed state answers running =>
      rw [exchanges] at member
      rcases List.mem_cons.mp member with equal | older
      · rw [equal, failed] at reply
        cases reply
        rw [running]
        exact rejection_invalidArgument invalid
      · exact absurd ⟨exchange, older, error, reply, invalid⟩ before

/-- One turn adds at most the accepted user to the count that the limiter misses. -/
theorem count_turn {first second : IssuerLoop} {data : IssueChannelData}
    (effect : Loop.Effect nonceOf (fun call : RegisterCall => call.metadata.nonce)
      RegisterReply.isOk first second data) (user : String)
    (counted : (acceptedUsers first).count user ≤
      (registeredUsers first).count user + (first.next - nonceOf first.state)) :
    (acceptedUsers second).count user ≤
      (registeredUsers second).count user + (second.next - nonceOf second.state) := by
  cases effect with
  | silent exchanges next kept =>
      rw [acceptedUsers, registeredUsers, exchanges, next, kept]
      exact counted
  | accepted exchanges same expected carries landed noticed current next advanced =>
      rw [acceptedUsers_cons exchanges, registeredUsers_cons exchanges, landed, noticed]
      simp only [if_true, List.count_append]
      omega
  | lost exchanges same expected carries landed missed current next kept =>
      have once : List.count user [data.userId] ≤ 1 := List.count_le_length
      rw [acceptedUsers_cons exchanges, registeredUsers_cons exchanges, landed, missed, same]
      simp only [if_true, Bool.false_eq_true, if_false, List.nil_append, List.count_append]
      omega
  | refused exchanges same expected carries idle missed next kept =>
      rw [acceptedUsers_cons exchanges, registeredUsers_cons exchanges, idle, missed, next, kept]
      simpa using counted

/-- Every turn keeps the worker on track. -/
theorem Tracks.turn {limit : RateLimiter} {sdk : Sdk} {capacity : Nat} {first second : IssuerLoop}
    {input : Reading × IssueChannelData} (tracks : Tracks limit first)
    (turn : Loop.Turn (channelWorker sdk capacity) Node.Answers first input second) :
    Tracks limit second where
  lags := (turn_effect turn).lags tracks.lags
  stops := (turn_outcome turn).stops fun saw => by
    have stopped := tracks.stops saw
    rw [turn.running] at stopped
    cases stopped
  limiter := by
    rcases (turn_outcome turn).limit with ⟨users, state⟩ | ⟨users, state, -⟩
    · rw [users, state]
      exact tracks.limiter
    · rw [users, state, List.foldr_cons, ← tracks.limiter]
      rfl
  counted user := count_turn (turn_effect turn) user (tracks.counted user)

/-- A worker that lags behind has no further registration accepted, and answers no further
request with a credential. -/
structure Frozen (first second : IssuerLoop) : Prop where
  nonce : nonceOf second.state = nonceOf first.state
  next : second.next = first.next
  accepted : acceptedUsers second = acceptedUsers first
  registered : registeredUsers second = registeredUsers first
  answers : ∃ answers, second.answers = answers ++ first.answers ∧
    ∀ answer ∈ answers, answer.2.isOk = false

theorem Frozen.turn {sdk : Sdk} {capacity : Nat} {first second third : IssuerLoop}
    {input : Reading × IssueChannelData} (frozen : Frozen first second)
    (behind : first.next = nonceOf first.state + 1)
    (turn : Loop.Turn (channelWorker sdk capacity) Node.Answers second input third) :
    Frozen first third := by
  have lagging : nonceOf second.state < second.next := by
    rw [frozen.nonce, frozen.next]
    omega
  obtain ⟨nonce, next, landed, noticed⟩ := (turn_effect turn).behind lagging
  have registered : registeredUsers third = registeredUsers second := by
    rw [registeredUsers, noticed]
    rfl
  obtain ⟨answer, grown, refused⟩ := (turn_outcome turn).answer
  obtain ⟨answers, split, errors⟩ := frozen.answers
  refine ⟨nonce.trans frozen.nonce, next.trans frozen.next, ?_, registered.trans frozen.registered,
    (input.2, answer) :: answers, ?_, ?_⟩
  · rw [acceptedUsers, landed]
    exact frozen.accepted
  · rw [grown, split]
    rfl
  · intro given member
    rcases List.mem_cons.mp member with equal | older
    · rw [equal]
      exact refused registered
    · exact errors given older

/-- A lost reply leaves the worker one nonce behind, where nothing further is accepted or answered
with a credential; an invalid argument ends the loop; and the limiter misses at most one accepted
registration of each user. -/
theorem someIssuer_lostReply (sdk : Sdk) (capacity : Nat) (worker : IssuerWorker)
    (inputs : List (Reading × IssueChannelData)) (loop : IssuerLoop)
    (run : Execution (Loop.Turn (channelWorker sdk capacity) Node.Answers)
      (.start worker worker.state.nonce) inputs loop) :
    (loop.next = loop.state.state.nonce ∨ loop.next = loop.state.state.nonce + 1) ∧
    (loop.next = loop.state.state.nonce + 1 → ∀ further last,
      Execution (Loop.Turn (channelWorker sdk capacity) Node.Answers) loop further last →
      acceptedUsers last = acceptedUsers loop ∧
        ∃ answers, last.answers = answers ++ loop.answers ∧
          ∀ answer ∈ answers, answer.2.isOk = false) ∧
    (SawInvalidArgument loop → ∀ input after,
      ¬ Loop.Turn (channelWorker sdk capacity) Node.Answers loop input after) ∧
    loop.state.state.limit =
      (registeredUsers loop).foldr (fun user limit => limit.updateLimit user) worker.state.limit ∧
    ∀ user, (acceptedUsers loop).count user ≤ (registeredUsers loop).count user + 1 := by
  have tracks : Tracks worker.state.limit loop :=
    run.invariant (fun _ _ _ before turn => before.turn turn) (Tracks.start worker)
  refine ⟨tracks.lags, ?_, ?_, tracks.limiter, ?_⟩
  · intro behind further last continued
    have frozen : Frozen loop last :=
      continued.invariant (fun _ _ _ before turn => before.turn behind turn)
        ⟨rfl, rfl, rfl, rfl, [], rfl, by simp⟩
    exact ⟨frozen.accepted, frozen.answers⟩
  · intro saw input after turn
    have stopped := tracks.stops saw
    rw [turn.running] at stopped
    cases stopped
  · intro user
    have lags := tracks.lags
    have counted := tracks.counted user
    unfold Loop.Lags at lags
    omega

/-- The node accepts the sample registration, and the reply is lost. -/
def sampleLost : IssuerLoop where
  state := sampleWorker
  running := true
  next := 6
  exchanges := [⟨sampleData, ⟨sampleWorker.metadata 1, sampleData.credential, []⟩,
    .error (.rpcError (.callError ⟨.unavailable, "connection lost"⟩)), 5, true⟩]
  answers := [(sampleData, .error .badGateway)]

/-- In the sample run the limiter misses the one accepted registration. -/
theorem someIssuer_lostReply_sample :
    (acceptedUsers sampleLost).count "42" ≤ (registeredUsers sampleLost).count "42" + 1 := by
  have turn : Loop.Turn (channelWorker sampleSdk 100) Node.Answers (.start sampleWorker 5)
      (sampleReading, sampleData) sampleLost :=
    turn_submits (.start sampleWorker 5) sampleReading sampleData
      (.error (.rpcError (.callError ⟨.unavailable, "connection lost"⟩))) 6 rfl rfl (by decide)
      (.lost rfl rfl)
  exact (someIssuer_lostReply sampleSdk 100 sampleWorker [(sampleReading, sampleData)] sampleLost
    (.single turn)).2.2.2.2 "42"

end SomeIssuer

end Web3Id
