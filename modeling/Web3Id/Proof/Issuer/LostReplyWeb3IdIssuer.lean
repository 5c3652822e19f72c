import Web3Id.Proof.Issuer.NonceDiscipline

namespace Web3Id.Web3IdIssuer

open Library Library.Worker

/-- The loop of the generic issuer. -/
abbrev IssuerLoop :=
  Loop IssuerWorker IssueChannelData RegisterCall RegisterReply (Except Error TransactionHash)

/-- One turn of the loop against the node. -/
abbrev Turn (capacity : Nat) : IssuerLoop → UInt64 × IssueChannelData → IssuerLoop → Prop :=
  Loop.Turn (channelWorker capacity) Node.Answers

/-- The last reply reported an invalid argument because the transaction carried another nonce than
the node expected. -/
def Mismatched (loop : IssuerLoop) : Prop :=
  ∃ exchange error, loop.exchanges.head? = some exchange ∧ exchange.reply = .error error ∧
    error.isInvalidArgument = true ∧ exchange.call.metadata.nonce ≠ exchange.expected

/-- The service recovers when a worker that goes on after a mismatch has the node's nonce again,
and some later transaction can still be accepted. -/
structure Recovers (capacity : Nat) (loop : IssuerLoop) : Prop where
  restored : Mismatched loop → (∃ input after, Turn capacity loop input after) →
    loop.state.nonceCounter = loop.next
  live : (∃ input after, Turn capacity loop input after) →
    ∃ inputs last, Execution (Turn capacity) loop inputs last ∧ loop.next < last.next

/-- The reply to each transaction that the node accepted in this turn reached the worker. -/
def KeepsReply (first second : IssuerLoop) : Prop :=
  ∀ exchange, second.exchanges = exchange :: first.exchanges → exchange.landed = true →
    exchange.reply.isOk = true

/-- A turn has an effect on the nonces of both sides. -/
theorem turn_effect {capacity : Nat} {first second : IssuerLoop}
    {input : UInt64 × IssueChannelData} (turn : Turn capacity first input second) :
    Loop.Effect IssuerWorker.nonceCounter (fun call : RegisterCall => call.metadata.nonce)
      RegisterReply.isOk first second input.2 :=
  turn.effect (txSender_disciplined first.state input.1 input.2) Node.answers_sequenced

/-- A worker whose replies all arrive agrees with the node, and never sees a mismatch. -/
structure Agrees (loop : IssuerLoop) : Prop where
  nonce : loop.state.nonceCounter = loop.next
  carried : ∀ exchange ∈ loop.exchanges, exchange.call.metadata.nonce = exchange.expected

theorem Agrees.start (worker : IssuerWorker) :
    Agrees (Loop.start worker worker.nonceCounter) := ⟨rfl, by simp [Loop.start]⟩

/-- One exchange with the expected nonce keeps every nonce expected. -/
theorem carried_cons {first second : IssuerLoop}
    {exchange : Exchange IssueChannelData RegisterCall RegisterReply}
    (exchanges : second.exchanges = exchange :: first.exchanges)
    (newest : exchange.call.metadata.nonce = exchange.expected)
    (older : ∀ exchange ∈ first.exchanges, exchange.call.metadata.nonce = exchange.expected) :
    ∀ exchange ∈ second.exchanges, exchange.call.metadata.nonce = exchange.expected := by
  rw [exchanges]
  exact List.forall_mem_cons.mpr ⟨newest, older⟩

/-- A turn that keeps its reply keeps the agreement. -/
theorem Agrees.turn {capacity : Nat} {first second : IssuerLoop}
    {input : UInt64 × IssueChannelData} (agrees : Agrees first)
    (turn : Turn capacity first input second) (keeps : KeepsReply first second) :
    Agrees second := by
  cases turn_effect turn with
  | silent exchanges next kept =>
      exact ⟨by rw [kept, next, agrees.nonce], by rw [exchanges]; exact agrees.carried⟩
  | accepted exchanges same expected carries landed noticed current next advanced =>
      refine ⟨by rw [advanced, next, current], carried_cons exchanges ?_ agrees.carried⟩
      rw [carries, expected, current]
  | lost exchanges same expected carries landed missed current next kept =>
      have arrived := keeps _ exchanges landed
      rw [missed] at arrived
      cases arrived
  | refused exchanges same expected carries idle missed next kept =>
      refine ⟨by rw [kept, next, agrees.nonce], carried_cons exchanges ?_ agrees.carried⟩
      rw [carries, expected, agrees.nonce]

/-- The node can accept the next transaction of a worker that agrees with it. -/
theorem Agrees.accepts {capacity : Nat} {loop : IssuerLoop} (agrees : Agrees loop)
    (running : loop.running = true) (input : UInt64 × IssueChannelData) :
    ∃ after, Turn capacity loop input after ∧ after.next = loop.next + 1 := by
  have replies : Node.Answers loop.next
      ⟨⟨loop.state.issuer, loop.state.nonceCounter, .minutesAfter input.1 5,
        .add loop.state.maxRegisterEnergy, 0⟩, input.2.credential, []⟩ (.ok ⟨0⟩)
        (loop.next + 1) := .accepted ⟨0⟩ agrees.nonce
  exact ⟨_, .exchange running rfl replies rfl, rfl⟩

/-- A worker that agrees with the node recovers. -/
theorem Agrees.recovers {capacity : Nat} {loop : IssuerLoop} (agrees : Agrees loop) :
    Recovers capacity loop where
  restored _ _ := agrees.nonce
  live := by
    rintro ⟨input, after, turn⟩
    obtain ⟨last, accepted, advanced⟩ := agrees.accepts turn.running input
    exact ⟨[input], last, .single accepted, by omega⟩

/-- The worker missed the reply to a transaction that the node accepted. -/
def MissedReply (loop : IssuerLoop) : Prop :=
  ∃ exchange ∈ loop.exchanges, exchange.landed = true ∧ exchange.reply.isOk = false

/-- A missed reply leaves the worker behind the node for good. -/
structure Behind (loop : IssuerLoop) : Prop where
  lags : loop.Lags IssuerWorker.nonceCounter
  missed : MissedReply loop → loop.state.nonceCounter < loop.next

theorem Behind.start (worker : IssuerWorker) :
    Behind (Loop.start worker worker.nonceCounter) where
  lags := .inl rfl
  missed := by simp [MissedReply, Loop.start]

theorem Behind.turn {capacity : Nat} {first second : IssuerLoop}
    {input : UInt64 × IssueChannelData} (behind : Behind first)
    (turn : Turn capacity first input second) : Behind second := by
  have effect := turn_effect turn
  refine ⟨effect.lags behind.lags, ?_⟩
  rintro ⟨exchange, member, landed, missed⟩
  have older (inside : exchange ∈ first.exchanges) :
      second.state.nonceCounter < second.next := by
    have before := behind.missed ⟨exchange, inside, landed, missed⟩
    obtain ⟨nonce, next, -, -⟩ := effect.behind before
    rw [nonce, next]
    exact before
  cases effect with
  | silent exchanges next kept =>
      rw [exchanges] at member
      exact older member
  | accepted exchanges same expected carries lands noticed current next advanced =>
      rw [exchanges] at member
      rcases List.mem_cons.mp member with equal | inside
      · rw [equal, noticed] at missed
        cases missed
      · exact older inside
  | lost exchanges same expected carries lands unnoticed current next kept =>
      rw [kept, next, current]
      exact Nat.lt_succ_self _
  | refused exchanges same expected carries idle unnoticed next kept =>
      rw [exchanges] at member
      rcases List.mem_cons.mp member with equal | inside
      · rw [equal, idle] at landed
        cases landed
      · exact older inside

/-- The nonce that the node expects stays put for a worker that is behind. -/
theorem behind_forever {capacity : Nat} {first last : IssuerLoop}
    {inputs : List (UInt64 × IssueChannelData)}
    (run : Execution (Turn capacity) first inputs last)
    (behind : first.state.nonceCounter < first.next) :
    last.state.nonceCounter < last.next ∧ last.next = first.next := by
  induction run with
  | done state => exact ⟨behind, rfl⟩
  | next head tail ih =>
      obtain ⟨nonce, next, -, -⟩ := (turn_effect head).behind behind
      obtain ⟨still, kept⟩ := ih (by rw [nonce, next]; exact behind)
      exact ⟨still, kept.trans next⟩

/-- The service recovers in every run in which no reply to an accepted transaction is lost. After
a lost reply the worker stays behind the node, which accepts no further transaction. -/
theorem web3IdIssuer_lostReply (capacity : Nat) (worker : IssuerWorker) :
    (∀ inputs loop,
      Execution (fun first input second => Turn capacity first input second ∧
        KeepsReply first second) (.start worker worker.nonceCounter) inputs loop →
      Recovers capacity loop) ∧
    (∀ inputs loop,
      Execution (Turn capacity) (.start worker worker.nonceCounter) inputs loop →
      MissedReply loop → loop.state.nonceCounter < loop.next ∧
        ∀ further last, Execution (Turn capacity) loop further last → last.next = loop.next) := by
  constructor
  · intro inputs loop run
    have agrees : Agrees loop :=
      run.invariant (fun _ _ _ before turn => before.turn turn.1 turn.2) (Agrees.start worker)
    exact agrees.recovers
  · intro inputs loop run missed
    have behind : Behind loop :=
      run.invariant (fun _ _ _ before turn => before.turn turn) (Behind.start worker)
    refine ⟨behind.missed missed, fun further last continued => ?_⟩
    exact (behind_forever continued (behind.missed missed)).2

def sampleWorker : IssuerWorker := ⟨⟨4718, 0⟩, ⟨1⟩, 5, 10000⟩

def sampleData : IssueChannelData :=
  ⟨⟨⟨7⟩, true, ⟨1000⟩, none, ⟨"https://issuer.example/metadata", none⟩⟩⟩

/-- Each sample transaction carries the nonce that the sample worker starts with. -/
def sampleCall : RegisterCall :=
  ⟨⟨⟨1⟩, 5, .minutesAfter 1 5, .add 10000, 0⟩, sampleData.credential, []⟩

/-- A status error of the node. -/
def callError (code : Code) : Cis4TransactionError := .rpcError (.callError ⟨code, ""⟩)

/-- The node accepts the sample registration, and the worker learns of it. -/
def sampleAccepted : IssuerLoop where
  state := { sampleWorker with nonceCounter := 6 }
  running := true
  next := 6
  exchanges := [⟨sampleData, sampleCall, .ok ⟨9⟩, 5, true⟩]
  answers := [(sampleData, .ok ⟨9⟩)]

/-- The node accepts the sample registration, and the reply is lost. -/
def sampleLost : IssuerLoop where
  state := sampleWorker
  running := true
  next := 6
  exchanges := [⟨sampleData, sampleCall, .error (callError .unavailable), 5, true⟩]
  answers := [(sampleData, .error (.couldNotSubmit (callError .unavailable)))]

/-- After the lost reply the node refuses the nonce of the next registration. -/
def sampleRefused (before : IssuerLoop) : IssuerLoop where
  state := sampleWorker
  running := true
  next := 6
  exchanges := ⟨sampleData, sampleCall, .error (callError .invalidArgument), 6, false⟩ ::
    before.exchanges
  answers := (sampleData, .error (.couldNotSubmit (callError .invalidArgument))) :: before.answers

theorem sampleLost_turn :
    Turn 100 (.start sampleWorker 5) (1, sampleData) sampleLost := by
  have replies : Node.Answers 5 sampleCall (.error (callError .unavailable)) 6 := .lost rfl rfl
  exact .exchange rfl rfl replies rfl

/-- The worker repeats the refused nonce with every further request. -/
theorem sampleRefused_turn {before : IssuerLoop} (state : before.state = sampleWorker)
    (running : before.running = true) (next : before.next = 6) :
    Turn 100 before (1, sampleData) (sampleRefused before) := by
  have replies : Node.Answers 6 sampleCall (.error (callError .invalidArgument)) 6 :=
    .stale (by decide) (.inl rfl)
  obtain ⟨_, _, _, exchanges, answers⟩ := before
  cases state
  cases running
  cases next
  exact .exchange rfl rfl replies rfl

/-- The sample runs meet both parts of the result. -/
theorem web3IdIssuer_lostReply_sample :
    Recovers 100 sampleAccepted ∧ sampleLost.state.nonceCounter < sampleLost.next := by
  have replies : Node.Answers 5 sampleCall (.ok ⟨9⟩) 6 := .accepted ⟨9⟩ rfl
  have accepted : Turn 100 (.start sampleWorker 5) (1, sampleData) sampleAccepted :=
    .exchange rfl rfl replies rfl
  have keeps : KeepsReply (.start sampleWorker 5) sampleAccepted := by
    intro exchange same landed
    cases same
    rfl
  exact ⟨(web3IdIssuer_lostReply 100 sampleWorker).1 _ _ (.single ⟨accepted, keeps⟩),
    ((web3IdIssuer_lostReply 100 sampleWorker).2 _ _ (.single sampleLost_turn)
      ⟨_, List.mem_singleton.mpr rfl, rfl, rfl⟩).1⟩

/-- One lost reply makes the service go on with a refused nonce. -/
theorem web3IdIssuer_keepsRefusedNonce :
    ¬ ∀ capacity worker inputs loop,
      Execution (Turn capacity) (.start worker worker.nonceCounter) inputs loop →
      Recovers capacity loop := by
  intro recovers
  have refused : Turn 100 sampleLost (1, sampleData) (sampleRefused sampleLost) :=
    sampleRefused_turn rfl rfl rfl
  have goesOn : Turn 100 (sampleRefused sampleLost) (1, sampleData)
      (sampleRefused (sampleRefused sampleLost)) := sampleRefused_turn rfl rfl rfl
  have restored := (recovers 100 sampleWorker _ _
    ((Execution.single sampleLost_turn).append (.single refused))).restored
      ⟨_, _, rfl, rfl, rfl, by decide⟩ ⟨_, _, goesOn⟩
  exact absurd restored (by decide)

end Web3Id.Web3IdIssuer
