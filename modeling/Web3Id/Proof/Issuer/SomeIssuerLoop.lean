import Web3Id.Construction.Issuer.Node
import Web3Id.Proof.Issuer.NonceDiscipline
import Web3Id.Proof.Issuer.RateLimiterWindow

namespace Web3Id.SomeIssuer

open Library Library.Worker

/-- The loop of the Telegram and Discord issuers. -/
abbrev IssuerLoop :=
  Loop IssuerWorker IssueChannelData RegisterCall RegisterReply (Except StatusCode IssueResponse)

/-- The users of the registrations that the worker saw succeed, with the newest first. -/
def registeredUsers (loop : IssuerLoop) : List String :=
  (loop.exchanges.filter fun exchange => exchange.reply.isOk).map fun exchange =>
    exchange.job.userId

/-- The users of the registrations that the node accepted, with the newest first. -/
def acceptedUsers (loop : IssuerLoop) : List String :=
  (loop.exchanges.filter fun exchange => exchange.landed).map fun exchange => exchange.job.userId

section Users

variable {first second : IssuerLoop}
  {exchange : Exchange IssueChannelData RegisterCall RegisterReply}

/-- One more exchange counts its user when it passes the test. -/
theorem users_cons (test : Exchange IssueChannelData RegisterCall RegisterReply → Bool)
    (exchanges : second.exchanges = exchange :: first.exchanges) :
    ((second.exchanges.filter test).map fun one => one.job.userId) =
      (if test exchange then [exchange.job.userId] else []) ++
        (first.exchanges.filter test).map fun one => one.job.userId := by
  rw [exchanges, List.filter_cons]
  split <;> rfl

theorem registeredUsers_cons (exchanges : second.exchanges = exchange :: first.exchanges) :
    registeredUsers second =
      (if exchange.reply.isOk then [exchange.job.userId] else []) ++ registeredUsers first :=
  users_cons _ exchanges

theorem acceptedUsers_cons (exchanges : second.exchanges = exchange :: first.exchanges) :
    acceptedUsers second =
      (if exchange.landed then [exchange.job.userId] else []) ++ acceptedUsers first :=
  users_cons _ exchanges

end Users

/-- A turn of the loop either refuses the request without a transaction, or sends one transaction
and follows its reply. -/
inductive LoopOutcome (sdk : Sdk) (first second : IssuerLoop) (reading : Reading)
    (data : IssueChannelData) : Prop
  | invalid {error : String}
      (fails : first.state.validateCredential reading.now data.credential = .error error)
      (state : second.state = first.state) (exchanges : second.exchanges = first.exchanges)
      (answers : second.answers = (data, .error .badRequest) :: first.answers)
  | limited (valid : first.state.validateCredential reading.now data.credential = .ok ())
      (full : first.state.state.limit.checkLimit data.userId = false)
      (state : second.state = first.state) (exchanges : second.exchanges = first.exchanges)
      (answers : second.answers = (data, .error .tooManyRequests) :: first.answers)
  | accepted {exchange : Exchange IssueChannelData RegisterCall RegisterReply}
      {txHash : TransactionHash}
      (valid : first.state.validateCredential reading.now data.credential = .ok ())
      (room : first.state.state.limit.checkLimit data.userId = true)
      (exchanges : second.exchanges = exchange :: first.exchanges) (same : exchange.job = data)
      (reply : exchange.reply = .ok txHash)
      (state : second.state = first.state.registered data.userId)
      (answers : second.answers =
        (data, ((first.state.registered data.userId).respond sdk reading data txHash).2.1) ::
          first.answers)
  | failed {exchange : Exchange IssueChannelData RegisterCall RegisterReply}
      {error : Cis4TransactionError}
      (valid : first.state.validateCredential reading.now data.credential = .ok ())
      (room : first.state.state.limit.checkLimit data.userId = true)
      (exchanges : second.exchanges = exchange :: first.exchanges) (same : exchange.job = data)
      (reply : exchange.reply = .error error) (state : second.state = first.state)
      (answers : second.answers = (data, .error (rejection (.chain error)).1) :: first.answers)
      (running : second.running = (rejection (.chain error)).2)

/-- Every turn of the loop has one of the four outcomes. -/
theorem turn_outcome {sdk : Sdk} {capacity : Nat}
    {peer : Nat → RegisterCall → RegisterReply → Nat → Prop} {first second : IssuerLoop}
    {input : Reading × IssueChannelData}
    (turn : Loop.Turn (channelWorker sdk capacity) peer first input second) :
    LoopOutcome sdk first second input.1 input.2 := by
  cases turn with
  | @silent reading data _ _ _ running ends =>
      have form := txSender_turn sdk first.state reading data
      change first.state.txSender sdk reading data = _ at ends
      rw [ends] at form
      cases form with
      | invalid fails => exact .invalid fails rfl rfl rfl
      | limited valid full => exact .limited valid full rfl rfl rfl
  | @exchange reading data _ _ reply number _ _ _ running calls replies ends =>
      have form := txSender_turn sdk first.state reading data
      change first.state.txSender sdk reading data = _ at calls
      rw [calls] at form
      cases form with
      | submitted valid room =>
          cases reply with
          | ok txHash =>
              have resumed : (first.state.registered data.userId).respond sdk reading data txHash =
                  _ := Program.pure.inj ends
              refine .accepted valid room rfl rfl rfl ?_ ?_
              · have worker := respond_worker sdk (first.state.registered data.userId) reading data
                  txHash
                rw [resumed] at worker
                exact worker
              · rw [resumed]
          | error error =>
              have resumed := Program.pure.inj ends
              simp only [IssuerWorker.resume, Prod.mk.injEq] at resumed
              obtain ⟨state, answer, continues⟩ := resumed
              exact .failed valid room rfl rfl rfl state.symm (by rw [← answer]) continues.symm

/-- A request is answered with a credential only after the node accepted its registration. -/
theorem LoopOutcome.answer {sdk : Sdk} {first second : IssuerLoop} {reading : Reading}
    {data : IssueChannelData} (outcome : LoopOutcome sdk first second reading data) :
    ∃ answer, second.answers = (data, answer) :: first.answers ∧
      (registeredUsers second = registeredUsers first → answer.isOk = false) := by
  cases outcome with
  | invalid fails state exchanges answers => exact ⟨_, answers, fun _ => rfl⟩
  | limited valid full state exchanges answers => exact ⟨_, answers, fun _ => rfl⟩
  | accepted valid room exchanges same reply state answers =>
      refine ⟨_, answers, fun equal => ?_⟩
      rw [registeredUsers_cons exchanges, reply] at equal
      simp [RegisterReply.isOk] at equal
  | failed valid room exchanges same reply state answers running => exact ⟨_, answers, fun _ => rfl⟩

/-- The rate limiter counts exactly the registrations that the worker saw succeed. -/
theorem LoopOutcome.limit {sdk : Sdk} {first second : IssuerLoop} {reading : Reading}
    {data : IssueChannelData} (outcome : LoopOutcome sdk first second reading data) :
    registeredUsers second = registeredUsers first ∧ second.state = first.state ∨
      registeredUsers second = data.userId :: registeredUsers first ∧
        second.state = first.state.registered data.userId ∧
        first.state.state.limit.checkLimit data.userId = true := by
  cases outcome with
  | invalid fails state exchanges answers => exact .inl ⟨by rw [registeredUsers, exchanges]; rfl, state⟩
  | limited valid full state exchanges answers =>
      exact .inl ⟨by rw [registeredUsers, exchanges]; rfl, state⟩
  | accepted valid room exchanges same reply state answers =>
      refine .inr ⟨?_, state, room⟩
      rw [registeredUsers_cons exchanges, reply, same]
      rfl
  | failed valid room exchanges same reply state answers running =>
      refine .inl ⟨?_, state⟩
      rw [registeredUsers_cons exchanges, reply]
      rfl

/-- A valid request below the limit exchanges one call with the node. -/
theorem turn_submits {sdk : Sdk} {capacity : Nat}
    {peer : Nat → RegisterCall → RegisterReply → Nat → Prop} (loop : IssuerLoop)
    (reading : Reading) (data : IssueChannelData) (reply : RegisterReply) (number : Nat)
    (running : loop.running = true)
    (valid : loop.state.validateCredential reading.now data.credential = .ok ())
    (room : loop.state.state.limit.checkLimit data.userId = true)
    (replies : peer loop.next ⟨loop.state.metadata reading.seconds, data.credential, []⟩ reply
      number) :
    Loop.Turn (channelWorker sdk capacity) peer loop (reading, data)
      { state := (loop.state.resume sdk reading data reply).1
        running := (loop.state.resume sdk reading data reply).2.2
        next := number
        exchanges := ⟨data, ⟨loop.state.metadata reading.seconds, data.credential, []⟩, reply,
          loop.next, decide (number ≠ loop.next)⟩ :: loop.exchanges
        answers := (data, (loop.state.resume sdk reading data reply).2.1) :: loop.answers } :=
  .exchange running (txSender_submits valid room) replies rfl

/-- This SDK signs matching commitments and knows every timestamp. -/
def sampleSdk : Sdk where
  fromSecrets _ values randomness _ _ _ :=
    if values.map Prod.fst = randomness.map Prod.fst then some [1] else none
  timestampMillisOpt millis := some ⟨millis.toInt * 1000000⟩

def sampleWorker : IssuerWorker where
  cryptoParams := []
  contract := ⟨4718, 0⟩
  network := .testnet
  issuer := ⟨1⟩
  issuerKey := []
  issuerPublicKey := 2
  credentialType := "SomeCredential"
  state := .new 5 0 1
  maxRegisterEnergy := 10000
  metadataUrl := "https://issuer.example/metadata"
  credentialSchemaUrl := "https://issuer.example/schema"

def sampleReading : Reading := ⟨1000, 1, fun _ => [3]⟩

def sampleData : IssueChannelData where
  credential := ⟨⟨7⟩, true, ⟨1000⟩, none, ⟨"https://issuer.example/metadata", none⟩⟩
  userId := "42"
  username := "user"

/-- The node accepts the sample registration and reports this to the worker. -/
def sampleAccepted : IssuerLoop where
  state := sampleWorker.registered "42"
  running := true
  next := 6
  exchanges := [⟨sampleData, ⟨sampleWorker.metadata 1, sampleData.credential, []⟩, .ok ⟨9⟩, 5, true⟩]
  answers := [(sampleData, (sampleWorker.resume sampleSdk sampleReading sampleData (.ok ⟨9⟩)).2.1)]

theorem sampleAccepted_turn : Loop.Turn (channelWorker sampleSdk 100) Node.Answers
    (.start sampleWorker 5) (sampleReading, sampleData) sampleAccepted :=
  turn_submits (.start sampleWorker 5) sampleReading sampleData (.ok ⟨9⟩) 6 rfl rfl (by decide)
    (.accepted ⟨9⟩ rfl)

end Web3Id.SomeIssuer
