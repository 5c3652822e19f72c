import Web3Id.Library.JobTrace
import Web3Id.Proof.Issuer.AnsweredRequests
import Web3Id.Proof.Issuer.IssuedDates

namespace Web3Id.Web3IdIssuer

open Library Library.Worker

/-- The worker changes its nonce only. -/
def IssuerWorker.SameIssuer (worker other : IssuerWorker) : Prop :=
  other = { worker with nonceCounter := other.nonceCounter }

/-- The transaction of a request registers what the request asks for. -/
structure Registration (state : State) (worker : IssuerWorker) (request : IssueRequest)
    (call : RegisterCall) : Prop where
  credential : credentialInfo state request = .ok call.credential
  sender : call.metadata.senderAddress = worker.issuer
  energy : call.metadata.energy = .add worker.maxRegisterEnergy

/-- The credential is made for one request, and agrees with its registration. -/
structure MadeFor (state : State) (request : IssueRequest) (info : CredentialInfo)
    (credential : SomeIssuer.Web3IdCredential) : Prop where
  registers : Registers request info
  holder : credential.holderId = info.holderId
  values : credential.values = request.credentialSubject.attributes
  start : credential.validFrom = request.validFrom
  expiry : credential.validUntil = request.validUntil
  registry : credential.registry = state.contract
  network : credential.network = state.network
  issuerKey : credential.issuerKey = state.issuerPublicKey

/-- The SDK refuses the attributes of a request together with randomness for each of them. -/
def Unsigned (sdk : Sdk) (state : State) (request : IssueRequest) (holderId : CredentialHolderId) :
    Prop :=
  ∃ randomness, randomness.map Prod.fst = request.credentialSubject.attributes.map Prod.fst ∧
    sdk.fromSecrets state.cryptoParams request.credentialSubject.attributes randomness holderId
      state.issuerKey state.contract = none

/-- A request is answered from the reply to its own transaction. -/
inductive OwnResponse (sdk : Sdk) (state : State) (worker : IssuerWorker) :
    Except String IssueRequest → List (RegisterCall × RegisterReply) →
      Except IssueError IssueResponse → Prop
  | unread (rejection : String) :
      OwnResponse sdk state worker (.error rejection) [] (.error (.invalidRequest rejection))
  | refused {request : IssueRequest} {error : IssueError}
      (refuses : credentialInfo state request = .error error) :
      OwnResponse sdk state worker (.ok request) [] (.error error)
  | issued {request : IssueRequest} {call : RegisterCall} {txHash : TransactionHash}
      {credential : SomeIssuer.Web3IdCredential}
      (registration : Registration state worker request call)
      (made : MadeFor state request call.credential credential) :
      OwnResponse sdk state worker (.ok request) [(call, .ok txHash)] (.ok ⟨txHash, credential⟩)
  | unmade {request : IssueRequest} {call : RegisterCall} {txHash : TransactionHash}
      (registration : Registration state worker request call)
      (unsigned : Unsigned sdk state request call.credential.holderId) :
      OwnResponse sdk state worker (.ok request) [(call, .ok txHash)] (.error
        (.internal "Incorrect number of values vs. randomness. This should not happen."))
  | failed {request : IssueRequest} {call : RegisterCall} {error : Cis4TransactionError}
      (registration : Registration state worker request call) :
      OwnResponse sdk state worker (.ok request) [(call, .error error)]
        (.error (.couldNotSubmit error))

/-- The worker is idle or busy. -/
theorem Running.running {system : IssuerSystem} (running : Running system) :
    system.phase.running = true := by
  cases phase : system.phase with
  | stopped => exact absurd phase running.runs
  | idle => rfl
  | busy client program => rfl

theorem IssuerWorker.SameIssuer.refl (worker : IssuerWorker) : worker.SameIssuer worker := rfl

/-- The transaction is for this job. -/
structure IssuerWorker.Submits (worker : IssuerWorker) (data : IssueChannelData)
    (call : RegisterCall) : Prop where
  credential : call.credential = data.credential
  sender : call.metadata.senderAddress = worker.issuer
  energy : call.metadata.energy = .add worker.maxRegisterEnergy

/-- An iteration sends one transaction, which belongs to its job. -/
theorem txSender_leaves {worker other : IssuerWorker} (same : worker.SameIssuer other)
    {seconds : UInt64} {data : IssueChannelData} {trace : List (RegisterCall × RegisterReply)}
    {rest : Program RegisterCall (fun _ => RegisterReply)
      (IssuerWorker × Except Error TransactionHash × Bool)}
    (leaves : Program.Leaves (other.txSender seconds data) trace rest) :
    trace.length ≤ 1 ∧ (∀ exchange ∈ trace, worker.Submits data exchange.1) ∧
      ∀ after answer continues, rest = .pure (after, answer, continues) →
        worker.SameIssuer after ∧
          ∃ call reply, trace = [(call, reply)] ∧ answer = reply.mapError .couldNotSubmit := by
  rw [same] at leaves
  generalize other.nonceCounter = counter at leaves
  rcases leaves.of_call with ⟨rfl, rfl⟩ | ⟨reply, later, rfl, ends⟩
  · exact ⟨Nat.zero_le _, by simp, by simp⟩
  · cases reply with
    | ok txHash =>
        obtain ⟨rfl, rfl⟩ := ends.of_pure
        refine ⟨Nat.le_refl 1, ?_, ?_⟩
        · intro exchange member
          cases List.mem_singleton.mp member
          exact ⟨rfl, rfl, rfl⟩
        · rintro _ _ _ ⟨⟩
          exact ⟨rfl, _, _, rfl, rfl⟩
    | error error =>
        obtain ⟨rfl, rfl⟩ := ends.of_pure
        refine ⟨Nat.le_refl 1, ?_, ?_⟩
        · intro exchange member
          cases List.mem_singleton.mp member
          exact ⟨rfl, rfl, rfl⟩
        · rintro _ _ _ ⟨⟩
          exact ⟨rfl, _, _, rfl, rfl⟩

theorem channelWorker_keeps (capacity : Nat) (worker : IssuerWorker) :
    (channelWorker capacity).Keeps worker.SameIssuer := by
  intro state clock job trace after answer continues same leaves
  exact ((txSender_leaves same leaves).2.2 _ _ _ rfl).1

/-- The job of a client is the one of its request. -/
def Service.Wants (state : State) (service : Service) (client : Nat) (job : IssueChannelData) :
    Prop :=
  ∃ request, service.requests client = some (.ok request) ∧
    credentialInfo state request = .ok job.credential

/-- The worker runs, and serves each client with the job of its request. -/
structure Service.Sound (state : State) (worker : IssuerWorker) (capacity : Nat)
    (service : Service) : Prop where
  traced : Traced (channelWorker capacity) worker.SameIssuer (service.Wants state)
    (fun _ _ => True) service.system
  running : Running service.system
  unfailed : ∀ client, service.system.clients client ≠ some .failed

theorem Service.Sound.start (state : State) (worker : IssuerWorker) (capacity : Nat) :
    (Service.start worker).Sound state worker capacity where
  traced := .initial (.refl worker)
  running := .initial worker
  unfailed := by simp [Service.start, System.initial]

section Steps

variable {sdk : Sdk} {state : State} {randomness : Nat → String → Bytes} {capacity : Nat}
  {worker : IssuerWorker} {service : Service}

/-- A step of the worker and its clients keeps the service sound. -/
theorem Service.Sound.move (sound : service.Sound state worker capacity)
    (event : Event UInt64 IssueChannelData RegisterReply)
    (admits : ∀ client job, event = .connect client job → service.Wants state client job) :
    ({ service with system := service.system.step (channelWorker capacity) event } :
      Service).Sound state worker capacity where
  traced := sound.traced.step (channelWorker_keeps capacity worker) event
    (fun client job connects _ => admits client job connects) fun _ _ _ => trivial
  running := sound.running.step event
  unfailed := System.step_unfailed _ sound.running.running sound.unfailed event

/-- A request that is known keeps the jobs of the others. -/
theorem Service.Sound.known (sound : service.Sound state worker capacity) {client : Nat}
    (new : service.requests client = none) (request : Except String IssueRequest) :
    ({ service with requests := Function.update service.requests client (some request) } :
      Service).Sound state worker capacity where
  traced := sound.traced.mono fun other job wants => by
    obtain ⟨own, requested, info⟩ := wants
    refine ⟨own, ?_, info⟩
    have distinct : other ≠ client := by
      rintro rfl
      rw [new] at requested
      cases requested
    exact (Function.update_of_ne distinct _ _).trans requested
  running := sound.running
  unfailed := sound.unfailed

theorem Service.Sound.step (sound : service.Sound state worker capacity) (event : HttpEvent) :
    (service.step sdk state randomness capacity event).Sound state worker capacity := by
  cases event with
  | request client request =>
      simp only [Service.step]
      split
      · rename_i new
        have known := sound.known new request
        unfold Service.handle
        simp only
        split
        · exact known
        · rename_i job calls
          refine known.move (.connect client job) ?_
          rintro _ _ ⟨⟩
          cases request with
          | error rejection => cases calls
          | ok request =>
              exact ⟨request, Function.update_self _ _ _, issueCredential_firstCall.mp calls⟩
      · exact sound
  | worker event =>
      cases event with
      | connect client job => exact sound
      | _ => exact sound.move _ (by simp)

theorem Service.Sound.run (sound : service.Sound state worker capacity) (events : List HttpEvent) :
    (service.run sdk state randomness capacity events).Sound state worker capacity := by
  induction events generalizing service with
  | nil => exact sound
  | cons event events ih => exact ih (sound.step event)

/-- The secrets are made with the key and the registry of the issuer. -/
theorem makeSecrets_madeFor {randomness : String → Bytes} {request : IssueRequest}
    {info : CredentialInfo} {credential : SomeIssuer.Web3IdCredential}
    (passes : credentialInfo state request = .ok info)
    (made : makeSecrets sdk state randomness info.holderId request = .ok credential) :
    MadeFor state request info credential := by
  unfold makeSecrets at made
  simp only at made
  split at made
  · cases made
  · cases made
    exact ⟨credentialInfo_registers passes, rfl, rfl, rfl, rfl, rfl, rfl, rfl⟩

/-- The only failure of the secrets is the one of the commitments, which the SDK refuses. -/
theorem makeSecrets_error {randomness : String → Bytes} {request : IssueRequest}
    {holderId : CredentialHolderId} {error : IssueError}
    (fails : makeSecrets sdk state randomness holderId request = .error error) :
    error = .internal "Incorrect number of values vs. randomness. This should not happen." ∧
      Unsigned sdk state request holderId := by
  unfold makeSecrets at fails
  simp only at fails
  split at fails
  · rename_i refused
    refine ⟨(Except.error.inj fails).symm, _, ?_, refused⟩
    rw [List.map_map]
    rfl
  · cases fails

/-- The transaction of a job registers the request of this job. -/
theorem IssuerWorker.Submits.registration {request : IssueRequest} {job : IssueChannelData}
    {call : RegisterCall} (submits : worker.Submits job call)
    (passes : credentialInfo state request = .ok job.credential) :
    Registration state worker request call :=
  ⟨by rw [submits.credential, passes], submits.sender, submits.energy⟩

/-- A client whose request has no job is never served. -/
theorem Service.Sound.unserved (sound : service.Sound state worker capacity) {client : Nat}
    (jobless : ∀ job, ¬ service.Wants state client job) : service.system.callsOf client = [] := by
  apply sound.traced.callsOf_untaken
  intro taken
  obtain ⟨_, job, _, _, wants, -⟩ := sound.traced.served client taken
  exact jobless job wants

/-- A request with a job is answered from the reply to its transaction. -/
theorem Service.Sound.served (sound : service.Sound state worker capacity) {client : Nat}
    {request : IssueRequest} {info : CredentialInfo} {answer : Except IssueError IssueResponse}
    (requested : service.requests client = some (.ok request))
    (passes : credentialInfo state request = .ok info)
    (responded : service.response sdk state randomness client = some answer) :
    OwnResponse sdk state worker (.ok request) (service.system.callsOf client) answer := by
  simp only [Service.response, requested, issueCredential, passes] at responded
  cases got : service.system.clients client with
  | none => simp [got, Service.workerReply] at responded
  | some form =>
      cases form with
      | failed => exact absurd got (sound.unfailed client)
      | returned answered =>
          have replied : Client.answer (service.system.clients client) = some answered := by
            rw [got]
            rfl
          obtain ⟨-, after, continues, job, other, _, ⟨own, same, registers⟩, -, kept, leaves⟩ :=
            sound.traced.answered client answered replied
          obtain rfl : request = own := by
            rw [requested] at same
            exact Except.ok.inj (Option.some.inj same)
          obtain rfl : info = job.credential := by
            rw [passes] at registers
            exact Except.ok.inj registers
          obtain ⟨-, submits, ends⟩ := txSender_leaves kept leaves
          obtain ⟨-, call, reply, single, rfl⟩ := ends _ _ _ rfl
          rw [single] at submits ⊢
          have submitted := submits (call, reply) List.mem_cons_self
          have registration := submitted.registration passes
          cases reply with
          | error error =>
              simp only [got, Service.workerReply, Except.mapError, Option.bind_some,
                Option.some.injEq] at responded
              subst responded
              exact .failed registration
          | ok txHash =>
              simp only [got, Service.workerReply, Except.mapError, Option.bind_some,
                Option.some.injEq] at responded
              subst responded
              cases made : makeSecrets sdk state (randomness client) job.credential.holderId
                  request with
              | error error =>
                  obtain ⟨rfl, unsigned⟩ := makeSecrets_error made
                  refine .unmade registration ?_
                  rw [submitted.credential]
                  exact unsigned
              | ok credential =>
                  refine .issued registration ?_
                  rw [submitted.credential]
                  exact makeSecrets_madeFor passes made
      | _ => simp [got, Service.workerReply] at responded

/-- A request is answered by its own checks or from the reply to its transaction. -/
theorem Service.Sound.responded (sound : service.Sound state worker capacity) {client : Nat}
    {request : Except String IssueRequest} {answer : Except IssueError IssueResponse}
    (requested : service.requests client = some request)
    (responded : service.response sdk state randomness client = some answer) :
    OwnResponse sdk state worker request (service.system.callsOf client) answer := by
  cases request with
  | error rejection =>
      have jobless : ∀ job, ¬ service.Wants state client job := by
        rintro job ⟨own, same, -⟩
        rw [requested] at same
        cases same
      simp only [Service.response, requested, issueCredential, Option.some.injEq] at responded
      rw [sound.unserved jobless, ← responded]
      exact .unread rejection
  | ok request =>
      cases passes : credentialInfo state request with
      | ok info => exact sound.served requested passes responded
      | error error =>
          have jobless : ∀ job, ¬ service.Wants state client job := by
            rintro job ⟨own, same, registers⟩
            rw [requested] at same
            cases same
            rw [passes] at registers
            cases registers
          simp only [Service.response, requested, issueCredential, passes,
            Option.some.injEq] at responded
          rw [sound.unserved jobless, ← responded]
          exact .refused passes

end Steps

/-- A request has at most one transaction, which registers what it asks for, and a response from
the reply to this transaction. -/
structure Service.Isolated (sdk : Sdk) (state : State) (randomness : Nat → String → Bytes)
    (worker : IssuerWorker) (service : Service) (client : Nat) : Prop where
  single : (service.system.callsOf client).length ≤ 1
  transactions : ∀ exchange ∈ service.system.callsOf client, ∃ request,
    service.requests client = some (.ok request) ∧
      Registration state worker request exchange.1
  answered : ∀ answer, service.response sdk state randomness client = some answer →
    ∃ request, service.requests client = some request ∧
      OwnResponse sdk state worker request (service.system.callsOf client) answer

/-- In every interleaving of requests, cancellations and node replies, each request to the generic
issuer has at most one transaction, which registers what this request asks for. The response is an
error of this request, an error of the node for its transaction, or a credential that agrees with
its registration, unless the SDK refuses its attributes; and no request is told that the transaction
sender has died. -/
theorem web3IdIssuer_ownCredential (sdk : Sdk) (state : State)
    (randomness : Nat → String → Bytes) (capacity : Nat) (worker : IssuerWorker)
    (events : List HttpEvent) (client : Nat) :
    ((Service.start worker).run sdk state randomness capacity events).Isolated sdk state randomness
      worker client := by
  have sound : ((Service.start worker).run sdk state randomness capacity events).Sound state worker
      capacity := (Service.Sound.start state worker capacity).run events
  generalize (Service.start worker).run sdk state randomness capacity events = service at sound ⊢
  refine ⟨?_, ?_, ?_⟩
  · by_cases taken : client ∈ service.system.dequeued
    · obtain ⟨rest, job, other, clock, -, -, kept, leaves⟩ := sound.traced.served client taken
      exact (txSender_leaves kept leaves).1
    · rw [sound.traced.callsOf_untaken taken]
      exact Nat.zero_le 1
  · intro exchange member
    by_cases taken : client ∈ service.system.dequeued
    · obtain ⟨rest, job, other, clock, ⟨request, requested, passes⟩, -, kept, leaves⟩ :=
        sound.traced.served client taken
      obtain ⟨-, submits, -⟩ := txSender_leaves kept leaves
      exact ⟨request, requested, (submits exchange member).registration passes⟩
    · rw [sound.traced.callsOf_untaken taken] at member
      cases member
  · intro answer responded
    cases requested : service.requests client with
    | none => simp [Service.response, requested] at responded
    | some request =>
        exact ⟨request, rfl, sound.responded requested responded⟩

end Web3Id.Web3IdIssuer
