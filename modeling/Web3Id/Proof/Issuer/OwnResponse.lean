import Web3Id.Construction.Issuer.Node
import Web3Id.Library.JobTrace
import Web3Id.Proof.Issuer.SomeIssuerLoop

namespace Web3Id.SomeIssuer

open Library Library.Worker

/-- The worker changes its nonce and its limiter only. -/
def IssuerWorker.SameIssuer (worker other : IssuerWorker) : Prop :=
  other = { worker with state := other.state }

/-- The transaction of a request registers the credential of this request. -/
structure IssuerWorker.Submits (worker : IssuerWorker) (data : IssueChannelData)
    (call : RegisterCall) : Prop where
  credential : call.credential = data.credential
  sender : call.metadata.senderAddress = worker.issuer
  energy : call.metadata.energy = .add worker.maxRegisterEnergy

/-- The issuer made the credential for the holder and the account of one request. -/
structure Web3IdCredential.MadeFor (credential : Web3IdCredential) (worker : IssuerWorker)
    (data : IssueChannelData) : Prop where
  holder : credential.holderId = data.credential.holderId
  values : credential.values = attributes data.userId data.username
  registry : credential.registry = worker.contract
  network : credential.network = worker.network
  issuerKey : credential.issuerKey = worker.issuerPublicKey
  schema : credential.credentialSchema = worker.credentialSchemaUrl
  endless : credential.validUntil = none

/-- A request is answered from the reply to its own transaction. -/
inductive OwnAnswer (worker : IssuerWorker) (data : IssueChannelData) :
    List (RegisterCall × RegisterReply) → Except StatusCode IssueResponse → Prop
  | refused {code : StatusCode} (cause : code = .badRequest ∨ code = .tooManyRequests) :
      OwnAnswer worker data [] (.error code)
  | issued {call : RegisterCall} {txHash : TransactionHash} {credential : Web3IdCredential}
      (submits : worker.Submits data call) (made : credential.MadeFor worker data) :
      OwnAnswer worker data [(call, .ok txHash)] (.ok ⟨txHash, credential⟩)
  | unmade {call : RegisterCall} {txHash : TransactionHash} (submits : worker.Submits data call) :
      OwnAnswer worker data [(call, .ok txHash)] (.error .internalServerError)
  | failed {call : RegisterCall} {error : Cis4TransactionError}
      (submits : worker.Submits data call) :
      OwnAnswer worker data [(call, .error error)] (.error (rejection (.chain error)).1)

theorem IssuerWorker.SameIssuer.refl (worker : IssuerWorker) : worker.SameIssuer worker := rfl

/-- Only the nonce and the limiter depend on the earlier requests. -/
theorem IssuerWorker.SameIssuer.eq {worker other : IssuerWorker} (same : worker.SameIssuer other) :
    ∃ state, other = { worker with state := state } := ⟨_, same⟩

/-- The secrets are made with the key and the registry of the issuer. -/
theorem IssuerWorker.makeSecrets_madeFor {sdk : Sdk} {worker : IssuerWorker} {state : SyncState}
    {randomness : String → Bytes} {data : IssueChannelData} {credential : Web3IdCredential}
    (made : ({ worker with state := state } : IssuerWorker).makeSecrets sdk randomness
      (attributes data.userId data.username) data.credential = .ok credential) :
    credential.MadeFor worker data := by
  simp only [IssuerWorker.makeSecrets] at made
  split at made
  · cases made
  · split at made
    · cases made
    · cases made
      exact ⟨rfl, rfl, rfl, rfl, rfl, rfl, rfl⟩

/-- The reply to the transaction of a request decides its answer. -/
theorem IssuerWorker.resume_ownAnswer (sdk : Sdk) {worker : IssuerWorker} (state : SyncState)
    (reading : Reading) {data : IssueChannelData} {call : RegisterCall}
    (submits : worker.Submits data call) (reply : RegisterReply) :
    OwnAnswer worker data [(call, reply)]
      (({ worker with state := state } : IssuerWorker).resume sdk reading data reply).2.1 := by
  cases reply with
  | error error => exact .failed submits
  | ok txHash =>
      simp only [IssuerWorker.resume, IssuerWorker.respond, IssuerWorker.registered]
      split
      · rename_i credential made
        exact .issued submits (makeSecrets_madeFor made)
      · exact .unmade submits

/-- An iteration sends at most one transaction, which belongs to its job. -/
theorem txSender_leaves {sdk : Sdk} {worker other : IssuerWorker} (same : worker.SameIssuer other)
    {reading : Reading} {data : IssueChannelData} {trace : List (RegisterCall × RegisterReply)}
    {rest : Program RegisterCall (fun _ => RegisterReply)
      (IssuerWorker × Except StatusCode IssueResponse × Bool)}
    (leaves : Program.Leaves (other.txSender sdk reading data) trace rest) :
    trace.length ≤ 1 ∧ (∀ exchange ∈ trace, worker.Submits data exchange.1) ∧
      ∀ after answer continues, rest = .pure (after, answer, continues) →
        worker.SameIssuer after ∧ OwnAnswer worker data trace answer := by
  obtain ⟨state, rfl⟩ := same.eq
  have turn := txSender_turn sdk { worker with state := state } reading data
  generalize ({ worker with state := state } : IssuerWorker).txSender sdk reading data = program
    at leaves turn
  have refused : ∀ {code : StatusCode}, code = .badRequest ∨ code = .tooManyRequests →
      Program.Leaves (.pure ({ worker with state := state }, .error code, true)) trace rest →
      trace.length ≤ 1 ∧ (∀ exchange ∈ trace, worker.Submits data exchange.1) ∧
        ∀ after answer continues, rest = .pure (after, answer, continues) →
          worker.SameIssuer after ∧ OwnAnswer worker data trace answer := by
    intro code cause leaves
    obtain ⟨rfl, rfl⟩ := leaves.of_pure
    refine ⟨Nat.zero_le _, by simp, ?_⟩
    rintro _ _ _ ⟨⟩
    exact ⟨rfl, .refused cause⟩
  cases turn with
  | invalid fails => exact refused (.inl rfl) leaves
  | limited valid full => exact refused (.inr rfl) leaves
  | submitted valid room =>
      rcases leaves.of_call with ⟨rfl, rfl⟩ | ⟨reply, later, rfl, ends⟩
      · exact ⟨Nat.zero_le _, by simp, by simp⟩
      · obtain ⟨rfl, rfl⟩ := ends.of_pure
        have submits : worker.Submits data
            ⟨({ worker with state := state } : IssuerWorker).metadata reading.seconds,
              data.credential, []⟩ := ⟨rfl, rfl, rfl⟩
        refine ⟨Nat.le_refl 1, by simpa using submits, ?_⟩
        intro after answer continues same
        have resumed := Program.pure.inj same
        refine ⟨?_, ?_⟩
        · have kept := resume_worker sdk { worker with state := state } reading data reply
          rw [resumed] at kept
          change after = _ at kept
          rw [kept]
          split <;> rfl
        · have own := IssuerWorker.resume_ownAnswer sdk state reading submits reply
          rwa [resumed] at own

theorem channelWorker_keeps (sdk : Sdk) (capacity : Nat) (worker : IssuerWorker) :
    (channelWorker sdk capacity).Keeps worker.SameIssuer := by
  intro state clock job trace after answer continues same leaves
  exact ((txSender_leaves same leaves).2.2 _ _ _ rfl).1

/-- A credential that a client gets is made for its job, which the issuer has registered in the only
transaction of this client. -/
theorem issued_of_traced {sdk : Sdk} {capacity : Nat} {worker : IssuerWorker}
    {admitted : Nat → IssueChannelData → Prop} {reads : Nat → Reading → Prop}
    {system : System IssuerWorker IssueChannelData RegisterCall RegisterReply
      (Except StatusCode IssueResponse)}
    (traced : Traced (channelWorker sdk capacity) worker.SameIssuer admitted reads system)
    {client : Nat} {response : IssueResponse}
    (got : Client.answer (system.clients client) = some (.ok response)) :
    ∃ data call, admitted client data ∧ response.credential.MadeFor worker data ∧
      worker.Submits data call ∧ system.callsOf client = [(call, .ok response.txHash)] := by
  obtain ⟨-, after, continues, data, state, clock, own, -, same, leaves⟩ :=
    traced.answered client _ got
  obtain ⟨-, answers⟩ := (txSender_leaves same leaves).2.2 _ _ _ rfl
  generalize trace : system.callsOf client = calls at answers
  cases answers with
  | issued submits made => exact ⟨data, _, own, made, submits, rfl⟩

/-- A client gets its own transaction, and an answer from the reply to it. -/
structure Isolated (worker : IssuerWorker) (data : Option IssueChannelData)
    (calls : List (RegisterCall × RegisterReply))
    (answer : Option (Except StatusCode IssueResponse)) : Prop where
  single : calls.length ≤ 1
  transactions : ∀ exchange ∈ calls, ∃ own ∈ data, worker.Submits own exchange.1
  answered : ∀ got ∈ answer, ∃ own ∈ data, OwnAnswer worker own calls got

/-- In every interleaving of clients, cancellations, and node replies, each request to the Telegram
or Discord issuer has at most one transaction, which registers the credential of this request, and
its answer comes from the reply to this transaction and carries the account of this request. -/
theorem someIssuer_ownResponse (sdk : Sdk) (capacity : Nat) (worker : IssuerWorker)
    (events : List (Event Reading IssueChannelData RegisterReply)) (client : Nat) :
    let system := System.run (channelWorker sdk capacity) (.initial worker) events
    Isolated worker (connected events client) (system.callsOf client)
      (Client.answer (system.clients client)) := by
  intro system
  have traced := Traced.connected (channelWorker_keeps sdk capacity worker)
    (IssuerWorker.SameIssuer.refl worker) events
  by_cases taken : client ∈ system.dequeued
  · obtain ⟨rest, data, state, clock, own, -, same, leaves⟩ := traced.served client taken
    obtain ⟨single, submits, -⟩ := txSender_leaves same leaves
    refine ⟨single, fun exchange member => ⟨data, own, submits exchange member⟩, ?_⟩
    intro got answered
    obtain ⟨-, after, continues, data, state, clock, own, -, same, leaves⟩ :=
      traced.answered client got answered
    exact ⟨data, own, ((txSender_leaves same leaves).2.2 _ _ _ rfl).2⟩
  · have none : system.callsOf client = [] := traced.callsOf_untaken taken
    rw [none]
    refine ⟨Nat.zero_le _, by simp, ?_⟩
    intro got answered
    exact absurd (traced.answered client got answered).1 taken

end Web3Id.SomeIssuer
