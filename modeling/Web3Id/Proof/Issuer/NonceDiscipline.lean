import Web3Id.Construction.Issuer.Node
import Web3Id.Proof.Issuer.SomeIssuerTurn

namespace Web3Id

open Library Library.Worker

/-- A system uses consecutive nonces when the accepted transactions carry the nonces from the
initial one on, in the order of the channel and at most once for each request. -/
structure ConsecutiveNonces {State Job Answer : Type} (start : Nat) (nonce : State → Nat)
    (system : System State Job RegisterCall RegisterReply Answer) : Prop where
  numbered : (system.accepted RegisterReply.isOk).map (fun sent => sent.call.metadata.nonce) =
    List.range' start (system.accepted RegisterReply.isOk).length
  tracked : nonce system.state = start + (system.accepted RegisterReply.isOk).length
  single : ((system.accepted RegisterReply.isOk).map Sent.client).Nodup
  ordered : ((system.accepted RegisterReply.isOk).map Sent.client).Sublist system.enqueued

/-- The order of the channel gives consecutive nonces. -/
theorem ConsecutiveNonces.of_ordered {State Job Answer : Type} {start : Nat} {nonce : State → Nat}
    {system : System State Job RegisterCall RegisterReply Answer}
    (ordered : Ordered nonce (fun call : RegisterCall => call.metadata.nonce) RegisterReply.isOk
      start system) : ConsecutiveNonces start nonce system where
  numbered := ordered.numbered
  tracked := ordered.counted
  single := ordered.distinct.sublist ordered.accepted_sublist
  ordered := ordered.accepted_sublist

/-- Each turn of the Telegram and Discord worker advances the nonce exactly when a transaction
was accepted. -/
theorem SomeIssuer.txSender_disciplined (sdk : SomeIssuer.Sdk) (self : SomeIssuer.IssuerWorker)
    (reading : SomeIssuer.Reading) (data : SomeIssuer.IssueChannelData) :
    Disciplined (fun worker : SomeIssuer.IssuerWorker => worker.state.nonce)
      (fun call : RegisterCall => call.metadata.nonce) RegisterReply.isOk self
      (self.txSender sdk reading data) := by
  have turn := SomeIssuer.txSender_turn sdk self reading data
  generalize self.txSender sdk reading data = program at turn
  cases turn with
  | invalid fails => exact .silent rfl
  | limited valid full => exact .silent rfl
  | submitted valid room =>
      refine .submits rfl fun reply => ⟨_, _, _, rfl, ?_⟩
      change ((self.resume sdk reading data reply).1).state.nonce = _
      rw [SomeIssuer.resume_worker]
      cases reply <;> rfl

/-- Each turn of the generic worker advances the nonce exactly when a transaction was accepted. -/
theorem Web3IdIssuer.txSender_disciplined (self : Web3IdIssuer.IssuerWorker) (seconds : UInt64)
    (data : Web3IdIssuer.IssueChannelData) :
    Disciplined Web3IdIssuer.IssuerWorker.nonceCounter
      (fun call : RegisterCall => call.metadata.nonce) RegisterReply.isOk self
      (self.txSender seconds data) := by
  refine .submits rfl fun reply => ?_
  cases reply with
  | ok txHash => exact ⟨_, _, _, rfl, rfl⟩
  | error error => exact ⟨_, _, _, rfl, rfl⟩

/-- The node accepts only the next nonce, and an accepting reply always follows an acceptance. -/
theorem Node.answers_sequenced :
    Sequenced (fun call : RegisterCall => call.metadata.nonce) RegisterReply.isOk Node.Answers where
  moves := by
    intro next call reply number answers
    cases answers with
    | accepted txHash current => exact .inr ⟨current, rfl⟩
    | lost current other => exact .inr ⟨current, rfl⟩
    | refused error current => exact .inl rfl
    | stale different reported => exact .inl rfl
  accepts := by
    intro next call reply number answers ok
    cases answers with
    | accepted txHash current => rfl
    | lost current other => cases ok
    | refused error current => cases ok
    | stale different reported => cases ok

/-- Both workers use consecutive nonces under every interleaving of clients, cancellations, and
node replies. -/
theorem issuerWorkers_consecutiveNonces :
    (∀ (sdk : SomeIssuer.Sdk) (capacity : Nat) (worker : SomeIssuer.IssuerWorker)
      (events : List (Event SomeIssuer.Reading SomeIssuer.IssueChannelData RegisterReply)),
      ConsecutiveNonces worker.state.nonce (fun worker => worker.state.nonce)
        (System.run (SomeIssuer.channelWorker sdk capacity) (.initial worker) events)) ∧
    (∀ (capacity : Nat) (worker : Web3IdIssuer.IssuerWorker)
      (events : List (Event UInt64 Web3IdIssuer.IssueChannelData RegisterReply)),
      ConsecutiveNonces worker.nonceCounter Web3IdIssuer.IssuerWorker.nonceCounter
        (System.run (Web3IdIssuer.channelWorker capacity) (.initial worker) events)) := by
  constructor
  · intro sdk capacity worker events
    apply ConsecutiveNonces.of_ordered
    apply Ordered.run
    · exact SomeIssuer.txSender_disciplined sdk
    · exact Ordered.initial rfl
  · intro capacity worker events
    apply ConsecutiveNonces.of_ordered
    apply Ordered.run
    · exact Web3IdIssuer.txSender_disciplined
    · exact Ordered.initial rfl

end Web3Id
