import Web3Id.Construction.Issuer.SomeIssuer

namespace Web3Id.SomeIssuer

open Library

/-- The reply to the registration decides the rest of the turn. -/
def IssuerWorker.resume (sdk : Sdk) (self : IssuerWorker) (reading : Reading)
    (data : IssueChannelData) :
    RegisterReply → IssuerWorker × Except StatusCode IssueResponse × Bool
  | .ok txHash => (self.registered data.userId).respond sdk reading data txHash
  | .error error =>
      (self, .error (rejection (.chain error)).1, (rejection (.chain error)).2)

/-- A turn refuses the request at once, or sends one transaction and waits for its reply. -/
inductive Turn (sdk : Sdk) (worker : IssuerWorker) (reading : Reading) (data : IssueChannelData) :
    Program RegisterCall (fun _ => RegisterReply)
      (IssuerWorker × Except StatusCode IssueResponse × Bool) → Prop
  | invalid {error : String}
      (fails : worker.validateCredential reading.now data.credential = .error error) :
      Turn sdk worker reading data (.pure (worker, .error .badRequest, true))
  | limited (valid : worker.validateCredential reading.now data.credential = .ok ())
      (full : worker.state.limit.checkLimit data.userId = false) :
      Turn sdk worker reading data (.pure (worker, .error .tooManyRequests, true))
  | submitted (valid : worker.validateCredential reading.now data.credential = .ok ())
      (room : worker.state.limit.checkLimit data.userId = true) :
      Turn sdk worker reading data
        (.call ⟨worker.metadata reading.seconds, data.credential, []⟩ fun reply =>
          .pure (worker.resume sdk reading data reply))

/-- A valid request below the limit sends one transaction. -/
theorem txSender_submits {sdk : Sdk} {self : IssuerWorker} {reading : Reading}
    {data : IssueChannelData}
    (valid : self.validateCredential reading.now data.credential = .ok ())
    (room : self.state.limit.checkLimit data.userId = true) :
    self.txSender sdk reading data =
      .call ⟨self.metadata reading.seconds, data.credential, []⟩ fun reply =>
        .pure (self.resume sdk reading data reply) := by
  simp only [IssuerWorker.txSender, valid, IssuerWorker.registerCredential, room, Bool.not_true,
    Bool.false_eq_true, if_false, Program.call_bind]
  congr 1
  funext reply
  cases reply <;> rfl

/-- Every turn of the loop has one of the three forms. -/
theorem txSender_turn (sdk : Sdk) (self : IssuerWorker) (reading : Reading)
    (data : IssueChannelData) : Turn sdk self reading data (self.txSender sdk reading data) := by
  cases valid : self.validateCredential reading.now data.credential with
  | error error =>
      simp only [IssuerWorker.txSender, valid]
      exact .invalid valid
  | ok =>
      cases room : self.state.limit.checkLimit data.userId with
      | true =>
          rw [txSender_submits valid room]
          exact .submitted valid room
      | false =>
          simp only [IssuerWorker.txSender, valid, IssuerWorker.registerCredential, room,
            Bool.not_false, if_true, Program.pure_bind]
          exact .limited valid room

/-- The answer to a registration leaves the worker as the registration left it. -/
@[simp] theorem respond_worker (sdk : Sdk) (self : IssuerWorker) (reading : Reading)
    (data : IssueChannelData) (txHash : TransactionHash) :
    (self.respond sdk reading data txHash).1 = self := by
  unfold IssuerWorker.respond
  split <;> rfl

/-- An accepted reply registers the user, and a refused one keeps the worker. -/
theorem resume_worker (sdk : Sdk) (self : IssuerWorker) (reading : Reading)
    (data : IssueChannelData) (reply : RegisterReply) :
    (self.resume sdk reading data reply).1 =
      if reply.isOk then self.registered data.userId else self := by
  cases reply with
  | ok txHash => exact respond_worker sdk _ reading data txHash
  | error error => rfl

/-- An invalid argument ends the loop. -/
theorem rejection_invalidArgument {error : Cis4TransactionError}
    (invalid : error.isInvalidArgument = true) : (rejection (.chain error)).2 = false := by
  match error with
  | .rpcError (.callError status) =>
      have code : status.code = .invalidArgument := by
        simpa [Cis4TransactionError.isInvalidArgument] using invalid
      simp [rejection, code]

end Web3Id.SomeIssuer
