import Web3Id.Construction.Issuer.SomeIssuer
import Web3Id.Library.Execution

/-
This file is the transaction sender of the Telegram and Discord issuers with the messages that it
sends to the request handlers.
-/

namespace Web3Id.SomeIssuer

open Library

/-- The worker calls the node, and sends messages on the response channel of the request. -/
inductive WorkerCall where
  | register (call : RegisterCall)
  | send (message : Except StatusCode IssueResponse)

/-- A send tells whether the request handler still waits. -/
abbrev WorkerCall.Reply : WorkerCall → Type
  | .register _ => RegisterReply
  | .send _ => Bool

/-- A cancelled request is only logged. -/
def sendAndLog (message : Except StatusCode IssueResponse) :
    Program WorkerCall WorkerCall.Reply Unit :=
  .call (.send message) fun _ => .pure ()

/-- The body of the loop in `tx_sender`, which tells whether the loop goes on. -/
def IssuerWorker.txSenderBody (sdk : Sdk) (self : IssuerWorker) (reading : Reading)
    (data : IssueChannelData) :
    Program WorkerCall WorkerCall.Reply (IssuerWorker × Bool) :=
  match self.validateCredential reading.now data.credential with
  | .error _ => do
      sendAndLog (.error .badRequest)
      return (self, true)
  | .ok () => do
      let (result, self) ←
        (self.registerCredential reading.seconds data.credential data.userId).hoist
          WorkerCall.register fun _ reply => reply
      match result with
      | .ok txHash =>
          match self.makeSecrets sdk reading.randomness (attributes data.userId data.username)
              data.credential with
          | .ok credential =>
              sendAndLog (.ok ⟨txHash, credential⟩)
              return (self, true)
          | .error _ =>
              sendAndLog (.error .internalServerError)
              return (self, false)
      | .error (.limitExceeded _) =>
          sendAndLog (.error .tooManyRequests)
          return (self, true)
      | .error (.chain (.rpcError (.callError status))) =>
          if status.code = .invalidArgument then
            sendAndLog (.error .internalServerError)
            return (self, false)
          else
            sendAndLog (.error .badGateway)
            return (self, true)
      | .error (.chain (.nodeRejected _)) =>
          sendAndLog (.error .badRequest)
          return (self, true)
      | .error (.chain _) =>
          sendAndLog (.error .badGateway)
          return (self, true)
      | .error _ =>
          sendAndLog (.error .internalServerError)
          return (self, true)

/-- What happens while one request is served. -/
structure Observations where
  registrations : List (RegisterCall × RegisterReply)
  messages : List (Except StatusCode IssueResponse)

/-- The node answers anything, and the request handler may be gone. -/
inductive WorkerCall.Observed :
    Observations → (call : WorkerCall) → call.Reply → Observations → Prop
  | register (seen : Observations) (call : RegisterCall) (reply : RegisterReply) :
      Observed seen (.register call) reply
        { seen with registrations := seen.registrations ++ [(call, reply)] }
  | send (seen : Observations) (message : Except StatusCode IssueResponse) (waits : Bool) :
      Observed seen (.send message) waits { seen with messages := seen.messages ++ [message] }

/-- A dequeued request with all that was observed for it. -/
structure Served where
  data : IssueChannelData
  seen : Observations
  continues : Bool

/-- The loop keeps its worker and the requests that it served, with the newest first. -/
structure TxSender where
  worker : IssuerWorker
  running : Bool
  served : List Served

def TxSender.start (worker : IssuerWorker) : TxSender := ⟨worker, true, []⟩

/-- A running loop dequeues one request and serves it. -/
inductive TxSender.Turn (sdk : Sdk) : TxSender → Reading × IssueChannelData → TxSender → Prop
  | dequeued {sender : TxSender} {reading : Reading} {data : IssueChannelData}
      {seen : Observations} {worker : IssuerWorker} {continues : Bool}
      (running : sender.running = true)
      (serves : Program.Answered WorkerCall.Observed ⟨[], []⟩
        (sender.worker.txSenderBody sdk reading data) seen (worker, continues)) :
      Turn sdk sender (reading, data) ⟨worker, continues, ⟨data, seen, continues⟩ :: sender.served⟩

end Web3Id.SomeIssuer
