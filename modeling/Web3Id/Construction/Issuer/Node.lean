import Web3Id.Construction.Chain
import Web3Id.Construction.Issuer.SomeIssuer
import Web3Id.Construction.Issuer.Web3IdIssuer
import Web3Id.Library.WorkerLoop

/-
This file connects the workers to their clients and to the node.
-/

namespace Web3Id

open Library

/-- The node accepts a transaction only with the account's next nonce, and may lose the reply to an
accepted one. It answers any other nonce with an invalid argument or a transport error. -/
inductive Node.Answers : Nat → RegisterCall → RegisterReply → Nat → Prop
  | accepted {next : Nat} {call : RegisterCall} (txHash : TransactionHash)
      (current : call.metadata.nonce = next) : Node.Answers next call (.ok txHash) (next + 1)
  | lost {next : Nat} {call : RegisterCall} {error : Cis4TransactionError}
      (current : call.metadata.nonce = next) (other : error.isInvalidArgument = false) :
      Node.Answers next call (.error error) (next + 1)
  | refused {next : Nat} {call : RegisterCall} (error : Cis4TransactionError)
      (current : call.metadata.nonce = next) : Node.Answers next call (.error error) next
  | stale {next : Nat} {call : RegisterCall} {error : Cis4TransactionError}
      (different : call.metadata.nonce ≠ next)
      (reported : error.isInvalidArgument = true ∨ error.isTransport = true) :
      Node.Answers next call (.error error) next

/-- The request handlers of the Telegram and Discord issuers feed their worker by this channel. -/
def SomeIssuer.channelWorker (sdk : SomeIssuer.Sdk) (capacity : Nat) :
    Worker SomeIssuer.IssuerWorker SomeIssuer.Reading SomeIssuer.IssueChannelData RegisterCall
      RegisterReply (Except StatusCode SomeIssuer.IssueResponse) where
  capacity := capacity
  iteration self reading data := self.txSender sdk reading data

/-- The request handlers of the generic issuer feed their worker by this channel. -/
def Web3IdIssuer.channelWorker (capacity : Nat) :
    Worker Web3IdIssuer.IssuerWorker UInt64 Web3IdIssuer.IssueChannelData RegisterCall
      RegisterReply (Except Web3IdIssuer.Error TransactionHash) where
  capacity := capacity
  iteration self seconds data := self.txSender seconds data

end Web3Id
