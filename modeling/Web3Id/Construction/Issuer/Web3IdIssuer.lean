import Web3Id.Construction.Chain
import Web3Id.Library.Program

/-
This file is the transaction sender of the generic issuer service.
-/

namespace Web3Id.Web3IdIssuer

open Library

/-- The request handler sends the credential to the worker, together with a channel for the answer. -/
structure IssueChannelData where
  credential : CredentialInfo
  deriving DecidableEq, Repr

/-- The worker shares one account and counts its sequence number. -/
structure IssuerWorker where
  contract : ContractAddress
  issuer : AccountAddress
  nonceCounter : Nat
  maxRegisterEnergy : UInt64
  deriving DecidableEq, Repr

/-- The worker reports one kind of error to the request handler. -/
inductive Error where
  | couldNotSubmit (error : Cis4TransactionError)
  deriving DecidableEq, Repr

def IssuerWorker.registerCredential (self : IssuerWorker) (credential : CredentialInfo)
    (metadata : Cis4TransactionMetadata) :
    Program RegisterCall (fun _ => RegisterReply) (Except Error TransactionHash × IssuerWorker) :=
  .call ⟨metadata, credential, []⟩ fun
    | .ok txHash => .pure (.ok txHash, { self with nonceCounter := self.nonceCounter + 1 })
    | .error error => .pure (.error (.couldNotSubmit error), self)

/-- One turn of the loop in `tx_sender`; it answers every reply and always goes on. -/
def IssuerWorker.txSender (self : IssuerWorker) (seconds : UInt64) (data : IssueChannelData) :
    Program RegisterCall (fun _ => RegisterReply)
      (IssuerWorker × Except Error TransactionHash × Bool) := do
  let metadata : Cis4TransactionMetadata :=
    { senderAddress := self.issuer
      nonce := self.nonceCounter
      expiry := .minutesAfter seconds 5
      energy := .add self.maxRegisterEnergy
      amount := 0 }
  let (res, self) ← self.registerCredential data.credential metadata
  return (self, res, true)

end Web3Id.Web3IdIssuer
