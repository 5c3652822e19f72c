import Web3Id.Construction.Issuer.SomeIssuer
import Web3Id.Construction.Issuer.Web3IdIssuer

/-
This file is the request handler of the generic issuer service.
-/

namespace Web3Id

/-- The milliseconds since the epoch, rounded down. -/
def DateTime.timestampMillis (self : DateTime) : Int := self.nanos / 1000000

namespace Web3IdIssuer

open Library

/-- A decentralized identifier refers to one of these. -/
inductive IdentifierType where
  | account (address : AccountAddress)
  | credential (credId : Bytes)
  | contractData (address : ContractAddress) (entrypoint : String) (parameter : Bytes)
  | publicKey (key : BitVec 256)
  | idp (idpIdentity : UInt32)
  deriving DecidableEq, Repr

def IdentifierType.extractPublicKey : IdentifierType → Option (BitVec 256)
  | .publicKey key => some key
  | _ => none

structure Method where
  network : Network
  ty : IdentifierType
  deriving DecidableEq, Repr

/-- The attributes are the entries of a map, in the order of their keys. -/
structure CredentialSubject where
  id : Method
  attributes : List (String × Web3IdAttribute)
  deriving DecidableEq, Repr

structure IssueRequest where
  validFrom : DateTime
  validUntil : Option DateTime
  holderRevocable : Bool
  credentialSubject : CredentialSubject
  metadataUrl : MetadataUrl
  deriving DecidableEq, Repr

structure IssueResponse where
  txHash : TransactionHash
  credential : SomeIssuer.Web3IdCredential
  deriving DecidableEq

/-- The errors that the request handler returns. -/
inductive IssueError where
  | invalidRequest (rejection : String)
  | couldNotSubmit (error : Cis4TransactionError)
  | internal (message : String)
  | invalidTimeRange
  | invalidNetwork
  | invalidId
  deriving DecidableEq, Repr

/-- The SDK signs the commitments. -/
structure Sdk where
  fromSecrets : Bytes → List (String × Web3IdAttribute) → List (String × Bytes) →
    CredentialHolderId → Bytes → ContractAddress → Option Bytes

structure State where
  cryptoParams : Bytes
  contract : ContractAddress
  issuerKey : Bytes
  issuerPublicKey : BitVec 256
  network : Network
  credentialSchema : String
  credentialType : Finset String

/-- The worker task may have died before or after it took the job. -/
inductive WorkerReply where
  | closed
  | dropped
  | answered (result : Except Error TransactionHash)

def makeSecrets (sdk : Sdk) (state : State) (randomness : String → Bytes)
    (holderId : CredentialHolderId) (request : IssueRequest) :
    Except IssueError SomeIssuer.Web3IdCredential :=
  let values := request.credentialSubject.attributes
  let randomness := values.map fun value => (value.1, randomness value.1)
  match sdk.fromSecrets state.cryptoParams values randomness holderId state.issuerKey
      state.contract with
  | none => .error
      (.internal "Incorrect number of values vs. randomness. This should not happen.")
  | some signature => .ok
      { registry := state.contract
        issuerKey := state.issuerPublicKey
        values := values
        randomness := randomness
        signature := signature
        holderId := holderId
        network := state.network
        credentialType := state.credentialType
        credentialSchema := state.credentialSchema
        validFrom := request.validFrom
        validUntil := request.validUntil }

/-- The conversion of a number to a `u64` fails when it is out of range. -/
def timestampOf (millis : Int) : Except IssueError Timestamp :=
  if 0 ≤ millis ∧ millis.toNat < UInt64.size then .ok ⟨.ofNat millis.toNat⟩
  else .error .invalidTimeRange

/-- The checks of `issue_credential` come before the transaction. -/
def credentialInfo (state : State) (request : IssueRequest) :
    Except IssueError CredentialInfo := do
  let some key := request.credentialSubject.id.ty.extractPublicKey | .error .invalidId
  let holderId : CredentialHolderId := ⟨key⟩
  if request.credentialSubject.id.network ≠ state.network then .error .invalidNetwork
  let validFrom ← timestampOf request.validFrom.timestampMillis
  let validUntil ← request.validUntil.mapM fun time => timestampOf time.timestampMillis
  if let some last := validUntil then
    if last.millis < validFrom.millis then .error .invalidTimeRange
  return {
    holderId := holderId
    holderRevocable := request.holderRevocable
    validFrom := validFrom
    validUntil := validUntil
    metadataUrl := request.metadataUrl }

def issueCredential (sdk : Sdk) (state : State) (randomness : String → Bytes)
    (request : Except String IssueRequest) :
    Program IssueChannelData (fun _ => WorkerReply) (Except IssueError IssueResponse) :=
  match request with
  | .error rejection => .pure (.error (.invalidRequest rejection))
  | .ok request =>
      match credentialInfo state request with
      | .error error => .pure (.error error)
      | .ok credInfo => .call ⟨credInfo⟩ fun
          | .closed => .pure (.error (.internal "Failed sending transaction."))
          | .answered (.ok txHash) => .pure do
              let credential ← makeSecrets sdk state randomness credInfo.holderId request
              return ⟨txHash, credential⟩
          | .answered (.error (.couldNotSubmit error)) => .pure (.error (.couldNotSubmit error))
          | .dropped => .pure (.error (.internal "Failed sending transaction."))

end Web3IdIssuer

end Web3Id
