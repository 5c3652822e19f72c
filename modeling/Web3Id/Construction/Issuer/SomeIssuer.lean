import Mathlib.Data.Finset.Insert
import Web3Id.Construction.Chain
import Web3Id.Construction.Issuer.RateLimiter
import Web3Id.Library.Program

/-
This file is the transaction sender of the Telegram and Discord issuers.
-/

namespace Web3Id.SomeIssuer

open Library

/-- The request handler sends this data to the worker, together with a channel for the answer. -/
structure IssueChannelData where
  credential : CredentialInfo
  userId : String
  username : String
  deriving DecidableEq, Repr

/-- One iteration reads the clock in milliseconds and in seconds, and draws randomness by key. -/
structure Reading where
  now : Int64
  seconds : UInt64
  randomness : String → Bytes

/-- The SDK signs the commitments and converts timestamps. -/
structure Sdk where
  fromSecrets : Bytes → List (String × Web3IdAttribute) → List (String × Bytes) →
    CredentialHolderId → Bytes → ContractAddress → Option Bytes
  timestampMillisOpt : Int64 → Option DateTime

structure IssuerWorker where
  cryptoParams : Bytes
  contract : ContractAddress
  network : Network
  issuer : AccountAddress
  issuerKey : Bytes
  issuerPublicKey : BitVec 256
  credentialType : String
  state : SyncState
  maxRegisterEnergy : UInt64
  metadataUrl : String
  credentialSchemaUrl : String

structure Web3IdCredential where
  holderId : CredentialHolderId
  network : Network
  registry : ContractAddress
  credentialType : Finset String
  credentialSchema : String
  issuerKey : BitVec 256
  validFrom : DateTime
  validUntil : Option DateTime
  values : List (String × Web3IdAttribute)
  randomness : List (String × Bytes)
  signature : Bytes
  deriving DecidableEq

structure IssueResponse where
  txHash : TransactionHash
  credential : Web3IdCredential
  deriving DecidableEq

inductive MakeSecretsError where
  | incompatibleValuesAndRandomness (values randomness : Nat)
  | invalidTimestamp
  deriving DecidableEq, Repr

inductive RegisterCredentialError where
  | invalidCredential
  | limitExceeded (userId : String)
  | chain (error : Cis4TransactionError)
  | internal (error : MakeSecretsError)
  deriving DecidableEq, Repr

/-- The checks run in the order of the source and report the first failure. -/
def IssuerWorker.validateCredential (self : IssuerWorker) (now : Int64)
    (credential : CredentialInfo) : Except String Unit :=
  let delta := Timestamp.durationBetween ⟨now.toUInt64⟩ credential.validFrom
  if !credential.holderRevocable then .error "Credential should be holder revocable."
  else if !(delta.millis < (Duration.fromMinutes 1).millis) then
    .error "Credential should start now."
  else if !credential.validUntil.isNone then .error "Credential should not expire."
  else if !(credential.metadataUrl.url = self.metadataUrl) then
    .error "Metadata URL should be correct."
  else .ok ()

/-- An accepted registration advances the nonce and enters the rate limiter. -/
def IssuerWorker.registered (self : IssuerWorker) (userId : String) : IssuerWorker :=
  { self with
    state := ⟨self.state.nonce + 1, self.state.limit.updateLimit userId⟩ }

/-- The transaction uses the tracked nonce and expires in five minutes. -/
def IssuerWorker.metadata (self : IssuerWorker) (seconds : UInt64) : Cis4TransactionMetadata where
  senderAddress := self.issuer
  nonce := self.state.nonce
  expiry := .minutesAfter seconds 5
  energy := .add self.maxRegisterEnergy
  amount := 0

def IssuerWorker.registerCredential (self : IssuerWorker) (seconds : UInt64)
    (credential : CredentialInfo) (userId : String) :
    Program RegisterCall (fun _ => RegisterReply)
      (Except RegisterCredentialError TransactionHash × IssuerWorker) :=
  if !self.state.limit.checkLimit userId then .pure (.error (.limitExceeded userId), self)
  else .call ⟨self.metadata seconds, credential, []⟩ fun
    | .ok txHash => .pure (.ok txHash, self.registered userId)
    | .error error => .pure (.error (.chain error), self)

def IssuerWorker.makeSecrets (sdk : Sdk) (self : IssuerWorker) (randomness : String → Bytes)
    (values : List (String × Web3IdAttribute)) (credential : CredentialInfo) :
    Except MakeSecretsError Web3IdCredential :=
  let randomness := values.map fun value => (value.1, randomness value.1)
  match sdk.fromSecrets self.cryptoParams values randomness credential.holderId self.issuerKey
      self.contract with
  | none => .error (.incompatibleValuesAndRandomness values.length randomness.length)
  | some signature =>
      match sdk.timestampMillisOpt credential.validFrom.millis.toInt64 with
      | none => .error .invalidTimestamp
      | some validFrom => .ok
          { holderId := credential.holderId
            network := self.network
            registry := self.contract
            credentialType :=
              {"VerifiableCredential", "ConcordiumVerifiableCredential", self.credentialType}
            validFrom := validFrom
            validUntil := none
            issuerKey := self.issuerPublicKey
            values := values
            randomness := randomness
            signature := signature
            credentialSchema := self.credentialSchemaUrl }

/-- The credential carries exactly the user id and the username. -/
def attributes (userId username : String) : List (String × Web3IdAttribute) :=
  [("userId", .string userId), ("username", .string username)]

/-- Each error of the registration has an answer, and tells whether the loop goes on. -/
def rejection : RegisterCredentialError → StatusCode × Bool
  | .limitExceeded _ => (.tooManyRequests, true)
  | .chain (.rpcError (.callError status)) =>
      -- a refused sequence number ends the loop, any other call error is reported
      if status.code = .invalidArgument then (.internalServerError, false) else (.badGateway, true)
  | .chain (.nodeRejected _) => (.badRequest, true)
  | .chain _ => (.badGateway, true)
  | _ => (.internalServerError, true)

/-- The answer to an accepted registration; failing secrets end the loop. -/
def IssuerWorker.respond (sdk : Sdk) (self : IssuerWorker) (reading : Reading)
    (data : IssueChannelData) (txHash : TransactionHash) :
    IssuerWorker × Except StatusCode IssueResponse × Bool :=
  match self.makeSecrets sdk reading.randomness (attributes data.userId data.username)
      data.credential with
  | .ok credential => (self, .ok ⟨txHash, credential⟩, true)
  | .error _ => (self, .error .internalServerError, false)

/-- One turn of the loop in `tx_sender`. -/
def IssuerWorker.txSender (sdk : Sdk) (self : IssuerWorker) (reading : Reading)
    (data : IssueChannelData) :
    Program RegisterCall (fun _ => RegisterReply)
      (IssuerWorker × Except StatusCode IssueResponse × Bool) :=
  match self.validateCredential reading.now data.credential with
  | .error _ => .pure (self, .error .badRequest, true)
  | .ok () => do
      let (result, self) ← self.registerCredential reading.seconds data.credential data.userId
      match result with
      | .ok txHash => .pure (self.respond sdk reading data txHash)
      | .error error => .pure (self, .error (rejection error).1, (rejection error).2)

end Web3Id.SomeIssuer
