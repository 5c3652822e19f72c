import Mathlib.Logic.Basic

/-
This file holds the chain and wallet data that the services exchange with the SDK.
-/

namespace Web3Id

/-- Opaque SDK data is kept as its bytes. -/
abbrev Bytes := List UInt8

inductive Network where
  | testnet
  | mainnet
  deriving DecidableEq, Repr

structure ContractAddress where
  index : UInt64
  subindex : UInt64
  deriving DecidableEq, Repr

/-- The holder of a credential is its ed25519 public key. -/
structure CredentialHolderId where
  publicKey : BitVec 256
  deriving DecidableEq, Repr

structure AccountAddress where
  bytes : BitVec 256
  deriving DecidableEq, Repr

structure TransactionHash where
  bytes : BitVec 256
  deriving DecidableEq, Repr

/-- A timestamp counts the milliseconds since the epoch. -/
structure Timestamp where
  millis : UInt64
  deriving DecidableEq, Repr

/-- A duration counts milliseconds. -/
structure Duration where
  millis : UInt64
  deriving DecidableEq, Repr

def Duration.fromMinutes (minutes : UInt64) : Duration := ⟨minutes * 60 * 1000⟩

/-- The duration between two timestamps is their absolute difference. -/
def Timestamp.durationBetween (self other : Timestamp) : Duration :=
  ⟨if self.millis ≥ other.millis then self.millis - other.millis else other.millis - self.millis⟩

/-- A date-time counts the nanoseconds since the epoch. -/
structure DateTime where
  nanos : Int
  deriving DecidableEq, Repr

structure MetadataUrl where
  url : String
  hash : Option Bytes
  deriving DecidableEq, Repr

structure CredentialInfo where
  holderId : CredentialHolderId
  holderRevocable : Bool
  validFrom : Timestamp
  validUntil : Option Timestamp
  metadataUrl : MetadataUrl
  deriving DecidableEq, Repr

inductive Web3IdAttribute where
  | string (value : String)
  | numeric (value : UInt64)
  | timestamp (value : Timestamp)
  deriving DecidableEq, Repr

/-- The status codes of the gRPC interface. -/
inductive Code where
  | ok | cancelled | unknown | invalidArgument | deadlineExceeded | notFound | alreadyExists
  | permissionDenied | resourceExhausted | failedPrecondition | aborted | outOfRange
  | unimplemented | internal | unavailable | dataLoss | unauthenticated
  deriving DecidableEq, Repr

structure Status where
  code : Code
  message : String
  deriving DecidableEq, Repr

inductive RPCError where
  | callError (status : Status)
  | parseError (message : String)
  deriving DecidableEq, Repr

inductive Cis4TransactionError where
  | invalidParams (message : String)
  | rpcError (error : RPCError)
  | nodeRejected (reason : String)
  deriving DecidableEq, Repr

/-- The node answers a rejected sequence number with this status code. -/
def Cis4TransactionError.isInvalidArgument : Cis4TransactionError → Bool
  | .rpcError (.callError status) => status.code = .invalidArgument
  | _ => false

/-- A transport error reports a failed call to the node. -/
def Cis4TransactionError.isTransport : Cis4TransactionError → Bool
  | .rpcError _ => true
  | _ => false

/-- The expiry of a transaction counts the seconds since the epoch. -/
structure TransactionTime where
  seconds : UInt64
  deriving DecidableEq, Repr

def TransactionTime.minutesAfter (now minutes : UInt64) : TransactionTime := ⟨now + minutes * 60⟩

inductive GivenEnergy where
  | absolute (energy : UInt64)
  | add (energy : UInt64)
  deriving DecidableEq, Repr

structure Cis4TransactionMetadata where
  senderAddress : AccountAddress
  nonce : Nat
  expiry : TransactionTime
  energy : GivenEnergy
  amount : UInt64
  deriving DecidableEq, Repr

/-- A registration call carries the transaction and the credential to register. -/
structure RegisterCall where
  metadata : Cis4TransactionMetadata
  credential : CredentialInfo
  additionalData : Bytes
  deriving DecidableEq, Repr

abbrev RegisterReply := Except Cis4TransactionError TransactionHash

/-- A registration is accepted when the node returns its transaction hash. -/
def RegisterReply.isOk : RegisterReply → Bool
  | .ok _ => true
  | .error _ => false

/-- The HTTP status codes that the services return. -/
inductive StatusCode where
  | ok | created | badRequest | notFound | requestTimeout | tooManyRequests
  | internalServerError | badGateway
  deriving DecidableEq, Repr

def StatusCode.code : StatusCode → Nat
  | .ok => 200
  | .created => 201
  | .badRequest => 400
  | .notFound => 404
  | .requestTimeout => 408
  | .tooManyRequests => 429
  | .internalServerError => 500
  | .badGateway => 502

end Web3Id
