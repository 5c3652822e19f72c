import Web3Id.Construction.Chain
import Web3Id.Library.Program

/-
This file holds the presentations of the SDK, the public data of credentials, and the node queries
of the two verifiers.
-/

namespace Web3Id

structure BlockHash where
  bytes : BitVec 256
  deriving DecidableEq, Repr

inductive BlockIdentifier where
  | lastFinal
  | given (hash : BlockHash)
  deriving DecidableEq, Repr

/-- The attributes of an identity carry a number as their tag. -/
structure AttributeTag where
  tag : UInt8
  deriving DecidableEq, Repr

def AttributeTag.firstName : AttributeTag := ⟨0⟩

def AttributeTag.lastName : AttributeTag := ⟨1⟩

/-- An atomic statement names the attribute that its proof is about. -/
inductive AtomicStatement (Tag : Type) where
  | revealAttribute (attributeTag : Tag)
  | attributeInRange (attributeTag : Tag) (lower upper : Web3IdAttribute)
  | attributeInSet (attributeTag : Tag) (set : List Web3IdAttribute)
  | attributeNotInSet (attributeTag : Tag) (set : List Web3IdAttribute)
  deriving DecidableEq, Repr

/-- An atomic proof carries the revealed value, but not the tag of the attribute. -/
inductive AtomicProof where
  | revealAttribute (value : Web3IdAttribute) (proof : Bytes)
  | attributeInRange (proof : Bytes)
  | attributeInSet (proof : Bytes)
  | attributeNotInSet (proof : Bytes)
  deriving DecidableEq, Repr

abbrev StatementWithProof (Tag : Type) := AtomicStatement Tag × AtomicProof

/-- A credential of a presentation is an account credential or an entry of a registry contract. -/
inductive CredentialProof where
  | account (created : DateTime) (network : Network) (credId : Bytes) (issuer : UInt32)
      (proofs : List (StatementWithProof AttributeTag))
  | web3Id (created : DateTime) (holder : CredentialHolderId) (network : Network)
      (contract : ContractAddress) (types : List String) (commitments : Bytes)
      (proofs : List (StatementWithProof String))
  deriving DecidableEq, Repr

structure Presentation where
  presentationContext : Bytes
  verifiableCredential : List CredentialProof
  linkingProof : Bytes
  deriving DecidableEq, Repr

/-- The verified request states for each credential what its proofs show. -/
inductive CredentialStatement where
  | account (network : Network) (credId : Bytes) (statement : List (AtomicStatement AttributeTag))
  | web3Id (types : List String) (network : Network) (contract : ContractAddress)
      (credential : CredentialHolderId) (statement : List (AtomicStatement String))
  deriving DecidableEq, Repr

/-- The statement of a credential keeps its identity and the statements of its proofs. -/
def CredentialProof.statement : CredentialProof → CredentialStatement
  | .account _ network credId _ proofs => .account network credId (proofs.map Prod.fst)
  | .web3Id _ holder network contract types _ proofs =>
      .web3Id types network contract holder (proofs.map Prod.fst)

namespace Web3IdSdk

structure Request where
  challenge : Bytes
  credentialStatements : List CredentialStatement
  deriving DecidableEq, Repr

end Web3IdSdk

inductive CredentialStatus where
  | active
  | revoked
  | expired
  | notActivated
  deriving DecidableEq, Repr

/-- The metadata identifies a credential on the chain. -/
inductive CredentialMetadata where
  | account (issuer : UInt32) (credId : Bytes)
  | web3Id (contract : ContractAddress) (holder : CredentialHolderId)
  deriving DecidableEq, Repr

structure ProofMetadata where
  created : DateTime
  network : Network
  credMetadata : CredentialMetadata
  deriving DecidableEq, Repr

def CredentialProof.metadata : CredentialProof → ProofMetadata
  | .account created network credId issuer _ => ⟨created, network, .account issuer credId⟩
  | .web3Id created holder network contract _ _ _ => ⟨created, network, .web3Id contract holder⟩

/-- The public inputs are the commitments of an account or the key of an issuer. -/
inductive CredentialsInputs where
  | account (commitments : Bytes)
  | web3 (issuerPk : BitVec 256)
  deriving DecidableEq, Repr

structure CredentialWithMetadata where
  inputs : CredentialsInputs
  status : CredentialStatus
  deriving DecidableEq, Repr

/-- An error of the SDK or of the framework is reported with its text. -/
structure JsonRejection where
  text : String
  deriving DecidableEq, Repr

structure PresentationVerificationError where
  text : String
  deriving DecidableEq, Repr

structure QueryError where
  text : String
  deriving DecidableEq, Repr

inductive CredentialLookupError where
  | incorrectNetwork
  | inconsistentIssuer (stated actual : UInt32)
  | queryError (error : QueryError)
  | cis4QueryError (error : QueryError)
  | credentialNotPresent (credId : Bytes) (account : AccountAddress)
  | initialCredential (credId : Bytes)
  | invalidResponse (text : String)
  deriving DecidableEq, Repr

structure BlockInfo where
  blockHash : BlockHash
  blockSlotTime : DateTime
  deriving DecidableEq, Repr

/-- The verifiers ask the node for a block and for the public data of a presentation. -/
inductive NodeQuery where
  | getBlockInfo (block : BlockIdentifier)
  | getPublicData (network : Network) (presentation : Presentation) (block : BlockIdentifier)

abbrev NodeQuery.Reply : NodeQuery → Type
  | .getBlockInfo _ => Except QueryError BlockInfo
  | .getPublicData _ _ _ => Except CredentialLookupError (List CredentialWithMetadata)

/-- The SDK verifies presentations, lists their metadata, and prints its errors. -/
structure PresentationSdk where
  verify : Bytes → Presentation → List CredentialsInputs →
    Except PresentationVerificationError Web3IdSdk.Request
  metadata : Presentation → List ProofMetadata
  lookupErrorText : CredentialLookupError → String

/-- Every credential of the answer has the status Active. -/
def allActive (publicData : List CredentialWithMetadata) : Bool :=
  publicData.all fun cm => cm.status = .active

theorem allActive_iff {publicData : List CredentialWithMetadata} :
    allActive publicData = true ↔ ∀ cm ∈ publicData, cm.status = .active := by
  simp [allActive]

end Web3Id
