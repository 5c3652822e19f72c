import Mathlib.Data.List.Forall2
import Web3Id.Construction.Presentation

/-
This file is the node that the verifiers query: a chain of blocks, and answers that are read at one
of them.
-/

namespace Web3Id

/-- Each block has its info, and records the credentials that are registered in its state. -/
structure Ledger where
  slotTime : BlockHash → DateTime
  credential : BlockHash → CredentialMetadata → Option CredentialWithMetadata

/-- No block records a credential. -/
def Ledger.empty : Ledger := ⟨fun _ => ⟨0⟩, fun _ _ => none⟩

/-- The credential is on the network and has this public data in the state of the block. -/
structure Ledger.Records (ledger : Ledger) (network : Network) (block : BlockHash)
    (credential : CredentialProof) (publicData : CredentialWithMetadata) : Prop where
  network : credential.metadata.network = network
  registered : ledger.credential block credential.metadata.credMetadata = some publicData

/-- The public data of the credentials are listed in the order of the presentation. -/
def Ledger.Reads (ledger : Ledger) (network : Network) (block : BlockHash)
    (presentation : Presentation) (publicData : List CredentialWithMetadata) : Prop :=
  List.Forall₂ (ledger.Records network block) presentation.verifiableCredential publicData

/--
The environment state is the last finalized block, which changes between any two calls.
A query at a block hash reads the state of that block, and fails for an unknown credential or a
wrong network; when the node is not reliable, any query may fail.
-/
inductive Ledger.Answers (ledger : Ledger) (reliable : Bool) :
    BlockHash → (query : NodeQuery) → query.Reply → BlockHash → Prop
  | blockInfo (last next : BlockHash) :
      Answers ledger reliable last (.getBlockInfo .lastFinal) (.ok ⟨last, ledger.slotTime last⟩) next
  | blockInfoFails (last next : BlockHash) (block : BlockIdentifier) (error : QueryError)
      (fails : reliable = false) :
      Answers ledger reliable last (.getBlockInfo block) (.error error) next
  | publicData {network : Network} {presentation : Presentation} {block : BlockHash}
      {publicData : List CredentialWithMetadata} (last next : BlockHash)
      (reads : ledger.Reads network block presentation publicData) :
      Answers ledger reliable last (.getPublicData network presentation (.given block))
        (.ok publicData) next
  | credentialMissing {network : Network} {presentation : Presentation} {block : BlockHash}
      (last next : BlockHash) (error : CredentialLookupError)
      (missing : ∀ publicData, ¬ ledger.Reads network block presentation publicData) :
      Answers ledger reliable last (.getPublicData network presentation (.given block))
        (.error error) next
  | publicDataFails {network : Network} {presentation : Presentation} {block : BlockIdentifier}
      (last next : BlockHash) (error : QueryError) (fails : reliable = false) :
      Answers ledger reliable last (.getPublicData network presentation block)
        (.error (.queryError error)) next

/-- A block determines the public data of a presentation. -/
theorem Ledger.Reads.unique {ledger : Ledger} {network : Network} {block : BlockHash}
    {presentation : Presentation} {one other : List CredentialWithMetadata}
    (left : ledger.Reads network block presentation one)
    (right : ledger.Reads network block presentation other) : one = other := by
  have functional : Relator.RightUnique (ledger.Records network block) := by
    intro credential first second records again
    exact Option.some.inj (records.registered.symm.trans again.registered)
  exact functional.forall₂ left right

end Web3Id
