import Web3Id.Construction.Issuer.IssueCredential
import Web3Id.Library.Execution

/-
This file is the command-line wallet that registers credentials and proves them.
-/

namespace Web3Id.Web3IdTest

open Library
open SomeIssuer (Web3IdCredential)

/-- The keys of a seed phrase are derived from a registry and an index. -/
structure ConcordiumHdWallet where
  publicKey : ContractAddress → Nat → Except String (BitVec 256)
  signingKey : ContractAddress → Nat → Except String Bytes

structure KeyPair where
  secret : Bytes
  publicKey : BitVec 256

/-- The options of the command that registers a credential. -/
structure Register where
  attributes : List (String × Web3IdAttribute)
  issuer : Option AccountAddress
  issuerKey : Option KeyPair
  issuerService : Bool
  metadataUrl : String
  holderRevocable : Bool
  validFrom : DateTime
  validUntil : Option DateTime

structure RegistryMetadata where
  credentialType : String
  credentialSchema : String

/-- The command works on one registry, and asks the service of its issuer. -/
structure Host where
  wallet : ConcordiumHdWallet
  registry : ContractAddress
  cryptoParams : Bytes
  newMetadataUrl : String → Option MetadataUrl
  sdk : Web3IdIssuer.Sdk
  service : Web3IdIssuer.State

/-- The milliseconds of a date are cast to the unsigned type. -/
def timestamp (time : DateTime) : Timestamp := ⟨UInt64.ofInt time.timestampMillis⟩

def Register.credInfo (register : Register) (host : Host) (key : BitVec 256) :
    Option CredentialInfo :=
  (host.newMetadataUrl register.metadataUrl).map fun url =>
    ⟨⟨key⟩, register.holderRevocable, timestamp register.validFrom,
      register.validUntil.map timestamp, url⟩

/-- A local issuer signs the commitments itself. -/
def Register.secrets (register : Register) (host : Host) (key : BitVec 256) (issuer : KeyPair)
    (metadata : RegistryMetadata) (randomness : String → Bytes) : Option Web3IdCredential :=
  let randomness := register.attributes.map fun value => (value.1, randomness value.1)
  (host.sdk.fromSecrets host.cryptoParams register.attributes randomness ⟨key⟩ issuer.secret
    host.registry).map fun signature =>
      { holderId := ⟨key⟩
        network := .testnet
        registry := host.registry
        credentialType :=
          {"VerifiableCredential", "ConcordiumVerifiableCredential", metadata.credentialType}
        credentialSchema := metadata.credentialSchema
        issuerKey := issuer.publicKey
        validFrom := register.validFrom
        validUntil := register.validUntil
        values := register.attributes
        randomness := randomness
        signature := signature }

/-- The request to the service of the issuer. -/
def Register.request (register : Register) (key : BitVec 256) : Web3IdIssuer.IssueRequest where
  validFrom := register.validFrom
  validUntil := register.validUntil
  holderRevocable := register.holderRevocable
  credentialSubject := ⟨⟨.testnet, .publicKey key⟩, register.attributes⟩
  metadataUrl := ⟨register.metadataUrl, none⟩

/-- What the command waits for. -/
inductive Stage where
  | searching (idx : Nat)
  | chosen (idx : Nat) (key : BitVec 256)
  | submitting (info : CredentialInfo)
  | posting (key : BitVec 256)
  | accepted (key : BitVec 256) (txHash : TransactionHash)
  | waiting (txHash : TransactionHash)
  | done
  | failed

structure Process where
  register : Register
  stage : Stage

/-- The commands share a directory of secrets, and a chain with the entries of the registry at its
last final block. -/
structure System where
  processes : List Process
  files : CredentialHolderId → Option Web3IdCredential
  entries : List CredentialHolderId
  pool : List (TransactionHash × CredentialInfo)

def System.start : System := ⟨[], fun _ => none, [], []⟩

/-- The contract rejects the query for a credential that it does not have. -/
inductive EntryReply where
  | entry
  | contractError
  | error (message : String)

/-- The node may accept a transaction and lose its reply. -/
inductive SubmitReply where
  | accepted (txHash : TransactionHash)
  | lost (txHash : TransactionHash)
  | refused

/-- The commands take their steps in any order, and others register credentials as well. -/
inductive Event where
  | start (register : Register)
  | entry (process : Nat) (reply : EntryReply)
  | issue (process : Nat) (metadata : RegistryMetadata) (randomness : String → Bytes)
  | submit (process : Nat) (reply : SubmitReply)
  | accept (process : Nat) (txHash : TransactionHash)
  | response (process : Nat) (randomness : String → Bytes)
  | wait (process : Nat)
  | error (process : Nat)
  | foreign (txHash : TransactionHash) (info : CredentialInfo)
  | finalize (txHash : TransactionHash)

/-- The loop goes on to the next index, or uses this one. -/
def nextStage (host : Host) (idx : Nat) (reply : EntryReply) : Stage :=
  match host.wallet.publicKey host.registry idx, reply with
  | .ok _, .entry => if idx + 1 < UInt32.size then .searching (idx + 1) else .failed
  | .ok key, .contractError => .chosen idx key
  | _, _ => .failed

/-- The file of a holder is replaced when it exists. -/
def System.write (self : System) (holder : CredentialHolderId) (credential : Web3IdCredential) :
    System := { self with files := Function.update self.files holder (some credential) }

def System.set (self : System) (index : Nat) (register : Register) (stage : Stage) : System :=
  { self with processes := self.processes.set index ⟨register, stage⟩ }

def System.submit (self : System) (txHash : TransactionHash) (info : CredentialInfo) : System :=
  { self with pool := self.pool ++ [(txHash, info)] }

/-- The registration that the service sends to the chain for a request. -/
def Host.job (host : Host) (request : Web3IdIssuer.IssueRequest) : Option CredentialInfo :=
  (Web3IdIssuer.issueCredential host.sdk host.service (fun _ => []) (.ok request)).firstCall.map
    fun job => job.credential

/-- The answer of the service when its transaction is accepted. -/
def Host.answer (host : Host) (request : Web3IdIssuer.IssueRequest) (randomness : String → Bytes)
    (txHash : TransactionHash) : Except Web3IdIssuer.IssueError Web3IdIssuer.IssueResponse :=
  (Web3IdIssuer.issueCredential host.sdk host.service randomness (.ok request)).answeredBy
    fun _ => .answered (.ok txHash)

/-- A local issuer writes the secrets before it sends the transaction, and the service gets a
request. -/
def System.issue (self : System) (host : Host) (index : Nat) (register : Register)
    (key : BitVec 256) (metadata : RegistryMetadata) (randomness : String → Bytes) : System :=
  match register.credInfo host key, register.issuer, register.issuerKey with
  | none, _, _ => self.set index register .failed
  | some info, some _, some issuer =>
      match register.secrets host key issuer metadata randomness with
      | none => self.set index register .failed
      | some secrets => (self.write info.holderId secrets).set index register (.submitting info)
  | some _, some _, none => self.set index register .failed
  | some _, none, _ =>
      self.set index register (if register.issuerService then .posting key else .failed)

/-- A transaction takes effect unless the contract has its credential. -/
def System.finalize (self : System) (txHash : TransactionHash) (info : CredentialInfo) : System :=
  { self with
    pool := self.pool.erase (txHash, info)
    entries :=
      if info.holderId ∈ self.entries then self.entries else self.entries ++ [info.holderId] }

def System.step (host : Host) (self : System) : Event → System
  | .start register => { self with processes := self.processes ++ [⟨register, .searching 0⟩] }
  | .entry index reply =>
      match self.processes[index]? with
      | some ⟨register, .searching idx⟩ => self.set index register (nextStage host idx reply)
      | _ => self
  | .issue index metadata randomness =>
      match self.processes[index]? with
      | some ⟨register, .chosen _ key⟩ => self.issue host index register key metadata randomness
      | _ => self
  | .submit index reply =>
      match self.processes[index]?, reply with
      | some ⟨register, .submitting info⟩, .accepted txHash =>
          (self.submit txHash info).set index register (.waiting txHash)
      | some ⟨register, .submitting info⟩, .lost txHash =>
          (self.submit txHash info).set index register .failed
      | some ⟨register, .submitting _⟩, .refused => self.set index register .failed
      | _, _ => self
  | .accept index txHash =>
      match self.processes[index]? with
      | some ⟨register, .posting key⟩ =>
          match host.job (register.request key) with
          | none => self
          | some info => (self.submit txHash info).set index register (.accepted key txHash)
      | _ => self
  | .response index randomness =>
      match self.processes[index]? with
      | some ⟨register, .accepted key txHash⟩ =>
          match host.answer (register.request key) randomness txHash with
          | .error _ => self.set index register .failed
          | .ok response =>
              (self.write ⟨key⟩ response.credential).set index register (.waiting response.txHash)
      | _ => self
  | .wait index =>
      match self.processes[index]? with
      | some ⟨register, .waiting _⟩ => self.set index register .done
      | _ => self
  | .error index =>
      match self.processes[index]? with
      | some ⟨register, _⟩ => self.set index register .failed
      | none => self
  | .foreign txHash info => self.submit txHash info
  | .finalize txHash =>
      match self.pool.find? fun entry => entry.1 = txHash with
      | none => self
      | some (_, info) => self.finalize txHash info

/-- The index of a credential is found by its holder. A key that cannot be derived ends the search
with a panic. -/
def findIndex (wallet : ConcordiumHdWallet) (credential : Web3IdCredential) :
    (idx remaining : Nat) → Option Nat
  | _, 0 => none
  | idx, remaining + 1 =>
      match wallet.publicKey credential.registry idx with
      | .error _ => none
      | .ok key =>
          if key = credential.holderId.publicKey then some idx
          else findIndex wallet credential (idx + 1) remaining

/-- The key that signs the proof of a stored credential. -/
def provingKey (wallet : ConcordiumHdWallet) (credential : Web3IdCredential) :
    Option (Nat × Except String Bytes) :=
  (findIndex wallet credential 0 UInt32.size).map fun index =>
    (index, wallet.signingKey credential.registry index)

/-- No key of the wallet has this holder. -/
def Host.Foreign (host : Host) (holder : CredentialHolderId) : Prop :=
  ∀ idx, host.wallet.publicKey host.registry idx ≠ .ok holder.publicKey

/-- The node answers from the last final block, and nobody else registers keys of the wallet. -/
inductive System.Admits (host : Host) (self : System) : Event → Prop
  | start (register : Register) : System.Admits host self (.start register)
  | entry {process : Nat} {reply : EntryReply}
      (honest : ∀ register idx key, self.processes[process]? = some ⟨register, .searching idx⟩ →
        host.wallet.publicKey host.registry idx = .ok key →
        (reply = .entry → ⟨key⟩ ∈ self.entries) ∧
          (reply = .contractError → ⟨key⟩ ∉ self.entries)) :
      System.Admits host self (.entry process reply)
  | issue (process : Nat) (metadata : RegistryMetadata) (randomness : String → Bytes) :
      System.Admits host self (.issue process metadata randomness)
  | submit (process : Nat) (reply : SubmitReply) : System.Admits host self (.submit process reply)
  | accept (process : Nat) (txHash : TransactionHash) :
      System.Admits host self (.accept process txHash)
  | response (process : Nat) (randomness : String → Bytes) :
      System.Admits host self (.response process randomness)
  | wait (process : Nat) : System.Admits host self (.wait process)
  | error (process : Nat) : System.Admits host self (.error process)
  | foreign (txHash : TransactionHash) {info : CredentialInfo}
      (foreign : host.Foreign info.holderId) : System.Admits host self (.foreign txHash info)
  | finalize (txHash : TransactionHash) : System.Admits host self (.finalize txHash)

/-- Every event that the chain and the commands admit is a step. -/
inductive System.Step (host : Host) : System → Event → System → Prop
  | admitted {system : System} {event : Event} (admits : system.Admits host event) :
      System.Step host system event (system.step host event)

end Web3Id.Web3IdTest
