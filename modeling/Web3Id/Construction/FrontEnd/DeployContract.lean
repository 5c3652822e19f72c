import Web3Id.Library.StringLiteral

/-
This file is the form that deploys the contract of a new issuer, and the polling of its transaction.
-/

namespace Web3Id.DeployCredentialContract

open Library

structure DeployContractForm where
  issuerPublicKey : String
  issuerMetadataURL : String
  credentialSchemaURL : String
  credentialType : String
  deriving DecidableEq, Repr

/-- All four inputs are required. -/
def DeployContractForm.submit (form : DeployContractForm) : Option DeployContractForm :=
  if form.issuerPublicKey ≠ "" ∧ form.issuerMetadataURL ≠ "" ∧ form.credentialSchemaURL ≠ "" ∧
      form.credentialType ≠ "" then
    some form
  else none

/-- The key is checked before the wallet is asked. Its length counts UTF-16 code units. -/
def createNewIssuer (form : DeployContractForm) : Except String Unit :=
  if (StringLiteral.encode form.issuerPublicKey.toList).length ≠ 64 then
    .error "issuerKey needs a length of 64"
  else .ok ()

/-- The wallet signs one transaction for a press, which identifies its hash. -/
structure TransactionHash where
  press : Nat
  deriving DecidableEq, Repr

/-- A transaction that is not a successful initialization has no contract. -/
inductive Outcome where
  | contractInitialized (index : Nat)
  | other
  deriving DecidableEq, Repr

inductive BlockItemStatus where
  | received
  | committed
  | finalized (outcome : Outcome)
  deriving DecidableEq, Repr

/-- The state of the page. A hash or an index that is empty is not shown. -/
structure Page where
  smartContractIndexError : String
  viewErrorModuleReference : String
  waitingForTransactionToFinialize : Bool
  smartContractIndex : Option Nat
  txHash : Option TransactionHash
  error : String
  deriving DecidableEq, Repr

namespace Page

def loaded : Page := ⟨"", "", false, none, none, ""⟩

/-- The handler of the button clears what was shown. -/
def submitted (page : Page) : Page :=
  { page with
    txHash := none
    error := ""
    smartContractIndex := none
    waitingForTransactionToFinialize := true }

def failed (page : Page) (message : String) : Page :=
  { page with error := message, waitingForTransactionToFinialize := false }

/-- The handler of a status does not look at the hash that it was asked for. -/
def refreshed (page : Page) : Except String (Option BlockItemStatus) → Page
  | .ok none => page
  | .ok (some (.finalized (.contractInitialized index))) =>
      { page with
        viewErrorModuleReference := ""
        waitingForTransactionToFinialize := false
        smartContractIndexError := ""
        smartContractIndex := some index }
  | .ok (some (.finalized .other)) =>
      { page with
        viewErrorModuleReference := ""
        waitingForTransactionToFinialize := false
        smartContractIndexError := "Contract initialization failed" }
  | .ok (some _) => { page with viewErrorModuleReference := "" }
  | .error message => { page with viewErrorModuleReference := message }

end Page

/-- A request for a status, and the reply once a node has answered. -/
structure Query where
  hash : TransactionHash
  reply : Option (Except String (Option BlockItemStatus))
  deriving DecidableEq, Repr

/-- The page with its interval, the presses that the wallet has not answered, those that failed, the
finalized transactions, and the requests for a status that are on their way. -/
structure Session where
  page : Page
  interval : Option TransactionHash
  presses : Nat
  submissions : List Nat
  failed : List Nat
  chain : List (TransactionHash × Outcome)
  queries : List Query
  deriving DecidableEq, Repr

def Session.loaded : Session := ⟨Page.loaded, none, 0, [], [], [], []⟩

/-- What a node knows of a transaction when it answers. -/
inductive View where
  | unavailable (message : String)
  | unknown
  | received
  | committed
  | latest
  deriving DecidableEq, Repr

def getBlockItemStatus (chain : List (TransactionHash × Outcome)) (hash : TransactionHash) :
    View → Except String (Option BlockItemStatus)
  | .unavailable message => .error message
  | .unknown => .ok none
  | .received => .ok (some .received)
  | .committed => .ok (some .committed)
  | .latest =>
      match chain.lookup hash with
      | none => .ok (some .committed)
      | some outcome => .ok (some (.finalized outcome))

inductive Event where
  | press (form : DeployContractForm)
  /-- The wallet sends one of the transactions, or refuses to. -/
  | walletReply (index : Nat) (sent : Except String Unit)
  /-- The interval is renewed after a render, when there is a client. -/
  | effect (client : Bool)
  | tick
  | finalize (hash : TransactionHash) (outcome : Outcome)
  | answer (index : Nat) (view : View)
  | statusReply (index : Nat)
  deriving Repr

namespace Session

def press (session : Session) (form : DeployContractForm) : Session :=
  match form.submit with
  | none => session
  | some form =>
      match createNewIssuer form with
      | .error message =>
          { session with
            page := session.page.submitted.failed message
            presses := session.presses + 1
            failed := session.failed ++ [session.presses] }
      | .ok () =>
          { session with
            page := session.page.submitted
            presses := session.presses + 1
            submissions := session.submissions ++ [session.presses] }

def walletReply (session : Session) (index : Nat) (sent : Except String Unit) : Session :=
  match session.submissions[index]? with
  | none => session
  | some press =>
      let submissions := session.submissions.eraseIdx index
      match sent with
      | .ok () =>
          { session with
            page := { session.page with txHash := some ⟨press⟩ }
            submissions := submissions }
      | .error message =>
          { session with
            page := session.page.failed message
            submissions := submissions
            failed := session.failed ++ [press] }

/-- The contracts of the chain have different indices. -/
def Fresh (session : Session) (hash : TransactionHash) (outcome : Outcome) : Prop :=
  hash.press < session.presses ∧ hash.press ∉ session.failed ∧
    ∀ entry ∈ session.chain, entry.1 ≠ hash ∧ (entry.2 = outcome → outcome = .other)

instance (session : Session) (hash : TransactionHash) (outcome : Outcome) :
    Decidable (session.Fresh hash outcome) :=
  inferInstanceAs (Decidable (_ ∧ _ ∧ _))

def finalize (session : Session) (hash : TransactionHash) (outcome : Outcome) : Session :=
  if session.Fresh hash outcome then { session with chain := session.chain ++ [(hash, outcome)] }
  else session

def tick (session : Session) : Session :=
  match session.interval with
  | none => session
  | some hash => { session with queries := session.queries ++ [⟨hash, none⟩] }

def answer (session : Session) (index : Nat) (view : View) : Session :=
  { session with
    queries := session.queries.modify index fun query =>
      { query with reply := some (getBlockItemStatus session.chain query.hash view) } }

/-- A reply may come long after its request, and the replies in any order. -/
def statusReply (session : Session) (index : Nat) : Session :=
  match session.queries[index]? with
  | none => session
  | some query =>
      match query.reply with
      | none => session
      | some reply =>
          { session with
            page := session.page.refreshed reply
            queries := session.queries.eraseIdx index }

def step (session : Session) : Event → Session
  | .press form => session.press form
  | .walletReply index sent => session.walletReply index sent
  | .effect client => { session with interval := if client then session.page.txHash else none }
  | .tick => session.tick
  | .finalize hash outcome => session.finalize hash outcome
  | .answer index view => session.answer index view
  | .statusReply index => session.statusReply index

end Session

end Web3Id.DeployCredentialContract
