import Web3Id.Construction.ProofExplorer.StatementBuilder

/-
This file is the flow of anchors and verification requests of the proof explorer.
-/

namespace Web3Id.ProofExplorer

variable {Atom : Type}

inductive SubjectClaimsType where
  | accountOrIdentityClaims
  | onlyAccountClaims
  | onlyIdentityClaims
  deriving DecidableEq, Repr

inductive IdentityCredType where
  | identityCredential
  | accountCredential
  deriving DecidableEq, Repr

structure IdentityProviderDID where
  network : Network
  index : Nat
  deriving DecidableEq, Repr

structure SubjectClaims (Atom : Type) where
  source : List IdentityCredType
  statements : List Atom
  issuers : List IdentityProviderDID
  deriving DecidableEq, Repr

def network : Network := .testnet

def SubjectClaimsType.source (claimsType : SubjectClaimsType) : List IdentityCredType :=
  if claimsType = .accountOrIdentityClaims then [.identityCredential, .accountCredential]
  else if claimsType = .onlyAccountClaims then [.accountCredential]
  else [.identityCredential]

/-- Only identity statements are supported in this flow. -/
def getSubjectClaims (statement : List (TopLevelStatement Atom)) (claimsType : SubjectClaimsType) :
    List (SubjectClaims Atom) :=
  statement.filterMap fun stmt =>
    match stmt with
    | .id statement =>
        some
          { source := claimsType.source
            statements := statement.statement
            issuers := statement.idCredIdps.map fun idp => ⟨network, idp.id⟩ }
    | _ => none

structure Context where
  nonce : Bytes
  connectionId : String
  resourceId : String
  deriving DecidableEq, Repr

def createSimpleContext (nonce : Bytes) : Context :=
  ⟨nonce, "Example Connection ID", "Example Resource ID"⟩

/-- An anchor commits to the context and the claims. -/
structure Anchor (Atom : Type) where
  context : Context
  subjectClaims : List (SubjectClaims Atom)
  publicInfo : Option String
  deriving DecidableEq, Repr

/-- The hash of a transaction identifies it, as its place in the chain does. -/
structure TransactionHash where
  place : Nat
  deriving DecidableEq, Repr

structure VerificationRequest (Atom : Type) where
  context : Context
  subjectClaims : List (SubjectClaims Atom)
  anchorTransactionHash : TransactionHash
  deriving DecidableEq, Repr

inductive WalletProvider where
  | browserWallet (connectedAccount : Option String)
  | walletConnect
  deriving DecidableEq, Repr

/-- The state of the component. The nonce is drawn once. -/
structure Explorer (Atom : Type) where
  builder : Builder Atom
  provider : Option WalletProvider
  nonce : Bytes
  withPublicInfo : Bool
  claimsType : SubjectClaimsType
  anchorTransactionHash : Option TransactionHash
  deriving DecidableEq, Repr

def Explorer.loaded (nonce : Bytes) : Explorer Atom where
  builder := Builder.loaded
  provider := none
  nonce := nonce
  withPublicInfo := false
  claimsType := .accountOrIdentityClaims
  anchorTransactionHash := none

/-- A submission is computed from the values of its press. -/
structure Submission (Atom : Type) where
  statements : List (TopLevelStatement Atom)
  claimsType : SubjectClaimsType
  context : Context
  withPublicInfo : Bool
  deriving DecidableEq, Repr

def Submission.anchor (submission : Submission Atom) : Anchor Atom where
  context := submission.context
  subjectClaims := getSubjectClaims submission.statements submission.claimsType
  publicInfo := if submission.withPublicInfo then some "public info" else none

/-- Only the browser wallet sends the transaction, and only from a connected account. -/
def WalletProvider.sendRegisterDataTransaction : WalletProvider → Except String Unit
  | .browserWallet connectedAccount =>
      if connectedAccount.getD "" ≠ "" then .ok ()
      else .error "Error sending transaction: No connected account to send transaction."
  | .walletConnect =>
      .error ("Error sending transaction: Connect to the browser wallet to send the anchor " ++
        "transaction on-chain (simulates the merchant backend). \n                For the " ++
        "\"prove\" button below, meaning generating the identity proof, you can switch/connect " ++
        "the mobile wallet, IdApp or browser wallet.")

def createAnchorAndSubmitService (provider : WalletProvider) (submission : Submission Atom) :
    Except String (Submission Atom) := do
  if submission.statements.isEmpty then
    throw ("Create the statement in the column on the left before submitting the anchor " ++
      "transaction.")
  provider.sendRegisterDataTransaction
  return submission

/-- The request is made before the wallet is asked for the proof. -/
def submitProof (statements : List (TopLevelStatement Atom)) (claimsType : SubjectClaimsType)
    (context : Context) (anchorTransactionHash : Option TransactionHash) :
    Except String (VerificationRequest Atom) :=
  if statements.isEmpty then
    .error ("Create the statement in the column on the left and submit the anchor transaction " ++
      "first.")
  else
    match anchorTransactionHash with
    | none => .error "Submit an anchor transaction first."
    | some hash => .ok ⟨context, getSubjectClaims statements claimsType, hash⟩

/-- The wallet has the submissions that it has not answered, and the chain has the anchors of those
that were sent. -/
structure Session (Atom : Type) where
  explorer : Explorer Atom
  pending : List (Submission Atom)
  chain : List (Submission Atom)
  deriving DecidableEq, Repr

def Session.loaded (nonce : Bytes) : Session Atom := ⟨Explorer.loaded nonce, [], []⟩

inductive Event (Atom : Type) where
  | edit (edit : Edit Atom)
  | setProvider (provider : WalletProvider)
  | setWithPublicInfo (withPublicInfo : Bool)
  | setClaimsType (claimsType : SubjectClaimsType)
  | createAnchorAndSubmit
  /-- The wallet sends one of the transactions, or gives it up. -/
  | answer (index : Nat) (sent : Bool)
  | proveV1
  deriving DecidableEq, Repr

namespace Session

/-- The hash is forgotten when a new anchor is submitted. -/
def createAnchorAndSubmit (session : Session Atom) : Session Atom :=
  match session.explorer.provider with
  | none => session
  | some provider =>
      let explorer := { session.explorer with anchorTransactionHash := none }
      match createAnchorAndSubmitService provider
          { statements := explorer.builder.statement
            claimsType := explorer.claimsType
            context := createSimpleContext explorer.nonce
            withPublicInfo := explorer.withPublicInfo } with
      | .error _ => { session with explorer := explorer }
      | .ok submission =>
          { session with explorer := explorer, pending := session.pending ++ [submission] }

/-- A transaction that is sent goes to the end of the chain. -/
def answer (session : Session Atom) (index : Nat) (sent : Bool) : Session Atom :=
  match session.pending[index]? with
  | none => session
  | some submission =>
      let pending := session.pending.eraseIdx index
      if sent then
        { explorer :=
            { session.explorer with anchorTransactionHash := some ⟨session.chain.length⟩ }
          pending := pending
          chain := session.chain ++ [submission] }
      else { session with pending := pending }

def step (session : Session Atom) : Event Atom → Session Atom
  | .edit edit =>
      { session with
        explorer := { session.explorer with builder := session.explorer.builder.edit edit } }
  | .setProvider provider =>
      { session with explorer := { session.explorer with provider := some provider } }
  | .setWithPublicInfo withPublicInfo =>
      { session with explorer := { session.explorer with withPublicInfo := withPublicInfo } }
  | .setClaimsType claimsType =>
      { session with explorer := { session.explorer with claimsType := claimsType } }
  | .createAnchorAndSubmit => session.createAnchorAndSubmit
  | .answer index sent => session.answer index sent
  | .proveV1 => session

/-- The button is shown when a wallet is connected. -/
def proveV1 (session : Session Atom) : Option (Except String (VerificationRequest Atom)) :=
  session.explorer.provider.map fun _ =>
    submitProof session.explorer.builder.statement session.explorer.claimsType
      (createSimpleContext session.explorer.nonce) session.explorer.anchorTransactionHash

end Session

end Web3Id.ProofExplorer
