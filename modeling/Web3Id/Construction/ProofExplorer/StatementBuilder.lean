import Web3Id.Construction.Chain

/-
This file is the statement builder of the proof explorer.
-/

namespace Web3Id.ProofExplorer

variable {Atom : Type}

inductive StatementType where
  | account
  | id
  | web3id
  deriving DecidableEq, Repr

structure IdentityProvider where
  name : String
  id : Nat
  deriving DecidableEq, Repr

structure IdentityCredentialStatement (Atom : Type) where
  idCredIdps : List IdentityProvider
  statement : List Atom
  deriving DecidableEq, Repr

structure AccountStatement (Atom : Type) where
  idps : List IdentityProvider
  statement : List Atom
  deriving DecidableEq, Repr

structure Web3IdStatement (Atom : Type) where
  issuers : List ContractAddress
  statement : List Atom
  deriving DecidableEq, Repr

inductive TopLevelStatement (Atom : Type) where
  | account (statement : AccountStatement Atom)
  | id (statement : IdentityCredentialStatement Atom)
  | web3id (statement : Web3IdStatement Atom)
  deriving DecidableEq, Repr

namespace TopLevelStatement

def type : TopLevelStatement Atom → StatementType
  | .account _ => .account
  | .id _ => .id
  | .web3id _ => .web3id

def atoms : TopLevelStatement Atom → List Atom
  | .account statement => statement.statement
  | .id statement => statement.statement
  | .web3id statement => statement.statement

/-- The new atomic statements come after the old ones. -/
def concat (a : List Atom) : TopLevelStatement Atom → TopLevelStatement Atom
  | .account statement => .account ⟨statement.idps, statement.statement ++ a⟩
  | .id statement => .id ⟨statement.idCredIdps, statement.statement ++ a⟩
  | .web3id statement => .web3id ⟨statement.issuers, statement.statement ++ a⟩

end TopLevelStatement

/-- The state of the component that the builder uses. -/
structure Builder (Atom : Type) where
  currentStatementType : Option StatementType
  lastAccount : Bool
  newStatement : Bool
  statement : List (TopLevelStatement Atom)
  deriving DecidableEq, Repr

namespace Builder

def loaded : Builder Atom := ⟨none, true, true, []⟩

/-- The column is not the one of the current statement. -/
def mixes (builder : Builder Atom) (column : StatementType) : Bool :=
  match builder.currentStatementType with
  | none => false
  | some current => current ≠ column

/-- An accepted statement is appended to the list, or joins the last of it. -/
def appends (builder : Builder Atom) (account : Bool) : Bool :=
  builder.lastAccount ≠ account || builder.newStatement || builder.statement.isEmpty

/-- The three columns differ in their type, in the flag that they share, and in the statement that
they append. -/
def addStatement (column : StatementType) (account : Bool) (fresh : TopLevelStatement Atom)
    (a : List Atom) (builder : Builder Atom) : Builder Atom :=
  if builder.mixes column then builder
  else if builder.appends account then
    { currentStatementType := some column
      lastAccount := account
      newStatement := false
      statement := builder.statement ++ [fresh] }
  else
    { builder with
      currentStatementType := some column
      statement := builder.statement.dropLast ++
        (builder.statement.getLast?.map (TopLevelStatement.concat a)).toList }

def addIdentityCredentialStatement (idps : List IdentityProvider) (a : List Atom) :
    Builder Atom → Builder Atom :=
  addStatement .id true (.id ⟨idps, a⟩) a

def addAccountStatement (idps : List IdentityProvider) (a : List Atom) :
    Builder Atom → Builder Atom :=
  addStatement .account true (.account ⟨idps, a⟩) a

def addWeb3IdStatement (issuers : List ContractAddress) (a : List Atom) :
    Builder Atom → Builder Atom :=
  addStatement .web3id false (.web3id ⟨issuers, a⟩) a

/-- The button starts a new credential statement. -/
def handleAddTopLevel (builder : Builder Atom) : Builder Atom :=
  { builder with newStatement := true, currentStatementType := none }

/-- The button clears the last credential statement. -/
def clearLast (builder : Builder Atom) : Builder Atom :=
  { builder with currentStatementType := none, statement := builder.statement.dropLast }

end Builder

/-- An add takes the identity providers or the issuers that are selected in its column. -/
inductive Edit (Atom : Type) where
  | addIdentityCredentialStatement (idps : List IdentityProvider) (a : List Atom)
  | addAccountStatement (idps : List IdentityProvider) (a : List Atom)
  | addWeb3IdStatement (issuers : List ContractAddress) (a : List Atom)
  | handleAddTopLevel
  | clearLast
  deriving DecidableEq, Repr

def Builder.edit (builder : Builder Atom) : Edit Atom → Builder Atom
  | .addIdentityCredentialStatement idps a => builder.addIdentityCredentialStatement idps a
  | .addAccountStatement idps a => builder.addAccountStatement idps a
  | .addWeb3IdStatement issuers a => builder.addWeb3IdStatement issuers a
  | .handleAddTopLevel => builder.handleAddTopLevel
  | .clearLast => builder.clearLast

end Web3Id.ProofExplorer
