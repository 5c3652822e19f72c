import Web3Id.Construction.Presentation
import Web3Id.Construction.SomeVerifier.Schema

/-
This file is the database access of the social media verifier: the transactions that add and remove
verifications, and the query for one account.
-/

namespace Web3Id.SomeVerifier

open Library

/-- The verifier also stores presentations as JSON and hashes timestamps. -/
structure Sdk extends PresentationSdk where
  toValue : Presentation → Bytes
  fromValue : Bytes → Option Presentation
  toRfc3339Millis : DateTime → String
  sha256 : String → Bytes

structure PlatformEntry where
  id : String
  credId : CredentialHolderId
  username : String
  deriving DecidableEq, Repr

structure VerificationsEntry where
  telegram : Option PlatformEntry
  discord : Option PlatformEntry
  presentation : Bytes
  fullName : Option FullName
  deriving DecidableEq, Repr

def VerificationsEntry.platformEntry (entry : VerificationsEntry) : Platform → Option PlatformEntry
  | .telegram => entry.telegram
  | .discord => entry.discord

def VerificationsEntry.fromPresentation (sdk : Sdk) (proof : Presentation) : VerificationsEntry where
  telegram := none
  discord := none
  presentation := sdk.toValue proof
  fullName := none

/-- The calls of one transaction, from the connection of the pool to its end. -/
inductive Statement where
  | connect
  | begin
  | deleteVerifications (platform : Platform) (credId : BitVec 256)
  | insertVerification (firstName lastName : Option String) (presentation : Bytes)
  | insertPlatform (platform : Platform) (row : PlatformRow)
  | commit
  | rollback
  deriving DecidableEq, Repr

/-- A deletion returns the deleted ids, and an insertion the inserted id. -/
abbrev Statement.Result : Statement → Type
  | .deleteVerifications _ _ => List Nat
  | .insertVerification _ _ _ => Nat
  | .insertPlatform _ _ => Option String
  | _ => Unit

abbrev Statement.Reply (statement : Statement) : Type := Except SqlError statement.Result

abbrev DbProgram (A : Type) := Program Statement Statement.Reply (Except SqlError A)

/-- A statement that fails ends the call with its error. -/
def execute {A : Type} (statement : Statement) (next : statement.Result → DbProgram A) :
    DbProgram A :=
  .call statement fun
    | .ok result => next result
    | .error error => .pure (.error error)

def PlatformEntry.row (entry : PlatformEntry) (verificationId : Nat) : PlatformRow where
  id := entry.id
  credId := entry.credId.publicKey
  verificationId := some verificationId
  username := entry.username

/-- An existing entry returns its user id. -/
def addPlatformEntry {A : Type} (platform : Platform) (entry : PlatformEntry)
    (verificationId : Nat) (next : Option String → DbProgram A) : DbProgram A :=
  execute (.insertPlatform platform (entry.row verificationId)) fun
    | some _ => next none
    | none => next (some entry.id)

/-- The loop clears the verifications with overlapping credentials. -/
def VerificationsEntry.clear {A : Type} (entry : VerificationsEntry) :
    List Platform → DbProgram A → DbProgram A
  | [], next => next
  | platform :: platforms, next =>
      match entry.platformEntry platform with
      | none => entry.clear platforms next
      | some slot => execute (.deleteVerifications platform slot.credId.publicKey) fun _ =>
          entry.clear platforms next

/-- A clash rolls the transaction back. -/
def refuse (userId : String) : DbProgram (Option String) :=
  execute .rollback fun _ => .pure (.ok (some userId))

def accept : DbProgram (Option String) := execute .commit fun _ => .pure (.ok none)

/-- An entry for the platform is inserted, or the call is refused with the clashing id. -/
def insertSlot (platform : Platform) (slot : Option PlatformEntry) (verificationId : Nat)
    (next : DbProgram (Option String)) : DbProgram (Option String) :=
  match slot with
  | none => next
  | some entry => addPlatformEntry platform entry verificationId fun
      | some userId => refuse userId
      | none => next

def addVerification (entry : VerificationsEntry) : DbProgram (Option String) :=
  execute .connect fun _ =>
  execute .begin fun _ =>
  entry.clear Platform.supportedPlatforms <|
  execute (.insertVerification (entry.fullName.map FullName.firstName)
    (entry.fullName.map FullName.lastName) entry.presentation) fun verificationId =>
  insertSlot .telegram entry.telegram verificationId <|
  insertSlot .discord entry.discord verificationId <|
  accept

/-- The query returns an error when more than one row was deleted. -/
def removeVerification (credId : CredentialHolderId) (platform : Platform) : DbProgram Bool :=
  execute .connect fun _ =>
  execute .begin fun _ =>
  execute (.deleteVerifications platform credId.publicKey) fun ids =>
  if 1 < ids.length then .pure (.error .rowCount)
  else execute .commit fun _ => .pure (.ok !ids.isEmpty)

structure DbAccount where
  platform : Platform
  id : String
  username : String
  deriving DecidableEq, Repr

structure DbVerification where
  accounts : List DbAccount
  fullName : Option FullName
  presentation : Presentation
  deriving DecidableEq, Repr

inductive ReadError where
  | rowCount
  | nullColumn
  | deserialization
  deriving DecidableEq, Repr

/-- A query for an optional row fails for two rows. -/
def queryOpt {Row : Type} : List Row → Except ReadError (Option Row)
  | [] => .ok none
  | [row] => .ok (some row)
  | _ => .error .rowCount

def tryGet {A : Type} : Option A → Except ReadError A
  | some value => .ok value
  | none => .error .nullColumn

def PlatformRow.account (row : PlatformRow) (platform : Platform) : DbAccount where
  platform := platform
  id := row.id
  username := row.username

def VerificationRow.fullName (row : VerificationRow) : Except ReadError (Option FullName) :=
  match row.firstName with
  | none => .ok none
  | some firstName =>
      match tryGet row.lastName with
      | .error e => .error e
      | .ok lastName => .ok (some ⟨firstName, lastName⟩)

/-- The loop collects the accounts of the other platforms. -/
def Tables.otherAccounts (tables : Tables) (verificationId : Nat) (platform : Platform) :
    List Platform → Except ReadError (List DbAccount)
  | [] => .ok []
  | p :: platforms =>
      if p = platform then tables.otherAccounts verificationId platform platforms
      else
        match queryOpt ((tables.platform p).filter (·.verificationId = some verificationId)) with
        | .error e => .error e
        | .ok none => tables.otherAccounts verificationId platform platforms
        | .ok (some row) =>
            match tables.otherAccounts verificationId platform platforms with
            | .error e => .error e
            | .ok accounts => .ok (row.account p :: accounts)

/-- The query reads one snapshot of the tables. -/
def getVerification (sdk : Sdk) (tables : Tables) (id : String) (platform : Platform) :
    Except ReadError (Option DbVerification) :=
  match queryOpt ((tables.platform platform).filter (·.id = id)) with
  | .error e => .error e
  | .ok none => .ok none
  | .ok (some platformRow) =>
      match tryGet platformRow.verificationId with
      | .error e => .error e
      | .ok verId =>
          match queryOpt (tables.verifications.filter (·.id = verId)) with
          | .error e => .error e
          | .ok none => .ok none
          | .ok (some nameRow) =>
              match nameRow.fullName with
              | .error e => .error e
              | .ok fullName =>
                  match tables.otherAccounts verId platform Platform.supportedPlatforms with
                  | .error e => .error e
                  | .ok others =>
                      match sdk.fromValue nameRow.presentation with
                      | none => .error .deserialization
                      | some presentation =>
                          .ok (some ⟨platformRow.account platform :: others, fullName,
                            presentation⟩)

end Web3Id.SomeVerifier
