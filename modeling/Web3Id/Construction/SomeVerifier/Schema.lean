import Web3Id.Construction.Chain

/-
This file is the database schema of the social media verifier: its tables, their constraints, and
the effect of each SQL statement on them.
-/

namespace Web3Id.SomeVerifier

inductive Platform where
  | telegram
  | discord
  deriving DecidableEq, Repr

def Platform.supportedPlatforms : List Platform := [.telegram, .discord]

structure FullName where
  firstName : String
  lastName : String
  deriving DecidableEq, Repr

/-- A row of `verifications` keeps the presentation as JSON. -/
structure VerificationRow where
  id : Nat
  presentation : Bytes
  firstName : Option String
  lastName : Option String
  deriving DecidableEq, Repr

/-- A row of `telegram` or `discord` keeps the public key of the credential holder. -/
structure PlatformRow where
  id : String
  credId : BitVec 256
  verificationId : Option Nat
  username : String
  deriving DecidableEq, Repr

structure Tables where
  verifications : List VerificationRow
  discord : List PlatformRow
  telegram : List PlatformRow
  deriving DecidableEq, Repr

inductive SqlError where
  | connection
  | uniqueViolation (column : String)
  | foreignKeyViolation
  | checkViolation
  | rowCount
  deriving DecidableEq, Repr

namespace Tables

def empty : Tables := ⟨[], [], []⟩

def platform (tables : Tables) : Platform → List PlatformRow
  | .telegram => tables.telegram
  | .discord => tables.discord

/-- The row survives the deletion of these verifications. -/
def keeps (ids : List Nat) (row : PlatformRow) : Bool :=
  match row.verificationId with
  | none => true
  | some id => id ∉ ids

/-- The deletion of verifications cascades to the rows that refer to them. -/
def erase (tables : Tables) (ids : List Nat) : Tables where
  verifications := tables.verifications.filter fun row => row.id ∉ ids
  discord := tables.discord.filter (keeps ids)
  telegram := tables.telegram.filter (keeps ids)

/-- The sub-select lists the verifications of a credential on a platform. -/
def owners (tables : Tables) (platform : Platform) (credId : BitVec 256) : List Nat :=
  ((tables.platform platform).filter fun row => row.credId = credId).filterMap
    PlatformRow.verificationId

/-- The condition of the deletion selects these verifications. -/
def selected (tables : Tables) (platform : Platform) (credId : BitVec 256) : List Nat :=
  (tables.verifications.map VerificationRow.id).filter fun id =>
    id ∈ tables.owners platform credId

def appendVerification (tables : Tables) (row : VerificationRow) : Tables where
  verifications := tables.verifications ++ [row]
  discord := tables.discord
  telegram := tables.telegram

/-- The row goes to the table of its platform. -/
def appendPlatform (tables : Tables) (row : PlatformRow) : Platform → Tables
  | .telegram => ⟨tables.verifications, tables.discord, tables.telegram ++ [row]⟩
  | .discord => ⟨tables.verifications, tables.discord ++ [row], tables.telegram⟩

/-- The first name is set if and only if the last name is set. -/
def insertVerification (tables : Tables) (row : VerificationRow) : Except SqlError Tables :=
  if row.firstName.isSome = row.lastName.isSome then .ok (tables.appendVerification row)
  else .error .checkViolation

/--
A conflict on the primary key does nothing and returns no row.
The other unique columns and the foreign key report an error.
-/
def insertPlatform (tables : Tables) (platform : Platform) (row : PlatformRow) :
    Except SqlError (Option String × Tables) :=
  if (tables.platform platform).any (·.id = row.id) then .ok (none, tables)
  else if (tables.platform platform).any (·.credId = row.credId) then
    .error (.uniqueViolation "cred_id")
  else if row.verificationId.isSome ∧
      (tables.platform platform).any (·.verificationId = row.verificationId) then
    .error (.uniqueViolation "verification_id")
  else if ∃ id ∈ row.verificationId, id ∉ tables.verifications.map VerificationRow.id then
    .error .foreignKeyViolation
  else .ok (some row.id, tables.appendPlatform row platform)

@[simp] theorem erase_platform (tables : Tables) (ids : List Nat) (platform : Platform) :
    (tables.erase ids).platform platform = (tables.platform platform).filter (keeps ids) := by
  cases platform <;> rfl

@[simp] theorem appendVerification_platform (tables : Tables) (row : VerificationRow)
    (platform : Platform) :
    (tables.appendVerification row).platform platform = tables.platform platform := by
  cases platform <;> rfl

@[simp] theorem appendPlatform_verifications (tables : Tables) (row : PlatformRow)
    (platform : Platform) :
    (tables.appendPlatform row platform).verifications = tables.verifications := by
  cases platform <;> rfl

@[simp] theorem appendPlatform_self (tables : Tables) (row : PlatformRow) (platform : Platform) :
    (tables.appendPlatform row platform).platform platform =
      tables.platform platform ++ [row] := by
  cases platform <;> rfl

theorem appendPlatform_other (tables : Tables) (row : PlatformRow) {platform other : Platform}
    (distinct : other ≠ platform) :
    (tables.appendPlatform row platform).platform other = tables.platform other := by
  cases platform <;> cases other <;> first | rfl | exact absurd rfl distinct

/-- Three tables make a database. -/
theorem ext_platform {one other : Tables} (verifications : one.verifications = other.verifications)
    (platforms : ∀ platform, one.platform platform = other.platform platform) : one = other := by
  obtain ⟨_, _, _⟩ := one
  obtain ⟨_, _, _⟩ := other
  cases verifications
  cases platforms .telegram
  cases platforms .discord
  rfl

theorem keeps_iff {ids : List Nat} {row : PlatformRow} :
    keeps ids row = true ↔ ∀ id ∈ row.verificationId, id ∉ ids := by
  unfold keeps
  cases row.verificationId with
  | none => simp
  | some id => simp

theorem mem_owners {tables : Tables} {platform : Platform} {credId : BitVec 256} {id : Nat} :
    id ∈ tables.owners platform credId ↔
      ∃ row ∈ tables.platform platform, row.credId = credId ∧ row.verificationId = some id := by
  simp [owners, List.mem_filterMap, and_assoc]

theorem mem_selected {tables : Tables} {platform : Platform} {credId : BitVec 256} {id : Nat} :
    id ∈ tables.selected platform credId ↔
      id ∈ tables.verifications.map VerificationRow.id ∧ id ∈ tables.owners platform credId := by
  simp [selected]

end Tables

end Web3Id.SomeVerifier
