import Web3Id.Construction.SomeVerifier.Database

/-
This file runs the transactions of the database one after the other.
-/

namespace Web3Id.SomeVerifier

open Library

/-- The sequence of the ids is not part of the transaction. -/
structure Db where
  tables : Tables
  sequence : Nat
  deriving DecidableEq, Repr

/-- The empty schema starts its ids at one. -/
def Db.empty : Db := ⟨.empty, 1⟩

/-- The driver reports an error for a statement that the database may still have performed. -/
structure Fault where
  error : SqlError
  performed : Bool
  deriving DecidableEq, Repr

/-- A session has the committed tables, the tables of its transaction, and the coming faults. -/
structure Session where
  committed : Tables
  working : Tables
  sequence : Nat
  faults : List (Option Fault)

namespace Session

/-- The tables of the transaction change at every statement, the committed ones at the commit. -/
def perform (session : Session) : (statement : Statement) → statement.Reply × Session
  | .connect => (.ok (), session)
  | .begin => (.ok (), { session with working := session.committed })
  | .deleteVerifications platform credId =>
      (.ok (session.working.selected platform credId),
        { session with
          working := session.working.erase (session.working.selected platform credId) })
  | .insertVerification firstName lastName presentation =>
      match session.working.insertVerification
          ⟨session.sequence, presentation, firstName, lastName⟩ with
      | .error error => (.error error, { session with sequence := session.sequence + 1 })
      | .ok tables =>
          (.ok session.sequence,
            { session with working := tables, sequence := session.sequence + 1 })
  | .insertPlatform platform row =>
      match session.working.insertPlatform platform row with
      | .error error => (.error error, session)
      | .ok inserted => (.ok inserted.1, { session with working := inserted.2 })
  | .commit => (.ok (), { session with committed := session.working })
  | .rollback => (.ok (), { session with working := session.committed })

/-- A faulty statement reports its error; it has no effect, or only its answer is lost. -/
def answer (session : Session) (statement : Statement) : statement.Reply × Session :=
  match session.faults with
  | [] => session.perform statement
  | none :: faults => { session with faults := faults }.perform statement
  | some fault :: faults =>
      let session := { session with faults := faults }
      (.error fault.error, if fault.performed then (session.perform statement).2 else session)

end Session

/-- A call starts from the committed tables and leaves only what it has committed. -/
def Db.run {A : Type} (db : Db) (faults : List (Option Fault)) (program : DbProgram A) :
    Except SqlError A × Db :=
  let outcome := program.run Session.answer ⟨db.tables, db.tables, db.sequence, faults⟩
  (outcome.1, ⟨outcome.2.committed, outcome.2.sequence⟩)

end Web3Id.SomeVerifier
