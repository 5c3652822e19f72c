import Mathlib.Data.Fintype.Basic
import Web3Id.Construction.SomeVerifier.Session
import Web3Id.Library.SerialLog

/-
This file runs the transactions of the database concurrently, statement by statement, at the
isolation level READ COMMITTED.
-/

namespace Web3Id.SomeVerifier

open Library

/-- A call of one of the two methods that change the database. -/
inductive Call where
  | add (entry : VerificationsEntry)
  | remove (credId : CredentialHolderId) (platform : Platform)
  deriving DecidableEq, Repr

inductive CallResult where
  | added (clash : Option String)
  | removed (found : Bool)
  deriving DecidableEq, Repr

/-- The result of a program is labelled by its method. -/
def label {A : Type} (toResult : A → CallResult) (program : DbProgram A) : DbProgram CallResult :=
  program.bind fun result => .pure (result.map toResult)

def Call.program : Call → DbProgram CallResult
  | .add entry => label .added (addVerification entry)
  | .remove credId platform => label .removed (removeVerification credId platform)

/--
A transaction has its remaining program and its uncommitted changes.
The target holds the rows that a running deletion has selected, and the lookups are the credentials
that its deletions have looked for.
-/
structure Transaction where
  program : DbProgram CallResult
  deleted : List Nat
  inserted : List VerificationRow
  rows : List (Platform × PlatformRow)
  target : Option (List Nat)
  lookups : List (Platform × BitVec 256)

namespace Transaction

def start (call : Call) : Transaction := ⟨call.program, [], [], [], none, []⟩

/-- The transaction sees the committed tables with its own changes. -/
def view (tx : Transaction) (committed : Tables) : Tables :=
  tx.rows.foldl (fun tables row => tables.appendPlatform row.2 row.1)
    (tx.inserted.foldl Tables.appendVerification (committed.erase tx.deleted))

/-- The transaction goes on with a program, and drops its changes when the program has ended. -/
def resume (tx : Transaction) : DbProgram CallResult → Transaction
  | .pure result => ⟨.pure result, [], [], [], none, []⟩
  | program => { tx with program := program }

/-- The deletion has selected these rows in the snapshot of its statement. -/
def look (tx : Transaction) (platform : Platform) (credId : BitVec 256) (ids : List Nat) :
    Transaction :=
  { tx with target := some ids, lookups := tx.lookups ++ [(platform, credId)] }

/-- The deletion removes the selected rows that are still there. -/
def delete (tx : Transaction) (ids : List Nat) : Transaction :=
  { tx with
    deleted := tx.deleted ++ ids
    inserted := tx.inserted.filter fun row => row.id ∉ ids
    rows := tx.rows.filter fun row => Tables.keeps ids row.2
    target := none }

def insertVerification (tx : Transaction) (row : VerificationRow) : Transaction :=
  { tx with inserted := tx.inserted ++ [row] }

def insertPlatform (tx : Transaction) (platform : Platform) (row : PlatformRow) : Transaction :=
  { tx with rows := tx.rows ++ [(platform, row)] }

/-- The changes end with the commit or the rollback. -/
def release (tx : Transaction) : Transaction := { tx with deleted := [], inserted := [], rows := [] }

/-- The transaction has an uncommitted change of a row of the platform that passes the test. -/
def touches (tx : Transaction) (committed : Tables) (platform : Platform)
    (test : PlatformRow → Bool) : Bool :=
  (tx.rows.any fun row => row.1 = platform ∧ test row.2) ||
    (committed.platform platform).any fun row => test row && !Tables.keeps tx.deleted row

/-- A transaction without changes, or one that is rolled back or has ended, has its answer. -/
def decided (tx : Transaction) : Bool :=
  match tx.program with
  | .pure _ => true
  | .call .rollback _ => true
  | .call .commit _ => tx.deleted.isEmpty && tx.inserted.isEmpty && tx.rows.isEmpty
  | _ => false

end Transaction

/-- The concurrent calls share the committed tables and the sequence. -/
structure System (n : Nat) where
  committed : Tables
  sequence : Nat
  txs : Fin n → Transaction

namespace System

variable {n : Nat}

def start (db : Db) (calls : Fin n → Call) : System n :=
  ⟨db.tables, db.sequence, fun i => .start (calls i)⟩

def set (system : System n) (i : Fin n) (tx : Transaction) : System n :=
  { system with txs := Function.update system.txs i tx }

/-- Another transaction holds one of these verifications. -/
def locked (system : System n) (i : Fin n) (ids : List Nat) : Bool :=
  decide (∃ j, j ≠ i ∧ (system.txs j).deleted.any fun id => id ∈ ids)

/-- Another transaction holds a key that passes the test. -/
def held (system : System n) (i : Fin n) (platform : Platform) (test : PlatformRow → Bool) : Bool :=
  decide (∃ j, j ≠ i ∧ (system.txs j).touches system.committed platform test)

/--
One statement of a transaction, or nothing when it must wait for another transaction.
A deletion selects its rows in the snapshot of its start, and ends at once when there are none; else
it waits for the rows that another transaction is deleting, and skips those that have disappeared.
An insertion waits for the uncommitted changes of a conflicting key.
-/
def perform (system : System n) (i : Fin n) : DbProgram CallResult → Option (System n)
  | .pure _ => none
  | .call .connect next => some (system.set i ((system.txs i).resume (next (.ok ()))))
  | .call .begin next => some (system.set i ((system.txs i).resume (next (.ok ()))))
  | .call (.deleteVerifications platform credId) next =>
      let tx := system.txs i
      let view := tx.view system.committed
      match tx.target with
      | none =>
          let looking := tx.look platform credId (view.selected platform credId)
          if (view.selected platform credId).isEmpty then
            some (system.set i ((looking.delete []).resume (next (.ok []))))
          else some (system.set i looking)
      | some ids =>
          if system.locked i ids then none
          else
            let present := ids.filter fun id => id ∈ view.verifications.map VerificationRow.id
            some (system.set i ((tx.delete present).resume (next (.ok present))))
  | .call (.insertVerification firstName lastName presentation) next =>
      let tx := system.txs i
      let row := ⟨system.sequence, presentation, firstName, lastName⟩
      let drawn := { system with sequence := system.sequence + 1 }
      match (tx.view system.committed).insertVerification row with
      | .error error => some (drawn.set i (tx.resume (next (.error error))))
      | .ok _ => some (drawn.set i ((tx.insertVerification row).resume (next (.ok row.id))))
  | .call (.insertPlatform platform row) next =>
      let tx := system.txs i
      let view := tx.view system.committed
      if system.held i platform (·.id = row.id) then none
      else if (view.platform platform).any (·.id = row.id) then
        some (system.set i (tx.resume (next (.ok none))))
      else if system.held i platform (·.credId = row.credId) ||
          system.held i platform (·.verificationId = row.verificationId) ||
          system.locked i row.verificationId.toList then none
      else
        match view.insertPlatform platform row with
        | .error error => some (system.set i (tx.resume (next (.error error))))
        | .ok inserted =>
            some (system.set i ((tx.insertPlatform platform row).resume (next (.ok inserted.1))))
  | .call .commit next =>
      some ({ system with committed := (system.txs i).view system.committed }.set i
        ((system.txs i).release.resume (next (.ok ()))))
  | .call .rollback next =>
      some (system.set i ((system.txs i).release.resume (next (.ok ()))))

/-- A step runs the next statement of one of the transactions. -/
def step (system : System n) (i : Fin n) : Option (System n) :=
  system.perform i (system.txs i).program

/-- A transaction fails with an error, and its changes are dropped. -/
def abort (system : System n) (i : Fin n) (error : SqlError) : System n :=
  system.set i ((system.txs i).resume (.pure (.error error)))

/-- One of the transactions runs its next statement, or fails. -/
inductive Moves (system : System n) (i : Fin n) : System n → Prop
  | performs {after : System n} (stepped : system.step i = some after) : Moves system i after
  | fails (error : SqlError) : Moves system i (system.abort i error)

/-- All calls have returned. -/
def Complete (system : System n) : Prop :=
  ∀ i, ∃ result, (system.txs i).program = .pure result

/--
A commit is undisturbed when no other call that has yet to decide its answer has already looked for
a credential that the committed rows have.
-/
def Undisturbed (system : System n) (i : Fin n) : Prop :=
  ∀ next, (system.txs i).program = .call .commit next →
    ∀ j, j ≠ i → (system.txs j).decided = false →
      ∀ row ∈ (system.txs i).rows, (row.1, row.2.credId) ∉ (system.txs j).lookups

instance (system : System n) (i : Fin n) : Decidable (system.Undisturbed i) :=
  match committing : (system.txs i).program with
  | .call .commit next =>
      decidable_of_iff
        (∀ j, j ≠ i → (system.txs j).decided = false →
          ∀ row ∈ (system.txs i).rows, (row.1, row.2.credId) ∉ (system.txs j).lookups)
        ⟨fun holds _ _ => holds, fun holds => holds next committing⟩
  | .pure _ => .isTrue fun _ same => nomatch committing.symm.trans same
  | .call .connect _ => .isTrue fun _ same => nomatch committing.symm.trans same
  | .call .begin _ => .isTrue fun _ same => nomatch committing.symm.trans same
  | .call (.deleteVerifications _ _) _ => .isTrue fun _ same => nomatch committing.symm.trans same
  | .call (.insertVerification _ _ _) _ => .isTrue fun _ same => nomatch committing.symm.trans same
  | .call (.insertPlatform _ _) _ => .isTrue fun _ same => nomatch committing.symm.trans same
  | .call .rollback _ => .isTrue fun _ same => nomatch committing.symm.trans same

/-- The result of a call that has returned. -/
def result (system : System n) (i : Fin n) : Option (Except SqlError CallResult) :=
  match (system.txs i).program with
  | .pure result => some result
  | .call _ _ => none

end System

/-- Run alone on the tables, with the drawn id, the call gives the answer and leaves the tables. -/
def Serves {n : Nat} (calls : Fin n → Call) (entry : Entry (Fin n) (Option Nat) CallResult)
    (tables after : Tables) : Prop :=
  let outcome := (Db.mk tables (entry.choice.getD 0)).run [] (calls entry.caller).program
  outcome.1 = .ok entry.answer ∧ outcome.2.tables = after

/--
The results and the tables are those of the calls one after the other in some order, with ids that
the sequence hands out once.
-/
def Serializable {n : Nat} (db : Db) (calls : Fin n → Call) (last : System n) : Prop :=
  ∃ log : List (Entry (Fin n) (Option Nat) CallResult),
    Serial (Serves calls) db.tables log last.committed ∧
    (∀ i, ∃ entry ∈ log, entry.caller = i ∧ (last.txs i).program = .pure (.ok entry.answer)) ∧
    (log.filterMap Entry.choice).Nodup ∧
    ∀ id ∈ log.filterMap Entry.choice, db.sequence ≤ id ∧ id < last.sequence

/--
The calls before were made one after the other with any faults, or concurrently with any failures
up to any moment.
-/
inductive Db.Reachable : Db → Prop
  | empty : Reachable .empty
  | call {db : Db} (before : Reachable db) (call : Call) (faults : List (Option Fault)) :
      Reachable (db.run faults call.program).2
  | concurrent {db : Db} {n : Nat} {calls : Fin n → Call} {schedule : List (Fin n)}
      {last : System n} (before : Reachable db)
      (run : Execution System.Moves (System.start db calls) schedule last) :
      Reachable ⟨last.committed, last.sequence⟩

end Web3Id.SomeVerifier
