import Web3Id.Proof.SomeVerifier.AddSteps
import Web3Id.Proof.SomeVerifier.RemoveSteps

namespace Web3Id.SomeVerifier

open Library

/-- The first statement after the beginning is a deletion, or the insertion of the verification. -/
theorem Stage.body (call : Call) : Stage call none ⟨call.body, [], [], [], none, []⟩ := by
  cases call with
  | add entry => exact @Stage.clearing entry [] entry.slots [] rfl
  | remove credId platform => exact .seeking

namespace SerialInvariant

variable {n : Nat} {db : Db} {calls : Fin n → Call} {system after : System n}
  {log : List (Entry (Fin n) (Option Nat) CallResult)} {i : Fin n} {tx : Transaction}

/-- A call without changes goes on. -/
theorem proceed (inv : SerialInvariant db calls system log) (new : answerTo log i = none)
    {program : DbProgram CallResult}
    (stage : Stage (calls i) none ⟨program, [], [], [], none, []⟩) :
    SerialInvariant db calls (system.set i ⟨program, [], [], [], none, []⟩) log :=
  inv.update (Nat.le_refl _) (inv.valid.drop _ _) (new ▸ stage) (fun _ => .nothing _) (by simp)

/-- Every undisturbed step keeps the invariant, and may add its call to the log. -/
theorem step (inv : SerialInvariant db calls system log) (stepped : system.step i = some after)
    (undisturbed : system.Undisturbed i) : ∃ later, SerialInvariant db calls after later := by
  have stage := inv.stage i
  generalize call : calls i = c, answer : answerTo log i = a, found : system.txs i = tx at stage
  rw [System.step, found] at stepped
  rw [System.Undisturbed, found] at undisturbed
  cases stage with
  | connecting =>
      rw [Transaction.start, c.program_eq] at stepped
      simp only [System.perform, execute, found] at stepped
      cases Option.some.inj stepped
      exact ⟨log, inv.proceed answer (call ▸ .beginning c)⟩
  | beginning =>
      simp only [System.perform, execute, found, Transaction.resume_body] at stepped
      cases Option.some.inj stepped
      exact ⟨log, inv.proceed answer (call ▸ .body c)⟩
  | @clearing entry done rest deleted slots =>
      cases rest with
      | nil =>
          rw [List.append_nil] at slots
          subst slots
          exact ⟨log, inv.insertVerification answer call found stepped⟩
      | cons slot rest => exact ⟨log, inv.lookSlot answer call slots found stepped⟩
  | deleting slots => exact ⟨log, inv.deleteSlot answer call slots found stepped⟩
  | @inserting entry done rest deleted id slots =>
      cases rest with
      | nil =>
          rw [List.append_nil] at slots
          subst slots
          cases Option.some.inj stepped
          refine ⟨_, inv.commitEntry answer call found ?_⟩
          rw [found]
          exact undisturbed _ rfl
      | cons slot rest => exact inv.performSlot answer call slots found stepped
  | refusing =>
      cases Option.some.inj stepped
      exact ⟨log, inv.finish answer⟩
  | seeking => exact inv.seek answer call found stepped
  | finding atMostOne => exact inv.find answer call atMostOne found stepped
  | removing nonempty =>
      cases Option.some.inj stepped
      exact ⟨_, inv.commitRemoval answer call nonempty found⟩
  | missing =>
      cases Option.some.inj stepped
      rw [found, Transaction.view, Tables.erase_nil]
      exact ⟨log, inv.finish answer⟩
  | finished result => cases stepped

/-- An undisturbed run keeps the invariant, with some log. -/
theorem run {first last : System n} {schedule : List (Fin n)}
    (steps : Execution (fun system i after => system.Undisturbed i ∧ system.step i = some after)
      first schedule last)
    (start : ∃ log, SerialInvariant db calls first log) :
    ∃ log, SerialInvariant db calls last log := by
  have preserved : ∀ (system : System n) (i : Fin n) (after : System n),
      (∃ log, SerialInvariant db calls system log) →
      (system.Undisturbed i ∧ system.step i = some after) →
      ∃ log, SerialInvariant db calls after log := by
    rintro system i after ⟨log, inv⟩ ⟨undisturbed, stepped⟩
    exact inv.step stepped undisturbed
  exact steps.invariant preserved start

end SerialInvariant

/--
Concurrent calls in any committed state that the database can reach are equivalent to a serial order
of them, when every commit in their run is undisturbed.
-/
theorem someVerifier_concurrentCalls (db : Db) (reachable : db.Reachable) {n : Nat}
    (calls : Fin n → Call) (schedule : List (Fin n)) (last : System n)
    (run : Execution (fun system i after => system.Undisturbed i ∧ system.step i = some after)
      (System.start db calls) schedule last) (complete : last.Complete) :
    Serializable db calls last := by
  obtain ⟨log, inv⟩ := SerialInvariant.run run ⟨[], .start reachable.consistent calls⟩
  exact inv.serializable complete

theorem System.complete_of_result {n : Nat} {system : System n}
    (returned : ∀ i, (system.result i).isSome = true) : system.Complete := by
  intro i
  have some_ := returned i
  unfold System.result at some_
  split at some_
  · exact ⟨_, by assumption⟩
  · nomatch some_

/-- The entry of one Telegram account with a credential. -/
def sampleEntry (id : String) (publicKey : BitVec 256) : VerificationsEntry where
  telegram := some ⟨id, ⟨publicKey⟩, "name"⟩
  discord := none
  presentation := [0]
  fullName := some ⟨"First", "Last"⟩

/-- A known account is submitted again while another account is submitted. -/
def sampleCalls : Fin 2 → Call
  | 0 => .add (sampleEntry "42" 7)
  | 1 => .add (sampleEntry "43" 8)

def sampleDb : Db := (Db.empty.run [] (Call.add (sampleEntry "42" 7)).program).2

/-- The statements of the two calls alternate. -/
def sampleSchedule : List (Fin 2) := [0, 1, 0, 1, 0, 1, 0, 1, 0, 1, 0, 1, 0]

/-- The sample calls return in an undisturbed run, and are serializable. -/
theorem someVerifier_concurrentCalls_sample :
    ∃ last : System 2, last.result 0 = some (.ok (.added none)) ∧
      last.result 1 = some (.ok (.added none)) ∧
      Serializable sampleDb sampleCalls last := by
  have results : (sampleSchedule.foldlM
      (fun (system : System 2) i => if system.Undisturbed i then system.step i else none)
      (System.start sampleDb sampleCalls)).map
        (fun last : System 2 => (last.result 0, last.result 1)) =
      some (some (.ok (.added none)), some (.ok (.added none))) := by decide +kernel
  obtain ⟨last, ran, both⟩ := Option.map_eq_some_iff.mp results
  obtain ⟨first, second⟩ := Prod.mk.inj both
  have run := (Execution.of_foldlM_some ran).mono fun _ _ _ performed =>
    Option.ite_none_right_eq_some.mp performed
  have complete : last.Complete := System.complete_of_result
    (Fin.forall_fin_two.mpr ⟨by rw [first]; rfl, by rw [second]; rfl⟩)
  exact ⟨last, first, second, someVerifier_concurrentCalls sampleDb (.call .empty _ [])
    sampleCalls sampleSchedule last run complete⟩

/-- A call that clears all tables adds its entry to empty tables. -/
theorem serves_cleared {n : Nat} {calls : Fin n → Call} {entry : VerificationsEntry}
    {served : Entry (Fin n) (Option Nat) CallResult} {tables after : Tables}
    (call : calls served.caller = .add entry) (cleared : tables.clear entry.slots = Tables.empty)
    (serves : Serves calls served tables after) :
    served.answer = .added none ∧ ∃ id,
      after = (Tables.empty.appendVerification (entry.row id)).install id entry.slots := by
  have vacant : ∀ platform, Tables.empty.platform platform = [] := by
    intro platform
    cases platform <;> rfl
  have fits : ((tables.clear entry.slots).appendVerification
      (entry.row (served.choice.getD 0))).Fits (served.choice.getD 0) entry.slots := by
    rw [cleared]
    exact ⟨entry.slots_distinct, by simp [vacant], by simp [vacant],
      by simp [Tables.appendVerification, VerificationsEntry.row]⟩
  have free : Tables.empty.clash entry.slots = none := by
    simp [Tables.clash, Tables.taken, vacant]
  obtain ⟨answered, left⟩ := serves
  rw [call, Call.program, Db.run_label, fits.run_addVerification, cleared, free] at answered left
  exact ⟨(Except.ok.inj answered).symm, _, left.symm⟩

/-- The sample entry overlaps with itself. -/
theorem sampleEntry_cleared (id : String) (publicKey : BitVec 256) (number : Nat) :
    ((Tables.empty.appendVerification ((sampleEntry id publicKey).row number)).install number
      (sampleEntry id publicKey).slots).clear (sampleEntry id publicKey).slots =
        Tables.empty := by
  simp [sampleEntry, VerificationsEntry.slots, VerificationsEntry.row,
    VerificationsEntry.platformEntry, Platform.supportedPlatforms, Tables.install, Tables.clear,
    Tables.selected, Tables.owners, Tables.appendVerification, Tables.appendPlatform,
    Tables.platform, Tables.erase, Tables.keeps, Tables.empty, PlatformEntry.row, Slot.credId]

/-- One after the other, all submissions of the sample entry to the empty database are accepted. -/
theorem sampleEntry_accepted {n : Nat} {id : String} {publicKey : BitVec 256}
    {log : List (Entry (Fin n) (Option Nat) CallResult)} {last : Tables}
    (replays : Execution
      (fun tables served after => Serves (fun _ => .add (sampleEntry id publicKey)) served tables after)
      Tables.empty log last) : ∀ served ∈ log, served.answer = .added none := by
  have shows : ∀ (tables : Tables) (served : Entry (Fin n) (Option Nat) CallResult) (after : Tables),
      tables.clear (sampleEntry id publicKey).slots = Tables.empty →
      Serves (fun _ => .add (sampleEntry id publicKey)) served tables after →
      served.answer = .added none ∧
        after.clear (sampleEntry id publicKey).slots = Tables.empty := by
    intro tables served after cleared serves
    obtain ⟨answered, number, rfl⟩ := serves_cleared rfl cleared serves
    exact ⟨answered, sampleEntry_cleared id publicKey number⟩
  exact replays.shown shows rfl

/-- Two concurrent submissions of the same entry are not serializable: one of them clashes. -/
theorem someVerifier_duplicateClashes :
    ¬ ∀ (db : Db), db.Reachable → ∀ (n : Nat) (calls : Fin n → Call) (schedule : List (Fin n))
      (last : System n),
      Execution (fun system i after => system.step i = some after) (System.start db calls)
        schedule last →
      last.Complete → Serializable db calls last := by
  intro serializable
  have results : (([0, 1, 0, 1, 0, 1, 0, 1, 0, 0, 1, 1] : List (Fin 2)).foldlM System.step
      (System.start Db.empty fun _ => .add (sampleEntry "42" 7))).map
        (fun last : System 2 => (last.result 0, last.result 1)) =
      some (some (.ok (.added none)), some (.ok (.added (some "42")))) := by decide +kernel
  obtain ⟨last, ran, both⟩ := Option.map_eq_some_iff.mp results
  obtain ⟨first, second⟩ := Prod.mk.inj both
  have complete : last.Complete := System.complete_of_result
    (Fin.forall_fin_two.mpr ⟨by rw [first]; rfl, by rw [second]; rfl⟩)
  obtain ⟨log, serial, returned, -⟩ :=
    serializable Db.empty .empty 2 _ _ last (Execution.of_foldlM_some ran) complete
  obtain ⟨entry, listed, caller, ended⟩ := returned 1
  have accepted := sampleEntry_accepted serial.replays entry listed
  rw [System.result, ended, accepted] at second
  nomatch second

end Web3Id.SomeVerifier
