import Web3Id.Proof.SomeVerifier.CallEffect

namespace Web3Id.SomeVerifier

open Library

/-- A program reports the error of every statement, and returns right after its commit. -/
inductive CommitsLast {A : Type} : DbProgram A → Prop
  | done (result : Except SqlError A) : CommitsLast (.pure result)
  | commit (value : A) : CommitsLast (execute .commit fun _ => .pure (.ok value))
  | statement {statement : Statement} {next : statement.Result → DbProgram A}
      (open_ : statement ≠ .commit) (rest : ∀ result, CommitsLast (next result)) :
      CommitsLast (execute statement next)

theorem clearSlots_commitsLast {A : Type} {next : DbProgram A} (rest : CommitsLast next)
    (slots : List Slot) : CommitsLast (clearSlots slots next) := by
  induction slots with
  | nil => exact rest
  | cons slot slots ih => exact .statement (by simp) fun _ => ih

theorem insertSlots_commitsLast (slots : List Slot) (id : Nat) :
    CommitsLast (insertSlots slots id) := by
  induction slots with
  | nil => exact .commit none
  | cons slot slots ih =>
      refine .statement (by simp) fun result => ?_
      cases result with
      | none => exact .statement (by simp) fun _ => .done _
      | some userId => exact ih

theorem addVerification_commitsLast (entry : VerificationsEntry) :
    CommitsLast (addVerification entry) := by
  rw [addVerification_slots]
  refine .statement (by simp) fun _ => .statement (by simp) fun _ => ?_
  apply clearSlots_commitsLast
  exact .statement (by simp) (insertSlots_commitsLast entry.slots)

theorem removeVerification_commitsLast (credId : CredentialHolderId) (platform : Platform) :
    CommitsLast (removeVerification credId platform) := by
  refine .statement (by simp) fun _ => .statement (by simp) fun _ => .statement (by simp) fun ids => ?_
  split
  · exact .done _
  · exact .commit _

namespace Session

/-- A statement does not look at the coming faults. -/
theorem perform_faults (session : Session) (faults : List (Option Fault))
    (statement : Statement) :
    { session with faults := faults }.perform statement =
      ((session.perform statement).1, { (session.perform statement).2 with faults := faults }) := by
  cases statement with
  | insertVerification | insertPlatform =>
      simp only [perform]
      split <;> rfl
  | _ => rfl

/-- Only the commit changes the committed tables. -/
theorem perform_committed (session : Session) {statement : Statement}
    (open_ : statement ≠ .commit) :
    (session.perform statement).2.committed = session.committed := by
  cases statement with
  | commit => exact absurd rfl open_
  | insertVerification | insertPlatform =>
      simp only [perform]
      split <;> rfl
  | _ => rfl

/-- The sequence never goes back. -/
theorem perform_sequence (session : Session) (statement : Statement) :
    session.sequence ≤ (session.perform statement).2.sequence := by
  cases statement with
  | insertVerification firstName lastName presentation =>
      simp only [perform]
      split <;> exact Nat.le_succ _
  | insertPlatform platform row =>
      simp only [perform]
      split <;> exact Nat.le_refl _
  | _ => exact Nat.le_refl _

/-- The call failed and left the committed tables as they were. -/
structure Aborted {A : Type} (session : Session) (outcome : Except SqlError A × Session) : Prop where
  fails : ∃ error, outcome.1 = .error error
  committed : outcome.2.committed = session.committed
  sequence : session.sequence ≤ outcome.2.sequence

/-- The result is a value, or the error of a performed fault that has lost this value. -/
inductive Hears {A : Type} (faults : List (Option Fault)) :
    Except SqlError A → Except SqlError A → Prop
  | same (result : Except SqlError A) : Hears faults result result
  | lost {fault : Fault} {value : A} (listed : some fault ∈ faults)
      (performed : fault.performed = true) : Hears faults (.error fault.error) (.ok value)

theorem Hears.mono {A : Type} {faults more : List (Option Fault)}
    {one other : Except SqlError A} (hears : Hears faults one other)
    (grows : ∀ fault ∈ faults, fault ∈ more) : Hears more one other := by
  cases hears with
  | same => exact .same _
  | lost listed performed => exact .lost (grows _ listed) performed

/-- Two outcomes differ at most in the coming faults, and in an answer that a fault has lost. -/
structure Agrees {A : Type} (faults : List (Option Fault))
    (one other : Except SqlError A × Session) : Prop where
  result : Hears faults one.1 other.1
  committed : one.2.committed = other.2.committed
  sequence : one.2.sequence = other.2.sequence

/-- An open statement that is faulty changes nothing that is committed. -/
theorem answer_fault (session : Session) {statement : Statement} {fault : Fault}
    {faults : List (Option Fault)} (listed : session.faults = some fault :: faults)
    (open_ : statement ≠ .commit) :
    (session.answer statement).1 = .error fault.error ∧
      (session.answer statement).2.committed = session.committed ∧
      session.sequence ≤ (session.answer statement).2.sequence := by
  unfold answer
  rw [listed]
  dsimp only
  split
  · exact ⟨rfl, perform_committed _ open_, perform_sequence { session with faults := faults } _⟩
  · exact ⟨rfl, rfl, Nat.le_refl _⟩

end Session

/-- A fault aborts the call, or the call runs as without faults and may lose its last answer. -/
theorem CommitsLast.aborts_or_agrees {A : Type} {program : DbProgram A}
    (commitsLast : CommitsLast program) (session : Session) :
    session.Aborted (program.run Session.answer session) ∨
      Session.Agrees session.faults (program.run Session.answer session)
        (program.run Session.answer { session with faults := [] }) := by
  induction commitsLast generalizing session with
  | done result => exact .inr ⟨.same _, rfl, rfl⟩
  | commit value =>
      obtain ⟨committed, working, sequence, faults⟩ := session
      match faults with
      | [] => exact .inr ⟨.same _, rfl, rfl⟩
      | none :: faults => exact .inr ⟨.same _, rfl, rfl⟩
      | some ⟨error, false⟩ :: faults => exact .inl ⟨⟨error, rfl⟩, rfl, Nat.le_refl _⟩
      | some ⟨error, true⟩ :: faults =>
          have listed : some ⟨error, true⟩ ∈ some ⟨error, true⟩ :: faults := List.mem_cons_self
          exact .inr ⟨.lost listed rfl, rfl, rfl⟩
  | @statement statement next open_ rest ih =>
      match listed : session.faults with
      | [] =>
          have same : { session with faults := [] } = session := by
            rw [← listed]
          rw [same]
          exact .inr ⟨.same _, rfl, rfl⟩
      | some fault :: faults =>
          obtain ⟨error, committed, sequence⟩ := session.answer_fault listed open_
          refine .inl ⟨⟨fault.error, ?_⟩, ?_, ?_⟩ <;>
            simp only [execute, Program.run_call, error, Program.run_pure, committed, sequence]
      | none :: faults =>
          have committed := session.perform_committed open_
          have sequence := session.perform_sequence statement
          have performed : session.answer statement =
              ((session.perform statement).1,
                { (session.perform statement).2 with faults := faults }) := by
            rw [Session.answer, listed]
            exact session.perform_faults faults statement
          have faultless : { session with faults := [] }.answer statement =
              ((session.perform statement).1,
                { (session.perform statement).2 with faults := [] }) :=
            session.perform_faults [] statement
          simp only [execute, Program.run_call, performed, faultless]
          cases (session.perform statement).1 with
          | error error => exact .inl ⟨⟨error, rfl⟩, committed, sequence⟩
          | ok result =>
              rcases ih result { (session.perform statement).2 with faults := faults } with
                aborted | agrees
              · exact .inl ⟨aborted.fails, aborted.committed.trans committed,
                  sequence.trans aborted.sequence⟩
              · exact .inr ⟨agrees.result.mono fun _ => List.mem_cons_of_mem _, agrees.committed,
                  agrees.sequence⟩

/-- A call fails without effect on the tables, or has the effect of a run without faults. -/
theorem CommitsLast.run_faults {A : Type} {program : DbProgram A}
    (commitsLast : CommitsLast program) (db : Db) (faults : List (Option Fault)) :
    ((∃ error, (db.run faults program).1 = .error error) ∧
      (db.run faults program).2.tables = db.tables ∧
      db.sequence ≤ (db.run faults program).2.sequence) ∨
    (Session.Hears faults (db.run faults program).1 (db.run [] program).1 ∧
      (db.run faults program).2 = (db.run [] program).2) := by
  rcases commitsLast.aborts_or_agrees ⟨db.tables, db.tables, db.sequence, faults⟩ with
    aborted | agrees
  · exact .inl ⟨aborted.fails, aborted.committed, aborted.sequence⟩
  · exact .inr ⟨agrees.result, congrArg₂ Db.mk agrees.committed agrees.sequence⟩

end Web3Id.SomeVerifier
