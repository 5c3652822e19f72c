import Web3Id.Proof.SomeVerifier.TransactionView

namespace Web3Id.SomeVerifier

open Library

theorem Transaction.resume_clearSlots (tx : Transaction) (slots : List Slot)
    (entry : VerificationsEntry) :
    tx.resume (clearSlots slots entry.insertAll) =
      { tx with program := clearSlots slots entry.insertAll } := by
  cases slots <;> rfl

theorem Transaction.resume_insertSlots (tx : Transaction) (slots : List Slot) (id : Nat) :
    tx.resume (label .added (insertSlots slots id)) =
      { tx with program := label .added (insertSlots slots id) } := by
  cases slots <;> rfl

/-- The insertion of a slot refuses the call or goes on with the next slot. -/
def afterSlot (slot : Slot) (slots : List Slot) (id : Nat) : Option String → DbProgram CallResult
  | some _ => label .added (insertSlots slots id)
  | none => label .added (refuse slot.2.id)

theorem label_insertSlots_cons (slot : Slot) (slots : List Slot) (id : Nat) :
    label .added (insertSlots (slot :: slots) id) =
      execute (.insertPlatform slot.1 (slot.2.row id)) (afterSlot slot slots id) := by
  rw [insertSlots, insertSlot, addPlatformEntry, label_execute]
  congr 1
  funext result
  cases result <;> rfl

theorem Transaction.resume_body (tx : Transaction) (call : Call) :
    tx.resume call.body = { tx with program := call.body } := by
  cases call with
  | add entry => exact tx.resume_clearSlots entry.slots entry
  | remove credId platform => rfl

/-- The removal of a credential ends with the commit when at most one row was deleted. -/
def afterRemoval (ids : List Nat) : DbProgram CallResult :=
  if 1 < ids.length then .pure (.error .rowCount)
  else execute .commit fun _ => .pure (.ok (.removed !ids.isEmpty))

theorem Call.remove_body (credId : CredentialHolderId) (platform : Platform) :
    (Call.remove credId platform).body =
      execute (.deleteVerifications platform credId.publicKey) afterRemoval := rfl

theorem afterRemoval_cases (ids : List Nat) :
    (1 < ids.length ∧ afterRemoval ids = .pure (.error .rowCount)) ∨
      (ids.length ≤ 1 ∧ afterRemoval ids =
        execute .commit fun _ => .pure (.ok (.removed !ids.isEmpty))) := by
  unfold afterRemoval
  by_cases many : 1 < ids.length
  · exact .inl ⟨many, if_pos many⟩
  · exact .inr ⟨Nat.not_lt.mp many, if_neg many⟩

section Statements

variable {n : Nat} {system after : System n} {i : Fin n} {platform : Platform}
  {credId : BitVec 256} {program : DbProgram CallResult} {deleted ids : List Nat}
  {lookups : List (Platform × BitVec 256)}

/-- A deletion selects some rows and goes on later, or selects none and ends at once. -/
theorem System.perform_look {next : List Nat → DbProgram CallResult}
    (found : system.txs i = ⟨program, deleted, [], [], none, lookups⟩)
    (stepped : system.perform i (execute (.deleteVerifications platform credId) next) =
      some after) :
    after = system.set i ⟨program, deleted, [], [],
        some ((system.committed.erase deleted).selected platform credId),
        lookups ++ [(platform, credId)]⟩ ∨
      (system.committed.erase deleted).selected platform credId = [] ∧
        after = system.set i
          ((⟨program, deleted, [], [], none, lookups ++ [(platform, credId)]⟩ : Transaction).resume
            (next [])) := by
  simp only [System.perform, execute, found] at stepped
  split at stepped
  · rename_i nothing
    refine .inr ⟨List.isEmpty_iff.mp nothing, ?_⟩
    simpa [Transaction.look, Transaction.delete] using (Option.some.inj stepped).symm
  · exact .inl (Option.some.inj stepped).symm

/-- A deletion that has selected its rows removes those that are still there. -/
theorem System.perform_delete {next : List Nat → DbProgram CallResult}
    (found : system.txs i = ⟨program, deleted, [], [], some ids, lookups⟩)
    (stepped : system.perform i (execute (.deleteVerifications platform credId) next) =
      some after) :
    (∀ j, j ≠ i → ∀ id ∈ ids, id ∉ (system.txs j).deleted) ∧
      after = system.set i
        ((⟨program, deleted ++ Transaction.present system.committed deleted ids, [], [], none,
          lookups⟩ : Transaction).resume
            (next (Transaction.present system.committed deleted ids))) := by
  simp only [System.perform, execute, found] at stepped
  split at stepped
  · cases stepped
  · rename_i free
    refine ⟨?_, (Option.some.inj stepped).symm⟩
    intro j other id listed taken
    apply free
    exact decide_eq_true ⟨j, other, List.any_eq_true.mpr ⟨id, taken, decide_eq_true listed⟩⟩

/-- The insertion of a verification draws its id from the sequence. -/
theorem System.perform_insertVerification {entry : VerificationsEntry}
    {next : Nat → DbProgram CallResult}
    (found : system.txs i = ⟨program, deleted, [], [], none, lookups⟩) :
    system.perform i (execute (.insertVerification (entry.fullName.map FullName.firstName)
        (entry.fullName.map FullName.lastName) entry.presentation) next) =
      some ({ system with sequence := system.sequence + 1 }.set i
        ((⟨program, deleted, [entry.row system.sequence], [], none, lookups⟩ :
          Transaction).resume (next system.sequence))) := by
  have names := entry.row_names system.sequence
  simp only [VerificationsEntry.row] at names
  simp only [System.perform, execute, found, Tables.insertVerification, if_pos names]
  rfl

theorem System.held_eq_false {test : PlatformRow → Bool}
    (free : system.held i platform test = false) {j : Fin n} (other : j ≠ i) :
    (system.txs j).touches system.committed platform test = false := by
  by_contra touched
  exact of_decide_eq_false free ⟨j, other, by simpa using touched⟩

/-- A platform that a transaction does not touch has no own row of it that passes the test. -/
theorem Transaction.untouched {tx : Transaction} {committed : Tables} {test : PlatformRow → Bool}
    (free : tx.touches committed platform test = false) {row : Platform × PlatformRow}
    (own : row ∈ tx.rows) (same : row.1 = platform) : test row.2 = false := by
  rw [touches, Bool.or_eq_false_iff, List.any_eq_false] at free
  have fails := free.1 row own
  simpa [same] using fails

/-- A row of a platform has new keys in the tables and in the other transactions. -/
structure System.NewKeys (system : System n) (i : Fin n) (slot : Slot) : Prop where
  visible : ∀ row ∈ ((system.txs i).view system.committed).platform slot.1,
    row.id ≠ slot.2.id ∧ row.credId ≠ slot.credId
  held : ∀ j, j ≠ i → ∀ row ∈ (system.txs j).rows, row.1 = slot.1 →
    row.2.id ≠ slot.2.id ∧ row.2.credId ≠ slot.credId

/-- An insertion finds its user id taken, fails, or inserts a row with new keys. -/
theorem System.perform_insertPlatform {slot : Slot} {id : Nat}
    {next : Option String → DbProgram CallResult}
    (stepped : system.perform i (execute (.insertPlatform slot.1 (slot.2.row id)) next) =
      some after) :
    (((system.txs i).view system.committed).taken slot = true ∧
      after = system.set i ((system.txs i).resume (next none))) ∨
    (∃ error, ((system.txs i).view system.committed).insertPlatform slot.1 (slot.2.row id) =
        .error error ∧
      after = system.set i ((system.txs i).resume (.pure (.error error)))) ∨
    (system.NewKeys i slot ∧ after = system.set i
      (((system.txs i).insertPlatform slot.1 (slot.2.row id)).resume (next (some slot.2.id)))) := by
  simp only [System.perform, execute] at stepped
  split at stepped
  · cases stepped
  · rename_i idFree
    split at stepped
    · rename_i taken
      exact .inl ⟨taken, (Option.some.inj stepped).symm⟩
    · rename_i untaken
      split at stepped
      · cases stepped
      · rename_i free
        split at stepped
        · rename_i error fails
          exact .inr (.inl ⟨error, fails, (Option.some.inj stepped).symm⟩)
        · rename_i inserted passes
          simp only [Bool.or_eq_true, not_or, Bool.not_eq_true] at free idFree
          obtain ⟨appended, creds⟩ := Tables.insertPlatform_ok passes untaken
          have ids := List.any_eq_false.mp (Bool.not_eq_true _ ▸ untaken)
          refine .inr (.inr ⟨⟨fun row present => ⟨?_, creds row present⟩, ?_⟩, ?_⟩)
          · exact fun same => ids row present (decide_eq_true same)
          · intro j other row own same
            exact ⟨of_decide_eq_false
                (Transaction.untouched (system.held_eq_false idFree other) own same),
              of_decide_eq_false
                (Transaction.untouched (system.held_eq_false free.1.1 other) own same)⟩
          · rw [appended] at stepped
            exact (Option.some.inj stepped).symm

end Statements

end Web3Id.SomeVerifier
