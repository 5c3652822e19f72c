import Web3Id.Proof.SomeVerifier.TransactionSteps

namespace Web3Id.SomeVerifier

open Library

namespace Transaction

variable {committed : Tables} {program : DbProgram CallResult} {deleted : List Nat} {id : Nat}
  {done : List Slot} {entry : VerificationsEntry} {inserted : List VerificationRow}
  {lookups : List (Platform × BitVec 256)}

/-- The user ids of the inserted slots are free. -/
theorem Sound.untaken
    (sound : (⟨program, deleted, inserted, rowsOf id done, none, lookups⟩ : Transaction).Sound
      committed) {slot : Slot} (listed : slot ∈ done) :
    (committed.erase deleted).taken slot = false := by
  rw [Tables.taken, List.any_eq_false]
  intro row present same
  obtain ⟨before, kept⟩ := Tables.mem_erase_platform.mp present
  obtain ⟨other, taken, points⟩ := sound.rows (slot.1, slot.2.row id)
    (List.mem_map.mpr ⟨slot, listed, rfl⟩) row before (.inl (of_decide_eq_true same))
  exact kept other points taken

/-- The view of a transaction that has inserted all slots of an entry is consistent. -/
theorem Sound.consistent
    (sound : (⟨program, deleted, [entry.row id], rowsOf id entry.slots, none, lookups⟩ :
      Transaction).Sound committed) (consistent : committed.Consistent) :
    ((⟨program, deleted, [entry.row id], rowsOf id entry.slots, none, lookups⟩ :
      Transaction).view committed).Consistent := by
  have cleared := consistent.erase deleted
  have fresh : ∀ row ∈ (committed.erase deleted).verifications, row.id ≠ id := fun row present =>
    sound.inserted _ List.mem_cons_self row (Tables.mem_erase_verifications.mp present).1
  have creds : ∀ slot ∈ entry.slots, ∀ row ∈ (committed.erase deleted).platform slot.1,
      row.credId ≠ slot.credId := by
    intro slot listed row present same
    obtain ⟨before, kept⟩ := Tables.mem_erase_platform.mp present
    obtain ⟨other, taken, points⟩ := sound.rows (slot.1, slot.2.row id)
      (List.mem_map.mpr ⟨slot, listed, rfl⟩) row before (.inr same)
    exact kept other points taken
  rw [view, foldl_rowsOf]
  exact cleared.record fresh (cleared.fits_of_free fresh creds)
    (Tables.clash_eq_none.mpr fun slot listed => sound.untaken listed)

end Transaction

/--
The committed tables are consistent, and every transaction is sound, has drawn its ids from the
sequence, and is apart from the others.
-/
structure System.Valid {n : Nat} (system : System n) (first : Nat) : Prop where
  consistent : (Db.mk system.committed system.sequence).Consistent
  grows : first ≤ system.sequence
  sound : ∀ i, (system.txs i).Sound system.committed
  drawn : ∀ i, (system.txs i).Drawn first system.sequence
  apart : ∀ i j, i ≠ j → (system.txs i).Apart (system.txs j)

namespace System

variable {n : Nat} {system : System n} {first : Nat} {i j : Fin n} {tx : Transaction}

/-- A property of the changed transaction and of the others holds of all transactions. -/
theorem forall_set (holds : Fin n → Transaction → Prop) (changed : holds i tx)
    (others : ∀ j, j ≠ i → holds j (system.txs j)) : ∀ j, holds j ((system.set i tx).txs j) :=
  (Function.forall_update_iff system.txs holds).mpr ⟨changed, others⟩

@[simp] theorem set_txs_self : (system.set i tx).txs i = tx := by
  simp [System.set]

@[simp] theorem set_txs_other (other : j ≠ i) : (system.set i tx).txs j = system.txs j := by
  simp [System.set, other]

namespace Valid

/-- Before the first step no transaction has changes. -/
theorem start {db : Db} (consistent : db.Consistent) (calls : Fin n → Call) :
    (System.start db calls).Valid db.sequence where
  consistent := consistent
  grows := Nat.le_refl _
  sound _ := .empty _ _ _
  drawn _ := .ended _ _ _ _
  apart _ _ _ := (Transaction.Apart.ended _ _).1

/-- A transaction is apart from the others. -/
theorem others (valid : system.Valid first) (found : system.txs i = tx) (j : Fin n)
    (other : j ≠ i) : tx.Apart (system.txs j) ∧ (system.txs j).Apart tx := by
  subst found
  exact ⟨valid.apart i j other.symm, valid.apart j i other⟩

/-- One transaction goes on, and may commit or draw from the sequence. -/
theorem set (valid : system.Valid first) {after : Tables} {sequence : Nat}
    (later : system.sequence ≤ sequence) (kept : (Db.mk after sequence).Consistent)
    (sound : tx.Sound after) (drawn : tx.Drawn first sequence)
    (apart : ∀ j, j ≠ i → tx.Apart (system.txs j) ∧ (system.txs j).Apart tx)
    (others : ∀ j, j ≠ i → (system.txs j).Sound after) :
    ((System.mk after sequence system.txs).set i tx).Valid first where
  consistent := kept
  grows := Nat.le_trans valid.grows later
  sound := forall_set (fun _ tx => tx.Sound after) sound others
  drawn := forall_set (fun _ tx => tx.Drawn first sequence) drawn
    fun j _ => (valid.drawn j).mono later
  apart j k distinct := by
    by_cases one : j = i
    · subst one
      rw [set_txs_self, set_txs_other distinct.symm]
      exact (apart k distinct.symm).1
    · by_cases two : k = i
      · subst two
        rw [set_txs_self, set_txs_other one]
        exact (apart j one).2
      · rw [set_txs_other one, set_txs_other two]
        exact valid.apart j k distinct

/-- One transaction goes on and leaves the committed tables as they are. -/
theorem update (valid : system.Valid first) (sound : tx.Sound system.committed)
    (drawn : tx.Drawn first system.sequence)
    (apart : ∀ j, j ≠ i → tx.Apart (system.txs j) ∧ (system.txs j).Apart tx) :
    (system.set i tx).Valid first :=
  valid.set (Nat.le_refl _) valid.consistent sound drawn apart fun j _ => valid.sound j

/-- A transaction drops its changes. -/
theorem drop (valid : system.Valid first) (program : DbProgram CallResult)
    (lookups : List (Platform × BitVec 256)) :
    (system.set i ⟨program, [], [], [], none, lookups⟩).Valid first :=
  valid.update (.empty _ _ _) (.ended _ _ _ _) fun _ _ => Transaction.Apart.ended _ _

/-- A transaction goes on with another program. -/
theorem proceed (valid : system.Valid first) (i : Fin n) (program : DbProgram CallResult) :
    (system.set i { system.txs i with program := program }).Valid first := by
  have sound := valid.sound i
  have drawn := valid.drawn i
  refine valid.update ⟨sound.deleted, sound.inserted, sound.rows⟩ ⟨drawn.inserted, drawn.target⟩
    fun j other => ?_
  obtain ⟨one, two⟩ := valid.others rfl j other
  exact ⟨⟨one.deleted, one.inserted, one.target, one.rows⟩,
    ⟨two.deleted, two.inserted, two.target, two.rows⟩⟩

/-- A transaction whose view is consistent commits its changes and ends. -/
theorem commit (valid : system.Valid first)
    (consistent : ((system.txs i).view system.committed).Consistent)
    (program : DbProgram CallResult) :
    ({ system with committed := (system.txs i).view system.committed }.set i
      ⟨program, [], [], [], none, []⟩).Valid first := by
  refine valid.set (Nat.le_refl _) ⟨consistent, fun row present => ?_⟩ (.empty _ _ _)
    (.ended _ _ _ _) (fun _ _ => Transaction.Apart.ended _ _)
    fun j other => (valid.sound j).commit (valid.apart i j other.symm)
  rcases Transaction.mem_view_verifications.mp present with ⟨stored, -⟩ | inserted
  · exact valid.consistent.below row stored
  · exact ((valid.drawn i).inserted row inserted).2

variable {program : DbProgram CallResult} {deleted ids : List Nat}
  {target : Option (List Nat)} {lookups : List (Platform × BitVec 256)}

/-- A deletion may select rows that are there. -/
theorem look (valid : system.Valid first)
    (found : system.txs i = ⟨program, deleted, [], [], none, lookups⟩) (platform : Platform)
    (credId : BitVec 256)
    (selects : ∀ id ∈ target.getD [],
      id ∈ (system.committed.erase deleted).selected platform credId)
    (following : DbProgram CallResult) (looked : List (Platform × BitVec 256)) :
    (system.set i ⟨following, deleted, [], [], target, looked⟩).Valid first := by
  have stored : ∀ id ∈ target.getD [], ∃ row ∈ system.committed.verifications, row.id = id := by
    intro id listed
    obtain ⟨row, present, same⟩ := List.mem_map.mp (Tables.mem_selected.mp (selects id listed)).1
    exact ⟨row, (Tables.mem_erase_verifications.mp present).1, same⟩
  have sound := valid.sound i
  rw [found] at sound
  refine valid.update ⟨sound.deleted, by simp, by simp⟩ ⟨by simp, ?_⟩ fun j other => ?_
  · intro id listed
    obtain ⟨row, present, rfl⟩ := stored id listed
    exact valid.consistent.below row present
  · obtain ⟨one, two⟩ := valid.others found j other
    refine ⟨⟨one.deleted, by simp, by simp, by simp⟩, ⟨two.deleted, by simp, ?_, by simp⟩⟩
    intro row inserted listed
    obtain ⟨old, present, same⟩ := stored row.id listed
    exact (valid.sound j).inserted row inserted old present same

/-- A deletion removes the selected rows that are still there. -/
theorem delete (valid : system.Valid first)
    (found : system.txs i = ⟨program, deleted, [], [], some ids, lookups⟩)
    (unlocked : ∀ j, j ≠ i → ∀ id ∈ ids, id ∉ (system.txs j).deleted)
    (following : DbProgram CallResult) :
    (system.set i ⟨following, deleted ++ Transaction.present system.committed deleted ids, [], [],
      none, lookups⟩).Valid first := by
  have sound := valid.sound i
  rw [found] at sound
  exact valid.update (sound.delete _) ⟨by simp, by simp⟩ fun j other =>
    (valid.others found j other).1.delete (unlocked j other) _

/-- The insertion of a verification draws a new id. -/
theorem insertVerification (valid : system.Valid first)
    (found : system.txs i = ⟨program, deleted, [], [], none, lookups⟩) (entry : VerificationsEntry)
    (following : DbProgram CallResult) :
    ({ system with sequence := system.sequence + 1 }.set i
      ⟨following, deleted, [entry.row system.sequence], [], none, lookups⟩).Valid first := by
  have sound := valid.sound i
  rw [found] at sound
  refine valid.set (Nat.le_succ _) (valid.consistent.grown rfl (Nat.le_succ _))
    ⟨sound.deleted, ?_, by simp⟩ ⟨?_, by simp⟩ (fun j other => ?_) fun j _ => valid.sound j
  · intro row inserted stored present
    cases List.mem_singleton.mp inserted
    exact valid.consistent.fresh stored present
  · intro row inserted
    cases List.mem_singleton.mp inserted
    exact ⟨valid.grows, Nat.lt_succ_self _⟩
  · obtain ⟨one, two⟩ := valid.others found j other
    refine ⟨⟨one.deleted, ?_, ?_, by simp⟩, ⟨two.deleted, ?_, by simp, by simp⟩⟩
    · intro row inserted stored others
      cases List.mem_singleton.mp inserted
      exact Nat.ne_of_gt ((valid.drawn j).inserted stored others).2
    · intro row inserted listed
      cases List.mem_singleton.mp inserted
      exact Nat.lt_irrefl _ ((valid.drawn j).target _ listed)
    · intro row others stored inserted
      cases List.mem_singleton.mp inserted
      exact Nat.ne_of_lt ((valid.drawn j).inserted row others).2

/-- A row with new keys joins the rows of a transaction. -/
theorem insertPlatform (valid : system.Valid first) {slot : Slot} (newKeys : system.NewKeys i slot)
    (id : Nat) (following : DbProgram CallResult) :
    (system.set i { (system.txs i).insertPlatform slot.1 (slot.2.row id) with
      program := following }).Valid first := by
  have sound := valid.sound i
  have drawn := valid.drawn i
  have split : ∀ own ∈ (system.txs i).rows ++ [(slot.1, slot.2.row id)],
      own ∈ (system.txs i).rows ∨ own = (slot.1, slot.2.row id) := by simp
  refine valid.update ⟨sound.deleted, sound.inserted, ?_⟩ ⟨drawn.inserted, drawn.target⟩
    fun j other => ?_
  · intro own listed row present same
    rcases split own listed with old | rfl
    · exact sound.rows own old row present same
    · by_contra kept
      have visible : row ∈ (system.committed.erase (system.txs i).deleted).platform slot.1 :=
        Tables.mem_erase_platform.mpr
          ⟨present, fun other points taken => kept ⟨other, taken, points⟩⟩
      obtain ⟨newId, newCred⟩ :=
        newKeys.visible row (Transaction.mem_view_platform.mpr (.inl visible))
      exact same.elim newId newCred
  · obtain ⟨one, two⟩ := valid.others rfl j other
    refine ⟨⟨one.deleted, one.inserted, one.target, ?_⟩, ⟨two.deleted, two.inserted, two.target, ?_⟩⟩
    · intro own listed row others same
      rcases split own listed with old | rfl
      · exact one.rows own old row others same
      · obtain ⟨newId, newCred⟩ := newKeys.held j other row others same.symm
        exact ⟨newId.symm, newCred.symm⟩
    · intro row others own listed same
      rcases split own listed with old | rfl
      · exact two.rows row others own old same
      · exact newKeys.held j other row others same

end Valid

end System

/-- The transaction of a call has reached one of its statements, or has ended with any result. -/
inductive Course : Transaction → Prop
  | connecting (call : Call) : Course (.start call)
  | beginning (call : Call) :
      Course ⟨execute .begin fun _ => call.body, [], [], [], none, []⟩
  | clearing {entry : VerificationsEntry} {rest : List Slot} {deleted : List Nat}
      {lookups : List (Platform × BitVec 256)} :
      Course ⟨clearSlots rest entry.insertAll, deleted, [], [], none, lookups⟩
  | deleting {entry : VerificationsEntry} {slot : Slot} {rest : List Slot} {deleted ids : List Nat}
      {lookups : List (Platform × BitVec 256)} :
      Course ⟨clearSlots (slot :: rest) entry.insertAll, deleted, [], [], some ids, lookups⟩
  | inserting {entry : VerificationsEntry} {done rest : List Slot} {deleted : List Nat} {id : Nat}
      {lookups : List (Platform × BitVec 256)} (slots : entry.slots = done ++ rest) :
      Course ⟨label .added (insertSlots rest id), deleted, [entry.row id],
        Transaction.rowsOf id done, none, lookups⟩
  | refusing {userId : String} {deleted : List Nat} {inserted : List VerificationRow}
      {rows : List (Platform × PlatformRow)} {lookups : List (Platform × BitVec 256)} :
      Course ⟨label .added (refuse userId), deleted, inserted, rows, none, lookups⟩
  | removing {credId : CredentialHolderId} {platform : Platform} {target : Option (List Nat)}
      {lookups : List (Platform × BitVec 256)} :
      Course ⟨(Call.remove credId platform).body, [], [], [], target, lookups⟩
  | committing {answer : Except SqlError CallResult} {deleted : List Nat}
      {lookups : List (Platform × BitVec 256)} :
      Course ⟨execute .commit fun _ => .pure answer, deleted, [], [], none, lookups⟩
  | ended (result : Except SqlError CallResult) : Course ⟨.pure result, [], [], [], none, []⟩

/-- The first statement after the beginning is a deletion, or the insertion of the verification. -/
theorem Course.body (call : Call) : Course ⟨call.body, [], [], [], none, []⟩ := by
  cases call with
  | add entry => exact .clearing
  | remove credId platform => exact .removing

/-- Every transaction of a valid system runs the statements of its call. -/
structure System.Safe {n : Nat} (system : System n) (first : Nat) : Prop where
  valid : system.Valid first
  course : ∀ i, Course (system.txs i)

namespace System.Safe

variable {n : Nat} {system after : System n} {first : Nat} {i : Fin n} {tx : Transaction}

theorem start {db : Db} (consistent : db.Consistent) (calls : Fin n → Call) :
    (System.start db calls).Safe db.sequence := ⟨.start consistent calls, fun i => .connecting (calls i)⟩

/-- One transaction goes on with a statement of its call. -/
theorem set (safe : system.Safe first) {committed : Tables} {sequence : Nat}
    (valid : ((System.mk committed sequence system.txs).set i tx).Valid first)
    (course : Course tx) : ((System.mk committed sequence system.txs).set i tx).Safe first where
  valid := valid
  course := forall_set (fun _ => Course) course fun j _ => safe.course j

/-- A removal selects its rows, deletes them, and ends with the commit or an error. -/
theorem remove (safe : system.Safe first) {credId : CredentialHolderId} {platform : Platform}
    {target : Option (List Nat)} {lookups : List (Platform × BitVec 256)}
    (found : system.txs i = ⟨(Call.remove credId platform).body, [], [], [], target, lookups⟩)
    (stepped : system.perform i (Call.remove credId platform).body = some after) :
    after.Safe first := by
  rw [Call.remove_body] at stepped
  cases target with
  | none =>
      rcases System.perform_look found stepped with rfl | ⟨nothing, rfl⟩
      · exact safe.set
          (safe.valid.look found platform credId.publicKey (by simp) _ _) .removing
      · exact safe.set
          (safe.valid.look found platform credId.publicKey (by simp) _ _) .committing
  | some ids =>
      obtain ⟨unlocked, rfl⟩ := System.perform_delete found stepped
      rcases afterRemoval_cases (Transaction.present system.committed [] ids) with
        ⟨-, fails⟩ | ⟨-, commits⟩
      · rw [fails]
        exact safe.set (safe.valid.drop _ _) (.ended _)
      · rw [commits]
        exact safe.set (safe.valid.delete found unlocked _) .committing

/-- Every step keeps the system safe. -/
theorem step (safe : system.Safe first) (stepped : system.step i = some after) :
    after.Safe first := by
  have course := safe.course i
  generalize found : system.txs i = tx at course
  rw [System.step, found] at stepped
  cases course with
  | connecting call =>
      rw [Transaction.start, call.program_eq] at stepped
      simp only [System.perform, execute, found] at stepped
      cases Option.some.inj stepped
      exact safe.set (safe.valid.drop _ _) (.beginning call)
  | beginning call =>
      simp only [System.perform, execute, found, Transaction.resume_body] at stepped
      cases Option.some.inj stepped
      exact safe.set (safe.valid.drop _ _) (.body call)
  | @clearing entry rest deleted lookups =>
      cases rest with
      | nil =>
          rw [clearSlots, VerificationsEntry.insertAll,
            System.perform_insertVerification found] at stepped
          cases Option.some.inj stepped
          rw [Transaction.resume_insertSlots]
          exact safe.set (safe.valid.insertVerification found entry _)
            (@Course.inserting entry [] entry.slots deleted system.sequence lookups rfl)
      | cons slot rest =>
          rcases System.perform_look found stepped with rfl | ⟨nothing, rfl⟩
          · exact safe.set
              (safe.valid.look found slot.1 slot.credId (by simp) _ _) .deleting
          · rw [Transaction.resume_clearSlots]
            exact safe.set
              (safe.valid.look found slot.1 slot.credId (by simp) _ _) .clearing
  | deleting =>
      obtain ⟨unlocked, rfl⟩ := System.perform_delete found stepped
      rw [Transaction.resume_clearSlots]
      exact safe.set (safe.valid.delete found unlocked _) .clearing
  | @inserting entry done rest deleted id lookups slots =>
      cases rest with
      | nil =>
          rw [List.append_nil] at slots
          subst slots
          cases Option.some.inj stepped
          have sound := safe.valid.sound i
          rw [found] at sound
          have consistent := sound.consistent safe.valid.consistent.tables
          rw [← found] at consistent
          exact safe.set (safe.valid.commit consistent _) (.ended _)
      | cons slot rest =>
          rw [label_insertSlots_cons] at stepped
          rcases System.perform_insertPlatform stepped with
            ⟨-, rfl⟩ | ⟨error, -, rfl⟩ | ⟨newKeys, rfl⟩
          · have valid := safe.valid.proceed i (label .added (refuse slot.2.id))
            rw [found] at valid ⊢
            exact safe.set valid .refusing
          · exact safe.set (safe.valid.drop _ _) (.ended _)
          · have valid := safe.valid.insertPlatform newKeys id (label .added (insertSlots rest id))
            rw [afterSlot, Transaction.resume_insertSlots]
            rw [found, Transaction.insertPlatform, ← Transaction.rowsOf_snoc] at valid ⊢
            exact safe.set valid (.inserting (by simpa using slots))
  | refusing =>
      cases Option.some.inj stepped
      exact safe.set (safe.valid.drop _ _) (.ended _)
  | removing => exact safe.remove found stepped
  | @committing answer deleted lookups =>
      cases Option.some.inj stepped
      have consistent : ((system.txs i).view system.committed).Consistent := by
        rw [found]
        exact safe.valid.consistent.tables.erase deleted
      exact safe.set (safe.valid.commit consistent _) (.ended _)
  | ended result => cases stepped

/-- A step or a failure of a transaction keeps the system safe. -/
theorem moves (safe : system.Safe first) (moves : system.Moves i after) : after.Safe first := by
  cases moves with
  | performs stepped => exact safe.step stepped
  | fails error => exact safe.set (safe.valid.drop _ _) (.ended _)

end System.Safe

/-- The database is consistent after every history of calls, one after the other or concurrent. -/
theorem Db.Reachable.consistent {db : Db} (reachable : db.Reachable) : db.Consistent := by
  induction reachable with
  | empty => exact Db.empty_consistent
  | call _ call faults ih => exact ih.call call faults
  | @concurrent _ _ calls _ _ _ run ih =>
      have safe := run.invariant (fun _ _ _ safe moves => System.Safe.moves safe moves)
        (System.Safe.start ih calls)
      exact safe.valid.consistent

end Web3Id.SomeVerifier
