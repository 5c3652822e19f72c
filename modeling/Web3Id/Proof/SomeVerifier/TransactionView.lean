import Web3Id.Construction.SomeVerifier.Concurrent
import Web3Id.Proof.SomeVerifier.AddedTables
import Web3Id.Proof.SomeVerifier.Faults

namespace Web3Id.SomeVerifier

open Library

theorem label_execute {A : Type} (toResult : A → CallResult) (statement : Statement)
    (next : statement.Result → DbProgram A) :
    label toResult (execute statement next) =
      execute statement fun result => label toResult (next result) := by
  change Program.call statement _ = Program.call statement _
  congr 1
  funext reply
  cases reply <;> rfl

theorem label_clearSlots {A : Type} (toResult : A → CallResult) (slots : List Slot)
    (next : DbProgram A) :
    label toResult (clearSlots slots next) = clearSlots slots (label toResult next) := by
  induction slots with
  | nil => rfl
  | cons slot slots ih =>
      rw [clearSlots, label_execute, ih]
      rfl

/-- A labelled program runs as the program itself. -/
theorem Db.run_label {A : Type} (db : Db) (faults : List (Option Fault))
    (toResult : A → CallResult) (program : DbProgram A) :
    db.run faults (label toResult program) =
      ((db.run faults program).1.map toResult, (db.run faults program).2) := by
  have composed := Program.run_bind Session.answer program
    (fun result => .pure (result.map toResult)) ⟨db.tables, db.tables, db.sequence, faults⟩
  exact congrArg (fun outcome => (outcome.1, Db.mk outcome.2.committed outcome.2.sequence)) composed

/-- The part of a call to add an entry that follows its deletions. -/
def VerificationsEntry.insertAll (entry : VerificationsEntry) : DbProgram CallResult :=
  execute (.insertVerification (entry.fullName.map FullName.firstName)
    (entry.fullName.map FullName.lastName) entry.presentation) fun id =>
    label .added (insertSlots entry.slots id)

/-- The part of a call that follows the beginning of its transaction. -/
def Call.body : Call → DbProgram CallResult
  | .add entry => clearSlots entry.slots entry.insertAll
  | .remove credId platform =>
      execute (.deleteVerifications platform credId.publicKey) fun ids =>
        if 1 < ids.length then .pure (.error .rowCount)
        else execute .commit fun _ => .pure (.ok (.removed !ids.isEmpty))

theorem Call.program_eq (call : Call) :
    call.program = execute .connect fun _ => execute .begin fun _ => call.body := by
  cases call with
  | add entry =>
      simp only [program, addVerification_slots, label_execute, label_clearSlots, body,
        VerificationsEntry.insertAll]
  | remove credId platform =>
      simp only [program, removeVerification, label_execute, body]
      congr 1
      funext _
      congr 1
      funext _
      congr 1
      funext ids
      split
      · rfl
      · rw [label_execute]
        rfl

section Serves

variable {n : Nat} {calls : Fin n → Call} {i : Fin n} {tables : Tables}

/-- Served alone, a call to add an entry has its stated effect. -/
theorem serves_add {entry : VerificationsEntry} {id : Nat} (call : calls i = .add entry)
    (consistent : tables.Consistent) (fresh : ∀ row ∈ tables.verifications, row.id ≠ id) :
    Serves calls ⟨i, some id, .added (tables.added entry id).1⟩ tables
      (tables.added entry id).2 := by
  change ((Db.mk tables id).run [] (calls i).program).1 = _ ∧
    ((Db.mk tables id).run [] (calls i).program).2.tables = _
  rw [call, Call.program, Db.run_label, consistent.run_addVerification fresh]
  exact ⟨rfl, rfl⟩

/-- Served alone, a call to remove a credential has its stated effect. -/
theorem serves_remove {credId : CredentialHolderId} {platform : Platform}
    (call : calls i = .remove credId platform) (consistent : tables.Consistent) :
    Serves calls ⟨i, none, .removed (tables.removed credId.publicKey platform).1⟩ tables
      (tables.removed credId.publicKey platform).2 := by
  change ((Db.mk tables 0).run [] (calls i).program).1 = _ ∧
    ((Db.mk tables 0).run [] (calls i).program).2.tables = _
  rw [call, Call.program, Db.run_label, consistent.run_removeVerification]
  exact ⟨rfl, rfl⟩

end Serves

/-- Every call fails without effect or keeps the database consistent. -/
theorem Db.Consistent.call {db : Db} (consistent : db.Consistent) (call : Call)
    (faults : List (Option Fault)) : (db.run faults call.program).2.Consistent := by
  cases call with
  | add entry =>
      rw [Call.program, Db.run_label]
      rcases (addVerification_commitsLast entry).run_faults db faults with
        ⟨-, tables, sequence⟩ | ⟨-, faultless⟩
      · exact consistent.grown tables sequence
      · change (db.run faults (addVerification entry)).2.Consistent
        rw [faultless, consistent.tables.run_addVerification consistent.fresh]
        exact consistent.added entry
  | remove credId platform =>
      rw [Call.program, Db.run_label]
      rcases (removeVerification_commitsLast credId platform).run_faults db faults with
        ⟨-, tables, sequence⟩ | ⟨-, faultless⟩
      · exact consistent.grown tables sequence
      · change (db.run faults (removeVerification credId platform)).2.Consistent
        rw [faultless, consistent.tables.run_removeVerification]
        exact consistent.removed credId.publicKey platform

namespace Transaction

variable {committed : Tables} {tx other : Transaction}

theorem mem_foldl_verifications {rows : List VerificationRow} {tables : Tables}
    {row : VerificationRow} :
    row ∈ (rows.foldl Tables.appendVerification tables).verifications ↔
      row ∈ tables.verifications ∨ row ∈ rows := by
  induction rows generalizing tables with
  | nil => simp
  | cons first rows ih =>
      rw [List.foldl_cons, ih]
      simp [Tables.appendVerification, or_assoc]

theorem foldl_verifications_platform (rows : List VerificationRow) (tables : Tables)
    (platform : Platform) :
    (rows.foldl Tables.appendVerification tables).platform platform =
      tables.platform platform := by
  induction rows generalizing tables with
  | nil => rfl
  | cons first rows ih => rw [List.foldl_cons, ih, Tables.appendVerification_platform]

theorem foldl_platform_verifications (rows : List (Platform × PlatformRow)) (tables : Tables) :
    (rows.foldl (fun tables row => tables.appendPlatform row.2 row.1) tables).verifications =
      tables.verifications := by
  induction rows generalizing tables with
  | nil => rfl
  | cons first rows ih => rw [List.foldl_cons, ih, Tables.appendPlatform_verifications]

theorem mem_foldl_platform {rows : List (Platform × PlatformRow)} {tables : Tables}
    {platform : Platform} {row : PlatformRow} :
    row ∈ (rows.foldl (fun tables row => tables.appendPlatform row.2 row.1) tables).platform
        platform ↔
      row ∈ tables.platform platform ∨ (platform, row) ∈ rows := by
  induction rows generalizing tables with
  | nil => simp
  | cons first rows ih =>
      obtain ⟨where_, added⟩ := first
      rw [List.foldl_cons, ih, List.mem_cons, Prod.mk.injEq]
      by_cases same : platform = where_
      · subst same
        simp [or_assoc]
      · simp [Tables.appendPlatform_other _ _ same, same]

/-- The view has the committed verifications that are not deleted, and the inserted ones. -/
theorem mem_view_verifications {row : VerificationRow} :
    row ∈ (tx.view committed).verifications ↔
      (row ∈ committed.verifications ∧ row.id ∉ tx.deleted) ∨ row ∈ tx.inserted := by
  rw [view, foldl_platform_verifications, mem_foldl_verifications, Tables.mem_erase_verifications]

/-- The view has the committed rows that are not deleted, and the inserted ones. -/
theorem mem_view_platform {platform : Platform} {row : PlatformRow} :
    row ∈ (tx.view committed).platform platform ↔
      row ∈ (committed.erase tx.deleted).platform platform ∨ (platform, row) ∈ tx.rows := by
  rw [view, mem_foldl_platform, foldl_verifications_platform]

/-- The rows of some slots under one verification. -/
def rowsOf (id : Nat) (slots : List Slot) : List (Platform × PlatformRow) :=
  slots.map fun slot => (slot.1, slot.2.row id)

theorem rowsOf_snoc (id : Nat) (slots : List Slot) (slot : Slot) :
    rowsOf id (slots ++ [slot]) = rowsOf id slots ++ [(slot.1, slot.2.row id)] := by
  simp [rowsOf]

theorem foldl_rowsOf (id : Nat) (slots : List Slot) (tables : Tables) :
    (rowsOf id slots).foldl (fun tables row => tables.appendPlatform row.2 row.1) tables =
      tables.install id slots := by
  induction slots generalizing tables with
  | nil => rfl
  | cons slot slots ih => exact ih _

/-- The changes of a transaction fit the committed tables. -/
structure Sound (tx : Transaction) (committed : Tables) : Prop where
  deleted : ∀ id ∈ tx.deleted, ∃ row ∈ committed.verifications, row.id = id
  inserted : ∀ row ∈ tx.inserted, ∀ stored ∈ committed.verifications, stored.id ≠ row.id
  rows : ∀ own ∈ tx.rows, ∀ row ∈ committed.platform own.1,
    row.id = own.2.id ∨ row.credId = own.2.credId →
    ∃ id ∈ tx.deleted, row.verificationId = some id

/-- The deletions have found all and only the verifications of the credentials looked for. -/
structure Relies (tx : Transaction) (committed : Tables) : Prop where
  covered : ∀ key ∈ tx.lookups, ∀ row ∈ committed.platform key.1, row.credId = key.2 →
    ∃ id, row.verificationId = some id ∧ (id ∈ tx.deleted ∨ id ∈ tx.target.getD [])
  owned : ∀ stored ∈ committed.verifications,
    stored.id ∈ tx.deleted ∨ stored.id ∈ tx.target.getD [] →
    ∃ key ∈ tx.lookups, ∃ row ∈ committed.platform key.1,
      row.credId = key.2 ∧ row.verificationId = some stored.id

/-- Two transactions change different rows. -/
structure Apart (tx other : Transaction) : Prop where
  deleted : ∀ id ∈ tx.deleted, id ∉ other.deleted
  inserted : ∀ row ∈ tx.inserted, ∀ stored ∈ other.inserted, row.id ≠ stored.id
  target : ∀ row ∈ tx.inserted, row.id ∉ other.target.getD []
  rows : ∀ own ∈ tx.rows, ∀ row ∈ other.rows, own.1 = row.1 →
    own.2.id ≠ row.2.id ∧ own.2.credId ≠ row.2.credId

/-- The ids of a transaction were handed out between two states of the sequence. -/
structure Drawn (tx : Transaction) (first last : Nat) : Prop where
  inserted : ∀ row ∈ tx.inserted, first ≤ row.id ∧ row.id < last
  target : ∀ id ∈ tx.target.getD [], id < last

theorem Drawn.mono {first last later : Nat} (drawn : tx.Drawn first last) (grows : last ≤ later) :
    tx.Drawn first later where
  inserted row present := ⟨(drawn.inserted row present).1,
    Nat.lt_of_lt_of_le (drawn.inserted row present).2 grows⟩
  target id present := Nat.lt_of_lt_of_le (drawn.target id present) grows

/-- The commit of one transaction keeps the changes of another sound. -/
theorem Sound.commit (sound : other.Sound committed) (apart : tx.Apart other) :
    other.Sound (tx.view committed) where
  deleted id present := by
    obtain ⟨row, stored, rfl⟩ := sound.deleted id present
    exact ⟨row, mem_view_verifications.mpr
      (.inl ⟨stored, fun taken => apart.deleted _ taken present⟩), rfl⟩
  inserted row present stored visible := by
    rcases mem_view_verifications.mp visible with ⟨before, -⟩ | added
    · exact sound.inserted row present stored before
    · exact apart.inserted stored added row present
  rows own present row visible same := by
    rcases mem_view_platform.mp visible with before | added
    · exact sound.rows own present row (Tables.mem_erase_platform.mp before).1 same
    · have distinct := apart.rows _ added own present rfl
      exact absurd same (not_or.mpr ⟨distinct.1, distinct.2⟩)

/-- The undisturbed commit of one transaction keeps what another relies on. -/
theorem Relies.commit (relies : other.Relies committed) (sound : tx.Sound committed)
    (otherSound : other.Sound committed) (apart : tx.Apart other)
    (undisturbed : ∀ row ∈ tx.rows, (row.1, row.2.credId) ∉ other.lookups) :
    other.Relies (tx.view committed) where
  covered key looked row visible same := by
    rcases mem_view_platform.mp visible with before | added
    · exact relies.covered key looked row (Tables.mem_erase_platform.mp before).1 same
    · have key_eq : key = (key.1, row.credId) := by rw [same]
      exact absurd (key_eq ▸ looked) (undisturbed _ added)
  owned stored visible claimed := by
    rcases mem_view_verifications.mp visible with ⟨before, kept⟩ | added
    · obtain ⟨key, looked, row, present, same, points⟩ := relies.owned stored before claimed
      refine ⟨key, looked, row, mem_view_platform.mpr (.inl ?_), same, points⟩
      refine Tables.mem_erase_platform.mpr ⟨present, ?_⟩
      intro id target
      cases points.symm.trans target
      exact kept
    · rcases claimed with deleted | targeted
      · obtain ⟨row, present, same⟩ := otherSound.deleted _ deleted
        exact absurd same (sound.inserted stored added row present)
      · exact absurd targeted (apart.target stored added)

/-- A transaction without changes is sound. -/
theorem Sound.empty (program : DbProgram CallResult) (target : Option (List Nat))
    (lookups : List (Platform × BitVec 256)) :
    (⟨program, [], [], [], target, lookups⟩ : Transaction).Sound committed where
  deleted := by simp
  inserted := by simp
  rows := by simp

/-- A transaction that has ended is apart from every other. -/
theorem Apart.ended (program : DbProgram CallResult) (lookups : List (Platform × BitVec 256)) :
    (⟨program, [], [], [], none, lookups⟩ : Transaction).Apart other ∧
      other.Apart ⟨program, [], [], [], none, lookups⟩ :=
  ⟨⟨by simp, by simp, by simp, by simp⟩, ⟨by simp, by simp, by simp, by simp⟩⟩

theorem Drawn.ended (program : DbProgram CallResult) (lookups : List (Platform × BitVec 256))
    (first last : Nat) :
    (⟨program, [], [], [], none, lookups⟩ : Transaction).Drawn first last :=
  ⟨by simp, by simp⟩

section Deletion

variable {program : DbProgram CallResult} {deleted ids : List Nat}
  {lookups : List (Platform × BitVec 256)}

/-- The snapshot of a deletion covers its credential. -/
theorem Relies.look (consistent : committed.Consistent)
    (relies : (⟨program, deleted, [], [], none, lookups⟩ : Transaction).Relies committed)
    (platform : Platform) (credId : BitVec 256) (next : DbProgram CallResult) :
    (⟨next, deleted, [], [], some ((committed.erase deleted).selected platform credId),
      lookups ++ [(platform, credId)]⟩ : Transaction).Relies committed where
  covered key looked row present same := by
    rcases List.mem_append.mp looked with before | now
    · obtain ⟨id, points, found | none_⟩ := relies.covered key before row present same
      · exact ⟨id, points, .inl found⟩
      · nomatch none_
    · cases List.mem_singleton.mp now
      obtain ⟨id, points, -⟩ := (consistent.platforms platform).target row present
      refine ⟨id, points, ?_⟩
      by_cases taken : id ∈ deleted
      · exact .inl taken
      · refine .inr ((consistent.erase deleted).mem_selected.mpr ⟨row, ?_, same, points⟩)
        refine Tables.mem_erase_platform.mpr ⟨present, ?_⟩
        intro other target
        cases points.symm.trans target
        exact taken
  owned stored present claimed := by
    rcases claimed with found | selected
    · obtain ⟨key, looked, owner⟩ := relies.owned stored present (.inl found)
      exact ⟨key, List.mem_append_left _ looked, owner⟩
    · obtain ⟨row, visible, same, points⟩ := (consistent.erase deleted).mem_selected.mp selected
      exact ⟨_, List.mem_append_right _ (List.mem_singleton.mpr rfl), row,
        (Tables.mem_erase_platform.mp visible).1, same, points⟩

/-- The rows that a deletion still finds. -/
def present (committed : Tables) (deleted ids : List Nat) : List Nat :=
  ids.filter fun id => id ∈ (committed.erase deleted).verifications.map VerificationRow.id

theorem mem_present {id : Nat} :
    id ∈ present committed deleted ids ↔
      id ∈ ids ∧ id ∉ deleted ∧ ∃ row ∈ committed.verifications, row.id = id := by
  simp only [present, List.mem_filter, decide_eq_true_eq, List.mem_map,
    Tables.mem_erase_verifications]
  constructor
  · rintro ⟨listed, row, ⟨stored, kept⟩, rfl⟩
    exact ⟨listed, kept, row, stored, rfl⟩
  · rintro ⟨listed, kept, row, stored, rfl⟩
    exact ⟨listed, row, ⟨stored, kept⟩, rfl⟩

/-- The deletion of the rows that are still there completes what was looked for. -/
theorem Relies.delete (consistent : committed.Consistent)
    (relies : (⟨program, deleted, [], [], some ids, lookups⟩ : Transaction).Relies committed)
    (next : DbProgram CallResult) :
    (⟨next, deleted ++ present committed deleted ids, [], [], none, lookups⟩ : Transaction).Relies
      committed where
  covered key looked row visible same := by
    obtain ⟨id, points, found⟩ := relies.covered key looked row visible same
    refine ⟨id, points, .inl (List.mem_append.mpr ?_)⟩
    by_cases taken : id ∈ deleted
    · exact .inl taken
    · refine .inr (mem_present.mpr ⟨found.resolve_left taken, taken, ?_⟩)
      obtain ⟨other, target, stored⟩ := (consistent.platforms key.1).target row visible
      cases points.symm.trans target
      exact List.mem_map.mp stored
  owned stored before claimed := by
    rcases claimed with listed | none_
    · apply relies.owned stored before
      exact (List.mem_append.mp listed).imp id fun now => (mem_present.mp now).1
    · nomatch none_

/-- A deletion removes committed verifications. -/
theorem Sound.delete
    (sound : (⟨program, deleted, [], [], some ids, lookups⟩ : Transaction).Sound committed)
    (next : DbProgram CallResult) :
    (⟨next, deleted ++ present committed deleted ids, [], [], none, lookups⟩ : Transaction).Sound
      committed where
  deleted id listed :=
    (List.mem_append.mp listed).elim (sound.deleted id) fun now => (mem_present.mp now).2.2
  inserted := by simp
  rows := by simp

/-- The deletion of rows that nobody else deletes keeps two transactions apart. -/
theorem Apart.delete
    (apart : (⟨program, deleted, [], [], some ids, lookups⟩ : Transaction).Apart other)
    (unlocked : ∀ id ∈ ids, id ∉ other.deleted) (next : DbProgram CallResult) :
    (⟨next, deleted ++ present committed deleted ids, [], [], none, lookups⟩ : Transaction).Apart
        other ∧
      other.Apart ⟨next, deleted ++ present committed deleted ids, [], [], none, lookups⟩ := by
  have distinct : ∀ id ∈ deleted ++ present committed deleted ids, id ∉ other.deleted := by
    intro id listed
    rcases List.mem_append.mp listed with before | now
    · exact apart.deleted id before
    · exact unlocked id (mem_present.mp now).1
  refine ⟨⟨distinct, by simp, by simp, by simp⟩, ⟨?_, by simp, by simp, by simp⟩⟩
  exact fun id taken listed => distinct id listed taken

end Deletion

end Transaction

namespace Tables

/-- The first slots leave room for the others. -/
theorem Fits.install {tables : Tables} {id : Nat} {done rest : List Slot}
    (fits : tables.Fits id (done ++ rest)) : (tables.install id done).Fits id rest := by
  induction done generalizing tables with
  | nil => exact fits
  | cons slot done ih => exact ih fits.tail

/-- The first slots do not change the clashes of the others. -/
theorem Fits.clash_install {tables : Tables} {id : Nat} {done rest : List Slot}
    (fits : tables.Fits id (done ++ rest)) :
    (tables.install id done).clash rest = tables.clash rest := by
  induction done generalizing tables with
  | nil => rfl
  | cons slot done ih =>
      rw [Tables.install, ih fits.tail]
      have drops : UniqueKey Prod.fst (slot :: rest) :=
        fits.distinct.sublist (List.cons_sublist_cons.mpr (List.sublist_append_right done rest))
      have narrowed : tables.Fits id (slot :: rest) :=
        ⟨drops, fun other listed => fits.credIds other (by simp at listed ⊢; tauto),
          fun other listed => fits.fresh other (by simp at listed ⊢; tauto), fits.target⟩
      exact narrowed.clash_tail

/-- Slots whose user ids are free do not clash. -/
theorem clash_append {tables : Tables} {done rest : List Slot}
    (free : ∀ slot ∈ done, tables.taken slot = false) :
    tables.clash (done ++ rest) = tables.clash rest := by
  have skipped : done.find? tables.taken = none :=
    List.find?_eq_none.mpr fun slot listed => by simp [free slot listed]
  rw [clash, clash, List.find?_append, skipped, Option.none_or]

end Tables

end Web3Id.SomeVerifier
