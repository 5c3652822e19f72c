import Web3Id.Proof.SomeVerifier.ConcurrentStore

namespace Web3Id.SomeVerifier

open Library

/-- A deletion looks for the credential of a slot on its platform. -/
def Slot.key (slot : Slot) : Platform × BitVec 256 := (slot.1, slot.credId)

/--
A call with its answer, if it is decided, has reached a statement of its transaction.
An entry has been cleared or inserted in the slots that are done.
-/
inductive Stage : Call → Option CallResult → Transaction → Prop
  | connecting (call : Call) : Stage call none (.start call)
  | beginning (call : Call) :
      Stage call none ⟨execute .begin fun _ => call.body, [], [], [], none, []⟩
  | clearing {entry : VerificationsEntry} {done rest : List Slot} {deleted : List Nat}
      (slots : entry.slots = done ++ rest) :
      Stage (.add entry) none
        ⟨clearSlots rest entry.insertAll, deleted, [], [], none, done.map Slot.key⟩
  | deleting {entry : VerificationsEntry} {done rest : List Slot} {slot : Slot}
      {deleted ids : List Nat} (slots : entry.slots = done ++ slot :: rest) :
      Stage (.add entry) none
        ⟨clearSlots (slot :: rest) entry.insertAll, deleted, [], [], some ids,
          done.map Slot.key ++ [slot.key]⟩
  | inserting {entry : VerificationsEntry} {done rest : List Slot} {deleted : List Nat} {id : Nat}
      (slots : entry.slots = done ++ rest) :
      Stage (.add entry) none
        ⟨label .added (insertSlots rest id), deleted, [entry.row id],
          Transaction.rowsOf id done, none, entry.slots.map Slot.key⟩
  | refusing {entry : VerificationsEntry} {userId : String} {deleted : List Nat}
      {inserted : List VerificationRow} {rows : List (Platform × PlatformRow)}
      {lookups : List (Platform × BitVec 256)} :
      Stage (.add entry) (some (.added (some userId)))
        ⟨label .added (refuse userId), deleted, inserted, rows, none, lookups⟩
  | seeking {credId : CredentialHolderId} {platform : Platform} :
      Stage (.remove credId platform) none
        ⟨(Call.remove credId platform).body, [], [], [], none, []⟩
  | finding {credId : CredentialHolderId} {platform : Platform} {ids : List Nat}
      (atMostOne : ids.length ≤ 1) :
      Stage (.remove credId platform) none
        ⟨(Call.remove credId platform).body, [], [], [], some ids, [(platform, credId.publicKey)]⟩
  | removing {credId : CredentialHolderId} {platform : Platform} {deleted : List Nat}
      (found : deleted ≠ []) :
      Stage (.remove credId platform) none
        ⟨execute .commit fun _ => .pure (.ok (.removed true)), deleted, [], [], none,
          [(platform, credId.publicKey)]⟩
  | missing {credId : CredentialHolderId} {platform : Platform}
      {lookups : List (Platform × BitVec 256)} :
      Stage (.remove credId platform) (some (.removed false))
        ⟨execute .commit fun _ => .pure (.ok (.removed false)), [], [], [], none, lookups⟩
  | finished (call : Call) (result : CallResult) :
      Stage call (some result) ⟨.pure (.ok result), [], [], [], none, []⟩

/-- A transaction without its answer is not decided. -/
theorem Stage.undecided {call : Call} {answer : Option CallResult} {tx : Transaction}
    (stage : Stage call answer tx) (none_ : answer = none) : tx.decided = false := by
  cases stage with
  | connecting =>
      rw [Transaction.start, call.program_eq]
      rfl
  | beginning => rfl
  | @clearing entry done rest deleted slots =>
      cases rest <;> rfl
  | deleting => rfl
  | @inserting entry done rest deleted id slots =>
      cases rest with
      | nil =>
          change (deleted.isEmpty && false && _) = false
          simp
      | cons slot rest => rfl
  | seeking => rfl
  | finding => rfl
  | removing found => simp [Transaction.decided, execute, found]
  | refusing => cases none_
  | missing => cases none_
  | finished => cases none_

/-- A transaction that has ended has its answer. -/
theorem Stage.ended {call : Call} {answer : Option CallResult} {tx : Transaction}
    {result : Except SqlError CallResult} (stage : Stage call answer tx)
    (ended : tx.program = .pure result) : ∃ value, answer = some value ∧ result = .ok value := by
  cases stage with
  | connecting =>
      rw [Transaction.start, call.program_eq] at ended
      cases ended
  | beginning => cases ended
  | @clearing entry done rest deleted slots => cases rest <;> cases ended
  | deleting => cases ended
  | @inserting entry done rest deleted id slots => cases rest <;> cases ended
  | refusing => cases ended
  | seeking => cases ended
  | finding => cases ended
  | removing => cases ended
  | missing => cases ended
  | finished value =>
      cases ended
      exact ⟨_, rfl, rfl⟩

/-- A transaction without deletions relies on nothing. -/
theorem Transaction.Relies.nothing {committed : Tables} (program : DbProgram CallResult) :
    (⟨program, [], [], [], none, []⟩ : Transaction).Relies committed where
  covered := by simp
  owned := by simp

/-- Without a running deletion the deleted verifications are those of the credentials looked for. -/
theorem Transaction.Relies.mem_deleted {tx : Transaction} {committed : Tables}
    (relies : tx.Relies committed) (consistent : committed.Consistent)
    (sound : tx.Sound committed) (idle : tx.target = none) {id : Nat} :
    id ∈ tx.deleted ↔ ∃ key ∈ tx.lookups, id ∈ committed.selected key.1 key.2 := by
  simp only [consistent.mem_selected]
  constructor
  · intro listed
    obtain ⟨stored, present, rfl⟩ := sound.deleted id listed
    exact relies.owned stored present (.inl listed)
  · rintro ⟨key, looked, row, present, same, points⟩
    obtain ⟨other, target, found⟩ := relies.covered key looked row present same
    cases points.symm.trans target
    rw [idle] at found
    exact found.resolve_right List.not_mem_nil

/--
The committed tables are those of the decided calls one after the other, and every other call
relies on them.
-/
structure SerialInvariant {n : Nat} (db : Db) (calls : Fin n → Call) (system : System n)
    (log : List (Entry (Fin n) (Option Nat) CallResult)) : Prop where
  valid : system.Valid db.sequence
  stage : ∀ i, Stage (calls i) (answerTo log i) (system.txs i)
  relies : ∀ i, answerTo log i = none → (system.txs i).Relies system.committed
  unused : ∀ i, answerTo log i = none →
    ∀ row ∈ (system.txs i).inserted, row.id ∉ log.filterMap Entry.choice
  serial : Serial (Serves calls) db.tables log system.committed
  choices : (log.filterMap Entry.choice).Nodup
  range : ∀ id ∈ log.filterMap Entry.choice, db.sequence ≤ id ∧ id < system.sequence

namespace SerialInvariant

variable {n : Nat} {db : Db} {calls : Fin n → Call} {system : System n}
  {log : List (Entry (Fin n) (Option Nat) CallResult)} {i : Fin n} {tx : Transaction}

/-- At the start no call is decided. -/
theorem start (consistent : db.Consistent) (calls : Fin n → Call) :
    SerialInvariant db calls (System.start db calls) [] where
  valid := .start consistent calls
  stage i := .connecting (calls i)
  relies _ _ := .nothing _
  unused _ _ _ _ := List.not_mem_nil
  serial := .nil _
  choices := List.nodup_nil
  range := by simp

theorem consistent (inv : SerialInvariant db calls system log) : system.committed.Consistent :=
  inv.valid.consistent.tables

/-- An undecided transaction is sound and relies on the committed tables. -/
theorem undecided (inv : SerialInvariant db calls system log) (new : answerTo log i = none)
    (found : system.txs i = tx) : tx.Sound system.committed ∧ tx.Relies system.committed := by
  subst found
  exact ⟨inv.valid.sound i, inv.relies i new⟩

/-- One transaction goes on, and may draw from the sequence. -/
theorem update (inv : SerialInvariant db calls system log) {sequence : Nat}
    (later : system.sequence ≤ sequence)
    (valid : ({ system with sequence := sequence }.set i tx).Valid db.sequence)
    (stage : Stage (calls i) (answerTo log i) tx)
    (relies : answerTo log i = none → tx.Relies system.committed)
    (unused : answerTo log i = none → ∀ row ∈ tx.inserted, row.id ∉ log.filterMap Entry.choice) :
    SerialInvariant db calls ({ system with sequence := sequence }.set i tx) log where
  valid := valid
  stage := System.forall_set (fun j => Stage (calls j) (answerTo log j)) stage
    fun j _ => inv.stage j
  relies := System.forall_set (fun j tx => answerTo log j = none → tx.Relies system.committed)
    relies fun j _ => inv.relies j
  unused := System.forall_set (fun j tx => answerTo log j = none →
    ∀ row ∈ tx.inserted, row.id ∉ log.filterMap Entry.choice) unused fun j _ => inv.unused j
  serial := inv.serial
  choices := inv.choices
  range id listed := ⟨(inv.range id listed).1, Nat.lt_of_lt_of_le (inv.range id listed).2 later⟩

/-- The ids of the log are those of its entries. -/
theorem choices_snoc (log : List (Entry (Fin n) (Option Nat) CallResult))
    (entry : Entry (Fin n) (Option Nat) CallResult) :
    (log ++ [entry]).filterMap Entry.choice =
      log.filterMap Entry.choice ++ entry.choice.toList := by
  rw [List.filterMap_append, List.filterMap_cons]
  cases entry.choice <;> rfl

variable {choice : Option Nat} {answer : CallResult} {after : Tables}

/-- One transaction is decided, and its effect is that of its call served alone. -/
theorem serve (inv : SerialInvariant db calls system log) (new : answerTo log i = none)
    (served : Serves calls ⟨i, choice, answer⟩ system.committed after)
    (valid : ({ system with committed := after }.set i tx).Valid db.sequence)
    (drawn : ∀ id ∈ choice, ∃ row ∈ (system.txs i).inserted, row.id = id)
    (stage : Stage (calls i) (some answer) tx)
    (relies : ∀ j, j ≠ i → answerTo log j = none → (system.txs j).Relies after) :
    SerialInvariant db calls ({ system with committed := after }.set i tx)
      (log ++ [⟨i, choice, answer⟩]) where
  valid := valid
  stage := by
    refine System.forall_set (fun j => Stage (calls j) (answerTo _ j)) ?_ fun j other => ?_
    · rw [answerTo_snoc_self new]
      exact stage
    · rw [answerTo_snoc_other other]
      exact inv.stage j
  relies := by
    refine System.forall_set (fun j tx => answerTo _ j = none → tx.Relies after) ?_
      fun j other none_ => ?_
    · rw [answerTo_snoc_self new]
      simp
    · rw [answerTo_snoc_other other] at none_
      exact relies j other none_
  unused := by
    refine System.forall_set (fun j tx => answerTo _ j = none → ∀ row ∈ tx.inserted, row.id ∉ _) ?_
      fun j other none_ row inserted listed => ?_
    · rw [answerTo_snoc_self new]
      simp
    · rw [answerTo_snoc_other other] at none_
      rw [choices_snoc] at listed
      rcases List.mem_append.mp listed with earlier | now
      · exact inv.unused j none_ row inserted earlier
      · obtain ⟨own, ownInserted, same⟩ := drawn _ (Option.mem_toList.mp now)
        exact (inv.valid.apart _ _ other.symm).inserted own ownInserted row inserted same
  serial := inv.serial.snoc (answerTo_eq_none.mp new) served
  choices := by
    rw [choices_snoc]
    refine inv.choices.append choice.toList_nodup ?_
    intro id earlier now
    obtain ⟨own, ownInserted, rfl⟩ := drawn id (Option.mem_toList.mp now)
    exact inv.unused i new own ownInserted earlier
  range id listed := by
    rw [choices_snoc, List.mem_append, Option.mem_toList] at listed
    rcases listed with earlier | now
    · exact inv.range id earlier
    · obtain ⟨own, ownInserted, rfl⟩ := drawn id now
      exact (inv.valid.drawn i).inserted own ownInserted

/-- The undisturbed commit of a call whose view is its effect decides the call. -/
theorem commit (inv : SerialInvariant db calls system log) (new : answerTo log i = none)
    (served : Serves calls ⟨i, choice, answer⟩ system.committed
      ((system.txs i).view system.committed))
    (consistent : ((system.txs i).view system.committed).Consistent)
    (drawn : ∀ id ∈ choice, ∃ row ∈ (system.txs i).inserted, row.id = id)
    (undisturbed : ∀ j, j ≠ i → (system.txs j).decided = false →
      ∀ row ∈ (system.txs i).rows, (row.1, row.2.credId) ∉ (system.txs j).lookups) :
    SerialInvariant db calls
      ({ system with committed := (system.txs i).view system.committed }.set i
        ⟨.pure (.ok answer), [], [], [], none, []⟩) (log ++ [⟨i, choice, answer⟩]) := by
  refine inv.serve new served (inv.valid.commit consistent _) drawn (.finished _ _)
    fun j other none_ => ?_
  exact (inv.relies j none_).commit (inv.valid.sound i) (inv.valid.sound j)
    (inv.valid.apart i j other.symm) (undisturbed j other ((inv.stage j).undecided none_))

/-- A decided call returns its answer. -/
theorem finish (inv : SerialInvariant db calls system log) (answered : answerTo log i = some answer) :
    SerialInvariant db calls (system.set i ⟨.pure (.ok answer), [], [], [], none, []⟩) log := by
  refine inv.update (Nat.le_refl _) (inv.valid.drop _ _) ?_ (fun _ => .nothing _) (by simp)
  rw [answered]
  exact .finished _ _

/-- When all calls have returned, the log is a serial order of them. -/
theorem serializable (inv : SerialInvariant db calls system log) (complete : system.Complete) :
    Serializable db calls system := by
  refine ⟨log, inv.serial, fun i => ?_, inv.choices, inv.range⟩
  obtain ⟨result, ended⟩ := complete i
  obtain ⟨value, answered, rfl⟩ := (inv.stage i).ended ended
  obtain ⟨entry, listed, caller, rfl⟩ := exists_of_answerTo answered
  exact ⟨entry, listed, caller, ended⟩

section Deletion

variable {program following : DbProgram CallResult} {deleted ids : List Nat}
  {target : Option (List Nat)} {lookups : List (Platform × BitVec 256)} {platform : Platform}
  {credId : BitVec 256}

/-- A deletion that looks for its rows keeps the invariant. -/
theorem look (inv : SerialInvariant db calls system log) (new : answerTo log i = none)
    (found : system.txs i = ⟨program, deleted, [], [], none, lookups⟩)
    (selects : target.getD [] = (system.committed.erase deleted).selected platform credId)
    (stage : Stage (calls i) none
      ⟨following, deleted, [], [], target, lookups ++ [(platform, credId)]⟩) :
    SerialInvariant db calls
      (system.set i ⟨following, deleted, [], [], target, lookups ++ [(platform, credId)]⟩) log := by
  obtain ⟨-, before⟩ := inv.undecided new found
  have relies := before.look inv.consistent platform credId following
  refine inv.update (Nat.le_refl _)
    (inv.valid.look found platform credId (fun _ listed => selects ▸ listed) following _) (new ▸ stage)
    (fun _ => ⟨?_, ?_⟩) (by simp)
  · exact selects ▸ relies.covered
  · exact selects ▸ relies.owned

/-- A deletion that removes its rows keeps the invariant. -/
theorem delete (inv : SerialInvariant db calls system log) (new : answerTo log i = none)
    (found : system.txs i = ⟨program, deleted, [], [], some ids, lookups⟩)
    (unlocked : ∀ j, j ≠ i → ∀ id ∈ ids, id ∉ (system.txs j).deleted)
    (stage : Stage (calls i) none
      ⟨following, deleted ++ Transaction.present system.committed deleted ids, [], [], none,
        lookups⟩) :
    SerialInvariant db calls
      (system.set i ⟨following, deleted ++ Transaction.present system.committed deleted ids, [], [],
        none, lookups⟩) log := by
  obtain ⟨-, before⟩ := inv.undecided new found
  exact inv.update (Nat.le_refl _) (inv.valid.delete found unlocked following) (new ▸ stage)
    (fun _ => before.delete inv.consistent following) (by simp)

end Deletion

end SerialInvariant

end Web3Id.SomeVerifier
