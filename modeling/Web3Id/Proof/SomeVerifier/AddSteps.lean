import Web3Id.Proof.SomeVerifier.SerialInvariant

namespace Web3Id.SomeVerifier

open Library

/-- The tables of a call that has inserted some of the slots of its entry. -/
def Tables.withSlots (tables : Tables) (entry : VerificationsEntry) (id : Nat)
    (done : List Slot) : Tables :=
  ((tables.erase (tables.overlapping entry.slots)).appendVerification (entry.row id)).install id
    done

namespace Transaction

variable {committed : Tables} {program : DbProgram CallResult} {entry : VerificationsEntry}
  {done rest : List Slot} {deleted : List Nat} {id : Nat}

/-- The deletions of an entry have cleared the overlapping verifications. -/
theorem Relies.cleared {tx : Transaction} (relies : tx.Relies committed)
    (consistent : committed.Consistent) (sound : tx.Sound committed) (idle : tx.target = none)
    (lookups : tx.lookups = entry.slots.map Slot.key) :
    committed.erase tx.deleted = committed.erase (committed.overlapping entry.slots) := by
  apply committed.erase_congr
  intro other
  rw [relies.mem_deleted consistent sound idle, lookups, Tables.mem_overlapping]
  simp [Slot.key]

/-- A transaction that inserts its slots sees those that are done, with room for the others. -/
theorem view_withSlots (consistent : committed.Consistent)
    (slots : entry.slots = done ++ rest)
    (sound : (⟨program, deleted, [entry.row id], rowsOf id done, none,
      entry.slots.map Slot.key⟩ : Transaction).Sound committed)
    (relies : (⟨program, deleted, [entry.row id], rowsOf id done, none,
      entry.slots.map Slot.key⟩ : Transaction).Relies committed) :
    (⟨program, deleted, [entry.row id], rowsOf id done, none,
        entry.slots.map Slot.key⟩ : Transaction).view committed =
      committed.withSlots entry id done ∧
    (committed.withSlots entry id done).Fits id rest ∧
    (committed.withSlots entry id done).clash rest =
      (committed.erase (committed.overlapping entry.slots)).clash entry.slots := by
  have cleared := relies.cleared consistent sound rfl rfl
  have fresh : ∀ row ∈ committed.verifications, row.id ≠ id := sound.inserted _ List.mem_cons_self
  have fits := consistent.fits fresh entry
  rw [slots] at fits
  have free : ∀ slot ∈ done,
      (committed.erase (committed.overlapping entry.slots)).taken slot = false := by
    intro slot listed
    rw [← cleared]
    exact sound.untaken listed
  refine ⟨?_, ?_, ?_⟩
  · rw [view, foldl_rowsOf, cleared]
    rfl
  · rw [Tables.withSlots, slots]
    exact fits.install
  · rw [slots] at free
    rw [Tables.withSlots, slots, fits.clash_install, Tables.appendVerification_clash,
      Tables.clash_append free]

end Transaction

namespace SerialInvariant

variable {n : Nat} {db : Db} {calls : Fin n → Call} {system after : System n}
  {log : List (Entry (Fin n) (Option Nat) CallResult)} {i : Fin n} {entry : VerificationsEntry}
  {program : DbProgram CallResult} {done rest : List Slot} {slot : Slot} {deleted : List Nat}
  {id : Nat}

/-- A deletion of an entry selects the rows of a slot, or finds none and goes on. -/
theorem lookSlot (inv : SerialInvariant db calls system log) (new : answerTo log i = none)
    (call : calls i = .add entry) (slots : entry.slots = done ++ slot :: rest)
    (found : system.txs i = ⟨clearSlots (slot :: rest) entry.insertAll, deleted, [], [], none,
      done.map Slot.key⟩)
    (stepped : system.perform i (clearSlots (slot :: rest) entry.insertAll) = some after) :
    SerialInvariant db calls after log := by
  rcases System.perform_look found stepped with rfl | ⟨nothing, rfl⟩
  · refine inv.look new found rfl ?_
    rw [call]
    exact .deleting slots
  · rw [Transaction.resume_clearSlots]
    refine inv.look new found nothing.symm ?_
    have cleared : entry.slots = (done ++ [slot]) ++ rest := by simpa using slots
    have looked : done.map Slot.key ++ [slot.key] = (done ++ [slot]).map Slot.key := by simp
    change Stage _ _ ⟨_, _, _, _, _, done.map Slot.key ++ [slot.key]⟩
    rw [call, looked]
    exact .clearing cleared

/-- A deletion of an entry removes the rows of a slot. -/
theorem deleteSlot (inv : SerialInvariant db calls system log) (new : answerTo log i = none)
    (call : calls i = .add entry) (slots : entry.slots = done ++ slot :: rest) {ids : List Nat}
    (found : system.txs i = ⟨clearSlots (slot :: rest) entry.insertAll, deleted, [], [], some ids,
      done.map Slot.key ++ [slot.key]⟩)
    (stepped : system.perform i (clearSlots (slot :: rest) entry.insertAll) = some after) :
    SerialInvariant db calls after log := by
  obtain ⟨unlocked, rfl⟩ := System.perform_delete found stepped
  rw [Transaction.resume_clearSlots]
  refine inv.delete new found unlocked ?_
  have cleared : entry.slots = (done ++ [slot]) ++ rest := by simpa using slots
  have looked : done.map Slot.key ++ [slot.key] = (done ++ [slot]).map Slot.key := by simp
  rw [call, looked]
  exact .clearing cleared

/-- The insertion of a verification draws an id that no decided call has. -/
theorem insertVerification (inv : SerialInvariant db calls system log)
    (new : answerTo log i = none) (call : calls i = .add entry)
    (found : system.txs i = ⟨program, deleted, [], [], none, entry.slots.map Slot.key⟩)
    (stepped : system.perform i entry.insertAll = some after) :
    SerialInvariant db calls after log := by
  rw [VerificationsEntry.insertAll, System.perform_insertVerification found] at stepped
  cases Option.some.inj stepped
  rw [Transaction.resume_insertSlots]
  obtain ⟨-, before⟩ := inv.undecided new found
  refine inv.update (Nat.le_succ _) (inv.valid.insertVerification found entry _) ?_
    (fun _ => ⟨before.covered, before.owned⟩) fun _ row inserted listed => ?_
  · rw [new, call]
    exact @Stage.inserting entry [] entry.slots deleted system.sequence rfl
  · cases List.mem_singleton.mp inserted
    exact Nat.lt_irrefl _ (inv.range _ listed).2

/-- An insertion that finds its user id taken decides that the call is refused. -/
theorem refuseSlot (inv : SerialInvariant db calls system log) (new : answerTo log i = none)
    (call : calls i = .add entry) (slots : entry.slots = done ++ slot :: rest)
    (found : system.txs i = ⟨program, deleted, [entry.row id], Transaction.rowsOf id done, none,
      entry.slots.map Slot.key⟩)
    (taken : ((system.txs i).view system.committed).taken slot = true) :
    SerialInvariant db calls
      (system.set i ((system.txs i).resume (label .added (refuse slot.2.id))))
      (log ++ [⟨i, some id, .added (some slot.2.id)⟩]) := by
  obtain ⟨sound, before⟩ := inv.undecided new found
  obtain ⟨view, -, clash⟩ := Transaction.view_withSlots inv.consistent slots sound before
  rw [found, view] at taken
  have clashes : (system.committed.erase (system.committed.overlapping entry.slots)).clash
      entry.slots = some slot.2.id := by
    rw [← clash]
    simp [Tables.clash, taken]
  have refused : system.committed.added entry id = (some slot.2.id, system.committed) := by
    simp only [Tables.added, clashes]
  have served := serves_add call inv.consistent (sound.inserted _ List.mem_cons_self)
  rw [VerificationsEntry.row, refused] at served
  refine inv.serve new served (inv.valid.proceed i _) ?_ ?_ fun j _ => inv.relies j
  · rintro _ ⟨⟩
    rw [found]
    exact ⟨entry.row id, List.mem_cons_self, rfl⟩
  · rw [call, found]
    exact .refusing

/-- An insertion of a row with new keys goes on with the next slot. -/
theorem insertSlot (inv : SerialInvariant db calls system log) (new : answerTo log i = none)
    (call : calls i = .add entry) (slots : entry.slots = done ++ slot :: rest)
    (found : system.txs i = ⟨program, deleted, [entry.row id], Transaction.rowsOf id done, none,
      entry.slots.map Slot.key⟩) (newKeys : system.NewKeys i slot) :
    SerialInvariant db calls
      (system.set i (((system.txs i).insertPlatform slot.1 (slot.2.row id)).resume
        (label .added (insertSlots rest id)))) log := by
  obtain ⟨-, before⟩ := inv.undecided new found
  have unused := inv.unused i new
  have valid := inv.valid.insertPlatform newKeys id (label .added (insertSlots rest id))
  rw [found] at unused valid
  rw [Transaction.resume_insertSlots, found]
  refine inv.update (Nat.le_refl _) valid ?_ (fun _ => ⟨before.covered, before.owned⟩)
    fun _ => unused
  rw [new, call, Transaction.insertPlatform, ← Transaction.rowsOf_snoc]
  exact .inserting (by simpa using slots)

/-- An insertion of a slot decides that the call is refused, or goes on with the next slot. -/
theorem performSlot (inv : SerialInvariant db calls system log) (new : answerTo log i = none)
    (call : calls i = .add entry) (slots : entry.slots = done ++ slot :: rest)
    (found : system.txs i = ⟨program, deleted, [entry.row id], Transaction.rowsOf id done, none,
      entry.slots.map Slot.key⟩)
    (stepped : system.perform i (label .added (insertSlots (slot :: rest) id)) = some after) :
    ∃ later, SerialInvariant db calls after later := by
  obtain ⟨sound, before⟩ := inv.undecided new found
  obtain ⟨view, fits, -⟩ := Transaction.view_withSlots inv.consistent slots sound before
  rw [label_insertSlots_cons] at stepped
  rcases System.perform_insertPlatform stepped with
    ⟨taken, rfl⟩ | ⟨error, fails, -⟩ | ⟨newKeys, rfl⟩
  · exact ⟨_, inv.refuseSlot new call slots found taken⟩
  · rw [found, view, fits.insertPlatform] at fails
    split at fails <;> cases fails
  · exact ⟨_, inv.insertSlot new call slots found newKeys⟩

/-- The undisturbed commit of an entry decides that it is added. -/
theorem commitEntry (inv : SerialInvariant db calls system log) (new : answerTo log i = none)
    (call : calls i = .add entry)
    (found : system.txs i = ⟨program, deleted, [entry.row id], Transaction.rowsOf id entry.slots,
      none, entry.slots.map Slot.key⟩)
    (undisturbed : ∀ j, j ≠ i → (system.txs j).decided = false →
      ∀ row ∈ (system.txs i).rows, (row.1, row.2.credId) ∉ (system.txs j).lookups) :
    SerialInvariant db calls
      ({ system with committed := (system.txs i).view system.committed }.set i
        ⟨.pure (.ok (.added none)), [], [], [], none, []⟩)
      (log ++ [⟨i, some id, .added none⟩]) := by
  obtain ⟨sound, before⟩ := inv.undecided new found
  obtain ⟨view, -, clash⟩ := Transaction.view_withSlots inv.consistent
    (List.append_nil _).symm sound before
  have accepted : system.committed.added entry id =
      (none, system.committed.withSlots entry id entry.slots) := by
    simp only [Tables.added, ← clash]
    rfl
  have served := serves_add call inv.consistent (sound.inserted _ List.mem_cons_self)
  have consistent := sound.consistent inv.consistent
  rw [VerificationsEntry.row, accepted, ← view] at served
  rw [← found] at served consistent
  refine inv.commit new served consistent ?_ undisturbed
  rintro _ ⟨⟩
  rw [found]
  exact ⟨entry.row id, List.mem_cons_self, rfl⟩

end SerialInvariant

end Web3Id.SomeVerifier
