import Web3Id.Proof.SomeVerifier.CallEffect

namespace Web3Id.SomeVerifier

open Library

/-- An entry has at most one row for each platform. -/
def VerificationsEntry.platformRows (entry : VerificationsEntry) (id : Nat) (platform : Platform) :
    List PlatformRow := ((entry.platformEntry platform).map fun slot => slot.row id).toList

theorem VerificationsEntry.mem_platformRows {entry : VerificationsEntry} {id : Nat}
    {platform : Platform} {row : PlatformRow} :
    row ∈ entry.platformRows id platform ↔
      ∃ slot, entry.platformEntry platform = some slot ∧ row = slot.row id := by
  unfold platformRows
  cases entry.platformEntry platform with
  | none => simp
  | some slot => simp

theorem VerificationsEntry.slots_rows (entry : VerificationsEntry) (id : Nat)
    (platform : Platform) :
    ((entry.slots.filter fun slot => slot.1 = platform).map fun slot => slot.2.row id) =
      entry.platformRows id platform := by
  obtain ⟨telegram, discord, _, _⟩ := entry
  cases platform <;> cases telegram <;> cases discord <;> rfl

namespace Tables

@[simp] theorem install_verifications (tables : Tables) (id : Nat) (slots : List Slot) :
    (tables.install id slots).verifications = tables.verifications := by
  induction slots generalizing tables with
  | nil => rfl
  | cons slot slots ih => rw [install, ih, appendPlatform_verifications]

/-- The rows of the slots follow the rows that are there. -/
theorem install_platform (tables : Tables) (id : Nat) (slots : List Slot) (platform : Platform) :
    (tables.install id slots).platform platform = tables.platform platform ++
      (slots.filter fun slot => slot.1 = platform).map fun slot => slot.2.row id := by
  induction slots generalizing tables with
  | nil => simp [install]
  | cons slot slots ih =>
      rw [install, ih]
      by_cases same : slot.1 = platform
      · subst same
        simp
      · rw [appendPlatform_other _ _ (Ne.symm same)]
        simp [same]

/-- The tables after an entry without a clash is added. -/
def withEntry (tables : Tables) (entry : VerificationsEntry) (id : Nat) : Tables :=
  ((tables.erase (tables.overlapping entry.slots)).appendVerification (entry.row id)).install id
    entry.slots

/-- An entry is refused with a clashing user id, or its rows replace the overlapping ones. -/
theorem added_cases (tables : Tables) (entry : VerificationsEntry) (id : Nat) :
    (∃ userId, (tables.erase (tables.overlapping entry.slots)).clash entry.slots = some userId ∧
      tables.added entry id = (some userId, tables)) ∨
    ((tables.erase (tables.overlapping entry.slots)).clash entry.slots = none ∧
      tables.added entry id = (none, tables.withEntry entry id)) := by
  cases clashes : (tables.erase (tables.overlapping entry.slots)).clash entry.slots with
  | some userId => exact .inl ⟨userId, rfl, by simp only [added, clashes]⟩
  | none => exact .inr ⟨rfl, by simp only [added, clashes, withEntry]⟩

theorem mem_withEntry_verifications {tables : Tables} {entry : VerificationsEntry} {id : Nat}
    {row : VerificationRow} :
    row ∈ (tables.withEntry entry id).verifications ↔
      (row ∈ tables.verifications ∧ row.id ∉ tables.overlapping entry.slots) ∨
        row = entry.row id := by
  rw [withEntry, install_verifications, appendVerification, List.mem_append,
    mem_erase_verifications, List.mem_singleton]

theorem withEntry_platform (tables : Tables) (entry : VerificationsEntry) (id : Nat)
    (platform : Platform) :
    (tables.withEntry entry id).platform platform =
      (tables.erase (tables.overlapping entry.slots)).platform platform ++
        entry.platformRows id platform := by
  rw [withEntry, install_platform, appendVerification_platform, entry.slots_rows]

theorem mem_withEntry_platform {tables : Tables} {entry : VerificationsEntry} {id : Nat}
    {platform : Platform} {row : PlatformRow} :
    row ∈ (tables.withEntry entry id).platform platform ↔
      row ∈ (tables.erase (tables.overlapping entry.slots)).platform platform ∨
        ∃ slot, entry.platformEntry platform = some slot ∧ row = slot.row id := by
  rw [withEntry_platform, List.mem_append, entry.mem_platformRows]

theorem clash_eq_none {tables : Tables} {slots : List Slot} :
    tables.clash slots = none ↔ ∀ slot ∈ slots, tables.taken slot = false := by
  simp [clash, List.find?_eq_none]

/-- Without a clash no remaining row has the user id of a slot. -/
theorem clash_none {tables : Tables} {slots : List Slot} (free : tables.clash slots = none)
    {slot : Slot} (listed : slot ∈ slots) {row : PlatformRow}
    (present : row ∈ tables.platform slot.1) : row.id ≠ slot.2.id := by
  intro same
  have untaken := clash_eq_none.mp free slot listed
  rw [taken, List.any_eq_false] at untaken
  exact untaken row present (decide_eq_true same)

variable {tables : Tables} {entry : VerificationsEntry} {id : Nat}

/-- Slots that fit without a clash keep the tables consistent. -/
theorem Consistent.install (consistent : tables.Consistent) {slots : List Slot}
    (fits : tables.Fits id slots) (free : tables.clash slots = none) :
    (tables.install id slots).Consistent := by
  induction slots generalizing tables with
  | nil => exact consistent
  | cons slot slots ih =>
      have first : slot ∈ slot :: slots := List.mem_cons_self
      have others : tables.clash slots = none := clash_eq_none.mpr fun other listed =>
        clash_eq_none.mp free other (List.mem_cons_of_mem _ listed)
      refine ih (consistent.appendPlatform rfl fits.target (fun _ => clash_none free first)
        (fits.credIds slot first) (fits.fresh slot first)) fits.tail ?_
      rw [fits.clash_tail, others]

/-- A new verification with slots that fit without a clash keeps the tables consistent. -/
theorem Consistent.record (consistent : tables.Consistent)
    (fresh : ∀ row ∈ tables.verifications, row.id ≠ id)
    (fits : (tables.appendVerification (entry.row id)).Fits id entry.slots)
    (free : tables.clash entry.slots = none) :
    ((tables.appendVerification (entry.row id)).install id entry.slots).Consistent := by
  apply (consistent.appendVerification fresh (entry.row_names id)).install fits
  rw [appendVerification_clash]
  exact free

/-- An entry without a clash keeps the tables consistent. -/
theorem Consistent.withEntry (consistent : tables.Consistent)
    (fresh : ∀ row ∈ tables.verifications, row.id ≠ id)
    (free : (tables.erase (tables.overlapping entry.slots)).clash entry.slots = none) :
    (tables.withEntry entry id).Consistent :=
  (consistent.erase (tables.overlapping entry.slots)).record
    (fun row present => fresh row (mem_erase_verifications.mp present).1)
    (consistent.fits fresh entry) free

/-- Adding an entry under a new id keeps the tables consistent. -/
theorem Consistent.added (consistent : tables.Consistent)
    (fresh : ∀ row ∈ tables.verifications, row.id ≠ id) :
    (tables.added entry id).2.Consistent := by
  rcases tables.added_cases entry id with ⟨userId, -, refused⟩ | ⟨free, accepted⟩
  · rw [refused]
    exact consistent
  · rw [accepted]
    exact consistent.withEntry fresh free

/-- The ids after the call are ids from before it and the drawn id. -/
theorem added_ids {row : VerificationRow} (present : row ∈ (tables.added entry id).2.verifications) :
    row ∈ tables.verifications ∨ row.id = id := by
  rcases tables.added_cases entry id with ⟨userId, -, refused⟩ | ⟨-, accepted⟩
  · rw [refused] at present
    exact .inl present
  · rw [accepted] at present
    rcases mem_withEntry_verifications.mp present with ⟨before, -⟩ | rfl
    · exact .inl before
    · exact .inr rfl

end Tables

namespace Db.Consistent

variable {db : Db}

/-- The sequence gives a new id. -/
theorem fresh (consistent : db.Consistent) : ∀ row ∈ db.tables.verifications, row.id ≠ db.sequence :=
  fun row present => Nat.ne_of_lt (consistent.below row present)

/-- The sequence may go on without a change of the tables. -/
theorem grown (consistent : db.Consistent) {after : Db} (tables : after.tables = db.tables)
    (sequence : db.sequence ≤ after.sequence) : after.Consistent where
  tables := tables ▸ consistent.tables
  below row present :=
    Nat.lt_of_lt_of_le (consistent.below row (tables ▸ present)) sequence

/-- A call to add an entry keeps the database consistent. -/
theorem added (consistent : db.Consistent) (entry : VerificationsEntry) :
    (Db.mk (db.tables.added entry db.sequence).2 (db.sequence + 1)).Consistent where
  tables := consistent.tables.added consistent.fresh
  below row present := by
    rcases Tables.added_ids present with before | same
    · exact Nat.lt_succ_of_lt (consistent.below row before)
    · exact same ▸ Nat.lt_succ_self _

/-- A call to remove a credential keeps the database consistent. -/
theorem removed (consistent : db.Consistent) (credId : BitVec 256) (platform : Platform) :
    (Db.mk (db.tables.removed credId platform).2 db.sequence).Consistent where
  tables := consistent.tables.erase _
  below row present := consistent.below row (Tables.mem_erase_verifications.mp present).1

end Db.Consistent

end Web3Id.SomeVerifier
