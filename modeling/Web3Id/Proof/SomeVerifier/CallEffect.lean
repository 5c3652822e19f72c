import Mathlib.Data.List.Find
import Mathlib.Tactic.Tauto
import Web3Id.Proof.SomeVerifier.Consistency

namespace Web3Id.SomeVerifier

open Library

/-- A slot is a platform together with its entry. -/
abbrev Slot := Platform × PlatformEntry

def Slot.credId (slot : Slot) : BitVec 256 := slot.2.credId.publicKey

/-- The filled slots are listed in the order in which the code visits the platforms. -/
def VerificationsEntry.slots (entry : VerificationsEntry) : List Slot :=
  Platform.supportedPlatforms.filterMap fun platform =>
    (entry.platformEntry platform).map (platform, ·)

theorem VerificationsEntry.mem_slots {entry : VerificationsEntry} {slot : Slot} :
    slot ∈ entry.slots ↔ entry.platformEntry slot.1 = some slot.2 := by
  obtain ⟨platform, value⟩ := slot
  cases platform <;> simp [slots, Platform.supportedPlatforms]

/-- The filled slots are on different platforms. -/
theorem VerificationsEntry.slots_distinct (entry : VerificationsEntry) :
    UniqueKey Prod.fst entry.slots := by
  obtain ⟨telegram, discord, _, _⟩ := entry
  cases telegram <;> cases discord <;>
    simp [slots, Platform.supportedPlatforms, platformEntry, UniqueKey]

/-- The deletions of the call follow the slots. -/
def clearSlots {A : Type} : List Slot → DbProgram A → DbProgram A
  | [], next => next
  | slot :: slots, next =>
      execute (.deleteVerifications slot.1 slot.credId) fun _ => clearSlots slots next

/-- The insertions of the call follow the slots, up to the first clash. -/
def insertSlots : List Slot → Nat → DbProgram (Option String)
  | [], _ => accept
  | slot :: slots, verificationId =>
      insertSlot slot.1 (some slot.2) verificationId (insertSlots slots verificationId)

/-- The call clears its slots, inserts the verification, and inserts its slots. -/
theorem addVerification_slots (entry : VerificationsEntry) :
    addVerification entry =
      execute .connect fun _ =>
      execute .begin fun _ =>
      clearSlots entry.slots <|
      execute (.insertVerification (entry.fullName.map FullName.firstName)
        (entry.fullName.map FullName.lastName) entry.presentation) (insertSlots entry.slots) := by
  obtain ⟨telegram, discord, _, _⟩ := entry
  cases telegram <;> cases discord <;> rfl

/-- The row of the verification that the call inserts. -/
def VerificationsEntry.row (entry : VerificationsEntry) (id : Nat) : VerificationRow where
  id := id
  presentation := entry.presentation
  firstName := entry.fullName.map FullName.firstName
  lastName := entry.fullName.map FullName.lastName

/-- Both names of an entry come from its full name. -/
theorem VerificationsEntry.row_names (entry : VerificationsEntry) (id : Nat) :
    (entry.row id).firstName.isSome = (entry.row id).lastName.isSome := by
  simp [row]

namespace Tables

def clear (tables : Tables) : List Slot → Tables
  | [] => tables
  | slot :: slots => (tables.erase (tables.selected slot.1 slot.credId)).clear slots

/-- These verifications share a credential with the slots. -/
def overlapping (tables : Tables) (slots : List Slot) : List Nat :=
  slots.flatMap fun slot => tables.selected slot.1 slot.credId

/-- The user id of the slot is in the table of its platform. -/
def taken (tables : Tables) (slot : Slot) : Bool :=
  (tables.platform slot.1).any (·.id = slot.2.id)

def clash (tables : Tables) (slots : List Slot) : Option String :=
  (slots.find? tables.taken).map (·.2.id)

def install (tables : Tables) (id : Nat) : List Slot → Tables
  | [] => tables
  | slot :: slots => (tables.appendPlatform (slot.2.row id) slot.1).install id slots

/-- The effect of adding an entry under a drawn id: the clashing user id, and the tables. -/
def added (tables : Tables) (entry : VerificationsEntry) (id : Nat) : Option String × Tables :=
  let cleared := tables.erase (tables.overlapping entry.slots)
  match cleared.clash entry.slots with
  | some userId => (some userId, tables)
  | none => (none, (cleared.appendVerification (entry.row id)).install id entry.slots)

/-- The effect of removing a credential: whether a verification was removed, and the tables. -/
def removed (tables : Tables) (credId : BitVec 256) (platform : Platform) : Bool × Tables :=
  (!(tables.selected platform credId).isEmpty, tables.erase (tables.selected platform credId))

/-- The clashes are found in the tables of the platforms. -/
@[simp] theorem appendVerification_clash (tables : Tables) (row : VerificationRow)
    (slots : List Slot) : (tables.appendVerification row).clash slots = tables.clash slots := by
  have same : (tables.appendVerification row).taken = tables.taken := by
    funext slot
    rw [taken, taken, appendVerification_platform]
  rw [clash, clash, same]

theorem overlapping_cons (tables : Tables) (slot : Slot) (slots : List Slot) :
    tables.overlapping (slot :: slots) =
      tables.selected slot.1 slot.credId ++ tables.overlapping slots := rfl

theorem mem_overlapping {tables : Tables} {slots : List Slot} {id : Nat} :
    id ∈ tables.overlapping slots ↔
      ∃ slot ∈ slots, id ∈ tables.selected slot.1 slot.credId := by
  simp [overlapping]

/-- In consistent tables the overlapping verifications are the owners of the credentials. -/
theorem Consistent.mem_overlapping {tables : Tables} (consistent : tables.Consistent)
    {slots : List Slot} {id : Nat} :
    id ∈ tables.overlapping slots ↔ ∃ slot ∈ slots, ∃ row ∈ tables.platform slot.1,
      row.credId = slot.credId ∧ row.verificationId = some id := by
  simp only [Tables.mem_overlapping, consistent.mem_selected]

/-- After a deletion the overlapping verifications are those that were not deleted. -/
theorem Consistent.overlapping_erase {tables : Tables} (consistent : tables.Consistent)
    (ids : List Nat) (slots : List Slot) (id : Nat) :
    id ∈ (tables.erase ids).overlapping slots ↔ id ∈ tables.overlapping slots ∧ id ∉ ids := by
  rw [(consistent.erase ids).mem_overlapping, consistent.mem_overlapping]
  constructor
  · rintro ⟨slot, listed, row, present, cred, points⟩
    obtain ⟨before, kept⟩ := mem_erase_platform.mp present
    exact ⟨⟨slot, listed, row, before, cred, points⟩, kept id points⟩
  · rintro ⟨⟨slot, listed, row, present, cred, points⟩, absent⟩
    refine ⟨slot, listed, row, mem_erase_platform.mpr ⟨present, ?_⟩, cred, points⟩
    intro other target
    cases points.symm.trans target
    exact absent

/-- The deletions one after the other delete all overlapping verifications. -/
theorem Consistent.clear_eq {tables : Tables} (consistent : tables.Consistent)
    (slots : List Slot) : tables.clear slots = tables.erase (tables.overlapping slots) := by
  induction slots generalizing tables with
  | nil => exact (erase_nil tables).symm
  | cons slot slots ih =>
      rw [clear, ih (consistent.erase _), erase_erase]
      apply erase_congr
      intro id
      rw [List.mem_append, consistent.overlapping_erase, overlapping_cons, List.mem_append]
      tauto

/-- After the deletions no row has a credential of the slots. -/
theorem Consistent.cleared_credId {tables : Tables} (consistent : tables.Consistent)
    {slots : List Slot} {slot : Slot} (listed : slot ∈ slots) {row : PlatformRow}
    (present : row ∈ (tables.erase (tables.overlapping slots)).platform slot.1) :
    row.credId ≠ slot.credId := by
  intro same
  obtain ⟨before, kept⟩ := mem_erase_platform.mp present
  obtain ⟨id, points, -⟩ := (consistent.platforms slot.1).target row before
  exact kept id points (consistent.mem_overlapping.mpr ⟨slot, listed, row, before, same, points⟩)

/-- A row that is inserted is appended, and has a new credential. -/
theorem insertPlatform_ok {tables : Tables} {platform : Platform} {row : PlatformRow}
    {inserted : Option String × Tables} (passes : tables.insertPlatform platform row = .ok inserted)
    (untaken : ¬ (tables.platform platform).any (·.id = row.id) = true) :
    inserted = (some row.id, tables.appendPlatform row platform) ∧
      ∀ other ∈ tables.platform platform, other.credId ≠ row.credId := by
  rw [insertPlatform, if_neg untaken] at passes
  split at passes
  · cases passes
  · rename_i creds
    refine ⟨?_, fun other present same =>
      creds (List.any_eq_true.mpr ⟨other, present, decide_eq_true same⟩)⟩
    split at passes
    · cases passes
    · split at passes
      · cases passes
      · exact (Except.ok.inj passes).symm

/-- The slots fit when their credentials and their verification are new on their platforms. -/
structure Fits (tables : Tables) (id : Nat) (slots : List Slot) : Prop where
  distinct : UniqueKey Prod.fst slots
  credIds : ∀ slot ∈ slots, ∀ row ∈ tables.platform slot.1, row.credId ≠ slot.credId
  fresh : ∀ slot ∈ slots, ∀ row ∈ tables.platform slot.1, row.verificationId ≠ some id
  target : id ∈ tables.verifications.map VerificationRow.id

/-- The other slots do not see an inserted row. -/
theorem Fits.other {tables : Tables} {id : Nat} {slot : Slot} {slots : List Slot}
    (fits : tables.Fits id (slot :: slots)) {other : Slot} (listed : other ∈ slots) :
    (tables.appendPlatform (slot.2.row id) slot.1).platform other.1 = tables.platform other.1 :=
  tables.appendPlatform_other _ ((List.rel_of_pairwise_cons fits.distinct listed).symm)

/-- An inserted slot leaves room for the others. -/
theorem Fits.tail {tables : Tables} {id : Nat} {slot : Slot} {slots : List Slot}
    (fits : tables.Fits id (slot :: slots)) :
    (tables.appendPlatform (slot.2.row id) slot.1).Fits id slots where
  distinct := (List.pairwise_cons.mp fits.distinct).2
  credIds other listed row present := by
    rw [fits.other listed] at present
    exact fits.credIds other (List.mem_cons_of_mem _ listed) row present
  fresh other listed row present := by
    rw [fits.other listed] at present
    exact fits.fresh other (List.mem_cons_of_mem _ listed) row present
  target := by
    rw [appendPlatform_verifications]
    exact fits.target

/-- An inserted slot does not change the clashes of the others. -/
theorem Fits.clash_tail {tables : Tables} {id : Nat} {slot : Slot} {slots : List Slot}
    (fits : tables.Fits id (slot :: slots)) :
    (tables.appendPlatform (slot.2.row id) slot.1).clash slots = tables.clash slots := by
  have same : ∀ other ∈ slots,
      (tables.appendPlatform (slot.2.row id) slot.1).taken other = tables.taken other := by
    intro other listed
    rw [taken, taken, fits.other listed]
  rw [clash, clash, List.find?_congr same]

/-- The insertion of a slot that fits clashes or appends its row. -/
theorem Fits.insertPlatform {tables : Tables} {id : Nat} {slot : Slot} {slots : List Slot}
    (fits : tables.Fits id (slot :: slots)) :
    tables.insertPlatform slot.1 (slot.2.row id) =
      if tables.taken slot then .ok (none, tables)
      else .ok (some slot.2.id, tables.appendPlatform (slot.2.row id) slot.1) := by
  have credId : ¬ (tables.platform slot.1).any (·.credId = (slot.2.row id).credId) = true := by
    rw [List.any_eq_true]
    rintro ⟨row, present, same⟩
    exact fits.credIds slot List.mem_cons_self row present (of_decide_eq_true same)
  have fresh : ¬ ((slot.2.row id).verificationId.isSome ∧
      (tables.platform slot.1).any (·.verificationId = (slot.2.row id).verificationId) = true) := by
    rw [List.any_eq_true]
    rintro ⟨-, row, present, same⟩
    exact fits.fresh slot List.mem_cons_self row present (of_decide_eq_true same)
  have target : ¬ ∃ other ∈ (slot.2.row id).verificationId,
      other ∉ tables.verifications.map VerificationRow.id := by
    rintro ⟨other, same, missing⟩
    cases same
    exact missing fits.target
  rw [Tables.insertPlatform, if_neg credId, if_neg fresh, if_neg target]
  rfl

end Tables

/-- The deletions run on the tables of the transaction. -/
theorem clearSlots_run {A : Type} (slots : List Slot) (next : DbProgram A)
    (committed working : Tables) (sequence : Nat) :
    (clearSlots slots next).run Session.answer ⟨committed, working, sequence, []⟩ =
      next.run Session.answer ⟨committed, working.clear slots, sequence, []⟩ := by
  induction slots generalizing working with
  | nil => rfl
  | cons slot slots ih => exact ih _

/-- The insertions end with the commit, or with the rollback at the first clash. -/
theorem insertSlots_run {slots : List Slot} {id : Nat} {working : Tables} (committed : Tables)
    (sequence : Nat) (fits : working.Fits id slots) :
    (insertSlots slots id).run Session.answer ⟨committed, working, sequence, []⟩ =
      match working.clash slots with
      | some userId => (.ok (some userId), ⟨committed, committed, sequence, []⟩)
      | none =>
          (.ok none, ⟨working.install id slots, working.install id slots, sequence, []⟩) := by
  induction slots generalizing working with
  | nil => rfl
  | cons slot slots ih =>
      have inserted := fits.insertPlatform
      cases taken : working.taken slot with
      | true =>
          rw [taken, if_pos rfl] at inserted
          simp [insertSlots, insertSlot, addPlatformEntry, execute, refuse, Session.answer,
            Session.perform, inserted, Tables.clash, taken]
      | false =>
          rw [taken, if_neg Bool.false_ne_true] at inserted
          have rest := ih fits.tail
          rw [fits.clash_tail] at rest
          have skips : working.clash (slot :: slots) = working.clash slots := by
            simp [Tables.clash, taken]
          rw [skips]
          simpa [insertSlots, insertSlot, addPlatformEntry, execute, Session.answer,
            Session.perform, inserted, Tables.install] using rest

section Call

variable {tables : Tables} {id : Nat}

/-- Tables without the credentials of an entry have room for its slots. -/
theorem Tables.Consistent.fits_of_free (consistent : tables.Consistent)
    (fresh : ∀ row ∈ tables.verifications, row.id ≠ id) {entry : VerificationsEntry}
    (free : ∀ slot ∈ entry.slots, ∀ row ∈ tables.platform slot.1, row.credId ≠ slot.credId) :
    (tables.appendVerification (entry.row id)).Fits id entry.slots where
  distinct := entry.slots_distinct
  credIds slot listed row present := by
    rw [Tables.appendVerification_platform] at present
    exact free slot listed row present
  fresh slot listed row present := by
    rw [Tables.appendVerification_platform] at present
    intro points
    obtain ⟨other, target, stored⟩ := (consistent.platforms slot.1).target row present
    cases points.symm.trans target
    obtain ⟨verification, present, same⟩ := List.mem_map.mp stored
    exact fresh verification present same
  target := by simp [Tables.appendVerification, VerificationsEntry.row]

/-- The cleared tables with the new verification have room for the slots. -/
theorem Tables.Consistent.fits (consistent : tables.Consistent)
    (fresh : ∀ row ∈ tables.verifications, row.id ≠ id) (entry : VerificationsEntry) :
    ((tables.erase (tables.overlapping entry.slots)).appendVerification
      (entry.row id)).Fits id entry.slots :=
  (consistent.erase _).fits_of_free
    (fun row present => fresh row (Tables.mem_erase_verifications.mp present).1)
    fun _ listed _ present => consistent.cleared_credId listed present

/-- A call whose slots fit after the deletions is refused at the first clash, or adds its entry. -/
theorem Tables.Fits.run_addVerification {entry : VerificationsEntry}
    (fits : ((tables.clear entry.slots).appendVerification (entry.row id)).Fits id entry.slots) :
    (Db.mk tables id).run [] (addVerification entry) =
      match (tables.clear entry.slots).clash entry.slots with
      | some userId => (.ok (some userId), ⟨tables, id + 1⟩)
      | none => (.ok none, ⟨((tables.clear entry.slots).appendVerification (entry.row id)).install
          id entry.slots, id + 1⟩) := by
  have inserted := insertSlots_run tables (id + 1) fits
  have cleared : (addVerification entry).run Session.answer ⟨tables, tables, id, []⟩ =
      (insertSlots entry.slots id).run Session.answer
        ⟨tables, (tables.clear entry.slots).appendVerification (entry.row id), id + 1, []⟩ := by
    rw [addVerification_slots]
    simp only [execute, Program.run_call, Session.answer, Session.perform, clearSlots_run]
    have names := entry.row_names id
    simp only [VerificationsEntry.row] at names
    simp only [Tables.insertVerification, if_pos names]
    rfl
  rw [Tables.appendVerification_clash] at inserted
  rw [Db.run, cleared, inserted]
  cases (tables.clear entry.slots).clash entry.slots <;> rfl

/-- A call to add an entry has the stated effect. -/
theorem Tables.Consistent.run_addVerification (consistent : tables.Consistent)
    (fresh : ∀ row ∈ tables.verifications, row.id ≠ id) (entry : VerificationsEntry) :
    (Db.mk tables id).run [] (addVerification entry) =
      (.ok (tables.added entry id).1, ⟨(tables.added entry id).2, id + 1⟩) := by
  have fits := consistent.fits fresh entry
  rw [← consistent.clear_eq] at fits
  rw [fits.run_addVerification, consistent.clear_eq, Tables.added]
  cases (tables.erase (tables.overlapping entry.slots)).clash entry.slots <;> rfl

/-- A call to remove a credential has the stated effect. -/
theorem Tables.Consistent.run_removeVerification (consistent : tables.Consistent)
    (credId : CredentialHolderId) (platform : Platform) :
    (Db.mk tables id).run [] (removeVerification credId platform) =
      (.ok (tables.removed credId.publicKey platform).1,
        ⟨(tables.removed credId.publicKey platform).2, id⟩) := by
  have atMostOne := consistent.selected_length_le platform credId.publicKey
  have notMore : ¬ 1 < (tables.selected platform credId.publicKey).length := by omega
  simp only [Db.run, removeVerification, execute, Program.run_call, Session.answer,
    Session.perform, if_neg notMore, Program.run_pure, Tables.removed]

end Call

end Web3Id.SomeVerifier
