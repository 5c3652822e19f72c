import Web3Id.Proof.SomeVerifier.ConcurrentStore

namespace Web3Id.SomeVerifier

open Library

namespace Tables

/-- A verification is replaced when it has a row with a credential of the entry on its platform. -/
def Replaced (tables : Tables) (entry : VerificationsEntry) (id : Nat) : Prop :=
  ∃ slot ∈ entry.slots, ∃ row ∈ tables.platform slot.1,
    row.credId = slot.credId ∧ row.verificationId = some id

instance (tables : Tables) (entry : VerificationsEntry) (id : Nat) :
    Decidable (tables.Replaced entry id) :=
  inferInstanceAs (Decidable (∃ slot ∈ entry.slots, ∃ row ∈ tables.platform slot.1,
    row.credId = slot.credId ∧ row.verificationId = some id))

/-- The row belongs to a verification that is replaced. -/
def ReplacedRow (tables : Tables) (entry : VerificationsEntry) (row : PlatformRow) : Prop :=
  ∃ id, row.verificationId = some id ∧ tables.Replaced entry id

instance (tables : Tables) (entry : VerificationsEntry) (row : PlatformRow) :
    Decidable (tables.ReplacedRow entry row) :=
  match points : row.verificationId with
  | none => isFalse (by simp [ReplacedRow, points])
  | some id => decidable_of_iff (tables.Replaced entry id) (by simp [ReplacedRow, points])

/-- A row that is not replaced has the user id of the entry for the platform. -/
def Clashes (tables : Tables) (entry : VerificationsEntry) (platform : Platform)
    (userId : String) : Prop :=
  ∃ slot, entry.platformEntry platform = some slot ∧ slot.id = userId ∧
    ∃ row ∈ tables.platform platform, row.id = userId ∧ ¬ tables.ReplacedRow entry row

/-- The rows of the entry take the place of the rows that are replaced. -/
def replace (tables : Tables) (entry : VerificationsEntry) (id : Nat) : Tables where
  verifications :=
    (tables.verifications.filter fun row => ¬ tables.Replaced entry row.id) ++ [entry.row id]
  discord := (tables.discord.filter fun row => ¬ tables.ReplacedRow entry row) ++
    entry.platformRows id .discord
  telegram := (tables.telegram.filter fun row => ¬ tables.ReplacedRow entry row) ++
    entry.platformRows id .telegram

variable {tables : Tables} {entry : VerificationsEntry} {id : Nat}

/-- In consistent tables the verifications that are deleted are those that are replaced. -/
theorem Consistent.mem_overlapping_iff (consistent : tables.Consistent) :
    id ∈ tables.overlapping entry.slots ↔ tables.Replaced entry id :=
  consistent.mem_overlapping

theorem Consistent.mem_kept (consistent : tables.Consistent) {platform : Platform}
    {row : PlatformRow} :
    row ∈ (tables.erase (tables.overlapping entry.slots)).platform platform ↔
      row ∈ tables.platform platform ∧ ¬ tables.ReplacedRow entry row := by
  rw [mem_erase_platform]
  simp only [consistent.mem_overlapping_iff, ReplacedRow, Option.mem_def, not_exists, not_and]

/-- The rows that are left are the rows that are not replaced. -/
theorem Consistent.keeps_iff_kept (consistent : tables.Consistent) {row : PlatformRow} :
    keeps (tables.overlapping entry.slots) row = true ↔ ¬ tables.ReplacedRow entry row := by
  rw [keeps_iff]
  simp only [consistent.mem_overlapping_iff, ReplacedRow, Option.mem_def, not_exists, not_and]

/-- An accepted entry replaces exactly the rows of the verifications it shares a credential with. -/
theorem Consistent.withEntry_eq (consistent : tables.Consistent) :
    tables.withEntry entry id = tables.replace entry id := by
  have rows : ∀ list : List PlatformRow, list.filter (keeps (tables.overlapping entry.slots)) =
      list.filter fun row => ¬ tables.ReplacedRow entry row := by
    intro list
    apply List.filter_congr
    intro row _
    rw [Bool.eq_iff_iff, consistent.keeps_iff_kept, decide_eq_true_iff]
  apply ext_platform
  · rw [Tables.withEntry, install_verifications]
    change (tables.verifications.filter fun row => row.id ∉ tables.overlapping entry.slots) ++ _ = _
    simp only [consistent.mem_overlapping_iff]
    rfl
  · intro platform
    rw [withEntry_platform, erase_platform, rows]
    cases platform <;> simp [replace, Tables.platform]

/-- A platform clashes when its slot is taken after the deletions. -/
theorem Consistent.clashes_iff (consistent : tables.Consistent) {platform : Platform}
    {userId : String} :
    tables.Clashes entry platform userId ↔ ∃ slot, entry.platformEntry platform = some slot ∧
      slot.id = userId ∧
        (tables.erase (tables.overlapping entry.slots)).taken (platform, slot) = true := by
  simp only [Clashes, taken, List.any_eq_true, decide_eq_true_eq, consistent.mem_kept]
  constructor
  · intro clash
    obtain ⟨slot, filled, rfl, row, present, same, kept⟩ := clash
    exact ⟨slot, filled, rfl, row, ⟨present, kept⟩, same⟩
  · intro taken
    obtain ⟨slot, filled, rfl, row, ⟨present, kept⟩, same⟩ := taken
    exact ⟨slot, filled, rfl, row, present, same, kept⟩

/-- The Telegram clash comes first. -/
def FirstClash (tables : Tables) (entry : VerificationsEntry) (userId : String) : Prop :=
  tables.Clashes entry .telegram userId ∨
    (∀ other, ¬ tables.Clashes entry .telegram other) ∧ tables.Clashes entry .discord userId

/-- The call finds the first clash. -/
theorem Consistent.clash_iff (consistent : tables.Consistent) {userId : String} :
    (tables.erase (tables.overlapping entry.slots)).clash entry.slots = some userId ↔
      tables.FirstClash entry userId := by
  simp only [FirstClash, consistent.clashes_iff]
  generalize tables.erase (tables.overlapping entry.slots) = cleared
  obtain ⟨telegram, discord, presentation, fullName⟩ := entry
  cases telegram with
  | none =>
      cases discord <;> simp [clash, VerificationsEntry.slots, Platform.supportedPlatforms,
        VerificationsEntry.platformEntry, and_comm]
  | some slot =>
      -- the search stops at the Telegram slot or goes on to the other one
      cases taken : cleared.taken (.telegram, slot) <;> cases discord <;>
        simp [clash, VerificationsEntry.slots, Platform.supportedPlatforms,
          VerificationsEntry.platformEntry, taken, and_comm]

/-- There is a first clash when there is a clash. -/
theorem exists_firstClash :
    (∃ userId, tables.FirstClash entry userId) ↔
      ∃ platform userId, tables.Clashes entry platform userId := by
  constructor
  · rintro ⟨userId, telegram | ⟨-, discord⟩⟩
    · exact ⟨.telegram, userId, telegram⟩
    · exact ⟨.discord, userId, discord⟩
  · intro clash
    obtain ⟨platform, userId, clashes⟩ := clash
    by_cases telegram : ∃ other, tables.Clashes entry .telegram other
    · exact telegram.imp fun other => .inl
    · cases platform with
      | telegram => exact absurd ⟨userId, clashes⟩ telegram
      | discord => exact ⟨userId, .inr ⟨not_exists.mp telegram, clashes⟩⟩

end Tables

variable {db : Db} {entry : VerificationsEntry}

/-- A clash refuses the entry, with the user id of the first clash. -/
theorem Db.Consistent.run_refused (consistent : db.Consistent) {userId : String}
    (first : db.tables.FirstClash entry userId) :
    db.run [] (addVerification entry) = (.ok (some userId), ⟨db.tables, db.sequence + 1⟩) := by
  have run := consistent.tables.run_addVerification consistent.fresh entry
  rw [Tables.added, consistent.tables.clash_iff.mpr first] at run
  exact run

/-- Without a clash the rows of the entry take the place of those that are replaced. -/
theorem Db.Consistent.run_accepted (consistent : db.Consistent)
    (free : ∀ platform userId, ¬ db.tables.Clashes entry platform userId) :
    db.run [] (addVerification entry) =
      (.ok none, ⟨db.tables.replace entry db.sequence, db.sequence + 1⟩) := by
  have run := consistent.tables.run_addVerification consistent.fresh entry
  rcases db.tables.added_cases entry db.sequence with ⟨userId, clash, -⟩ | ⟨-, accepted⟩
  · obtain ⟨platform, other, clashes⟩ :=
      Tables.exists_firstClash.mp ⟨userId, consistent.tables.clash_iff.mp clash⟩
    exact absurd clashes (free platform other)
  · rw [accepted, consistent.tables.withEntry_eq] at run
    exact run

/-- Run alone, a call to add an entry is refused with the first clash and changes no table, or
replaces the verifications that share a credential with the entry, and it never fails. -/
theorem addVerification_effect (db : Db) (reachable : db.Reachable) (entry : VerificationsEntry) :
    (∀ platform userId, db.tables.Clashes entry platform userId →
      ∃ first, db.tables.FirstClash entry first ∧
        db.run [] (addVerification entry) = (.ok (some first), ⟨db.tables, db.sequence + 1⟩)) ∧
    ((∀ platform userId, ¬ db.tables.Clashes entry platform userId) →
      (∀ row ∈ db.tables.verifications, row.id ≠ db.sequence) ∧
        db.run [] (addVerification entry) =
          (.ok none, ⟨db.tables.replace entry db.sequence, db.sequence + 1⟩)) ∧
    ∃ answer, (db.run [] (addVerification entry)).1 = .ok answer := by
  have consistent := reachable.consistent
  refine ⟨?_, ?_, ?_⟩
  · intro platform userId clashes
    obtain ⟨first, found⟩ := Tables.exists_firstClash.mpr ⟨platform, userId, clashes⟩
    exact ⟨first, found, consistent.run_refused found⟩
  · intro free
    exact ⟨consistent.fresh, consistent.run_accepted free⟩
  · rw [consistent.tables.run_addVerification consistent.fresh]
    exact ⟨_, rfl⟩

/-- An account of each platform, under the credentials of one person. -/
def pairedEntry (telegramKey discordKey : BitVec 256) : VerificationsEntry where
  telegram := some ⟨"42", ⟨telegramKey⟩, "tg"⟩
  discord := some ⟨"d", ⟨discordKey⟩, "dc"⟩
  presentation := [0]
  fullName := none

def pairedDb : Db := (Db.empty.run [] (Call.add (pairedEntry 7 8)).program).2

/-- The entry of the same credentials replaces the row of each table. -/
theorem addVerification_effect_sample :
    pairedDb.run [] (addVerification (pairedEntry 7 8)) =
      (.ok none, ⟨pairedDb.tables.replace (pairedEntry 7 8) 2, 3⟩) ∧
    (pairedDb.tables.replace (pairedEntry 7 8) 2).telegram = [⟨"42", 7, some 2, "tg"⟩] := by
  have reachable : pairedDb.Reachable := .call .empty _ []
  refine ⟨((addVerification_effect pairedDb reachable (pairedEntry 7 8)).2.1 ?_).2, by rfl⟩
  rintro platform userId ⟨slot, filled, same, row, present, holds, kept⟩
  apply kept
  cases platform with
  | telegram =>
      cases List.mem_singleton.mp present
      exact ⟨1, rfl, by decide⟩
  | discord =>
      cases List.mem_singleton.mp present
      exact ⟨1, rfl, by decide⟩

/-- The user of the entry is in the table of the platform with another credential. -/
def Tables.Identified (tables : Tables) (entry : VerificationsEntry) (platform : Platform)
    (row : PlatformRow) : Prop :=
  ∃ slot, entry.platformEntry platform = some slot ∧ row ∈ tables.platform platform ∧
    row.id = slot.id ∧ row.credId ≠ slot.credId.publicKey

/-- A clash is a user with another credential whose row is not replaced. -/
theorem Tables.Consistent.clashes_identified {tables : Tables} (consistent : tables.Consistent)
    {platform : Platform} {userId : String} :
    tables.Clashes entry platform userId ↔ ∃ row, tables.Identified entry platform row ∧
      row.id = userId ∧ ¬ tables.ReplacedRow entry row := by
  constructor
  · intro clash
    obtain ⟨slot, filled, same, row, present, holds, kept⟩ := clash
    refine ⟨row, ⟨slot, filled, present, holds.trans same.symm, fun credId => kept ?_⟩, holds, kept⟩
    obtain ⟨id, points, -⟩ := (consistent.platforms platform).target row present
    exact ⟨id, points, (platform, slot), VerificationsEntry.mem_slots.mpr filled, row, present,
      credId, points⟩
  · intro identified
    obtain ⟨row, ⟨slot, filled, present, same, -⟩, holds, kept⟩ := identified
    exact ⟨slot, filled, same.symm.trans holds, row, present, holds, kept⟩

/-- The call refuses with the id of a user that has another credential, and changes no table. -/
def RefusesIdentified (db : Db) (entry : VerificationsEntry) : Prop :=
  ∃ platform row, db.tables.Identified entry platform row ∧
    (db.run [] (addVerification entry)).1 = .ok (some row.id) ∧
    (db.run [] (addVerification entry)).2.tables = db.tables

/-- A user with another credential refuses the entry if and only if the row of such a user does
not belong to a verification that shares a credential with the entry. -/
theorem addVerification_refusesIdentified (db : Db) (reachable : db.Reachable)
    (entry : VerificationsEntry) :
    ((∃ platform row, db.tables.Identified entry platform row) → RefusesIdentified db entry) ↔
      ((∃ platform row, db.tables.Identified entry platform row) →
        ∃ platform row, db.tables.Identified entry platform row ∧
          ¬ db.tables.ReplacedRow entry row) := by
  have consistent := reachable.consistent
  refine imp_congr_right fun _ => ⟨?_, ?_⟩
  · intro refuses
    obtain ⟨platform, row, -, answer, -⟩ := refuses
    by_contra replaced
    have free : ∀ platform userId, ¬ db.tables.Clashes entry platform userId := by
      intro platform userId clashes
      obtain ⟨row, identified, -, kept⟩ := consistent.tables.clashes_identified.mp clashes
      exact replaced ⟨platform, row, identified, kept⟩
    rw [consistent.run_accepted free] at answer
    nomatch answer
  · intro found
    obtain ⟨platform, row, identified, kept⟩ := found
    obtain ⟨first, found⟩ := Tables.exists_firstClash.mpr
      ⟨platform, row.id, consistent.tables.clashes_identified.mpr ⟨row, identified, rfl, kept⟩⟩
    have run := consistent.run_refused found
    have clashes : ∃ platform, db.tables.Clashes entry platform first :=
      found.elim (fun telegram => ⟨_, telegram⟩) (fun discord => ⟨_, discord.2⟩)
    obtain ⟨other, clashing⟩ := clashes
    obtain ⟨user, known, same, -⟩ := consistent.tables.clashes_identified.mp clashing
    exact ⟨other, user, known, by rw [run, same], by rw [run]⟩

/-- A user whose row is kept refuses the entry. -/
theorem addVerification_refusesIdentified_sample : RefusesIdentified pairedDb (pairedEntry 9 10) := by
  have identified : pairedDb.tables.Identified (pairedEntry 9 10) .telegram ⟨"42", 7, some 1, "tg"⟩ :=
    ⟨_, rfl, List.mem_cons_self, rfl, by decide⟩
  have kept : ¬ pairedDb.tables.ReplacedRow (pairedEntry 9 10) ⟨"42", 7, some 1, "tg"⟩ := by decide
  exact (addVerification_refusesIdentified pairedDb (.call .empty _ []) (pairedEntry 9 10)).mpr
    (fun _ => ⟨.telegram, _, identified, kept⟩) ⟨.telegram, _, identified⟩

/-- A user with another Telegram credential does not refuse an entry with the same Discord one. -/
theorem addVerification_acceptsIdentified :
    pairedDb.Reachable ∧
      pairedDb.tables.Identified (pairedEntry 9 8) .telegram ⟨"42", 7, some 1, "tg"⟩ ∧
      (pairedDb.run [] (addVerification (pairedEntry 9 8))).1 = .ok none ∧
      ¬ ∀ db : Db, db.Reachable → ∀ entry : VerificationsEntry,
        (∃ platform row, db.tables.Identified entry platform row) → RefusesIdentified db entry := by
  have reachable : pairedDb.Reachable := .call .empty _ []
  have identified : pairedDb.tables.Identified (pairedEntry 9 8) .telegram ⟨"42", 7, some 1, "tg"⟩ :=
    ⟨_, rfl, List.mem_cons_self, rfl, by decide⟩
  have answer : (pairedDb.run [] (addVerification (pairedEntry 9 8))).1 = .ok none := by rfl
  refine ⟨reachable, identified, answer, fun always => ?_⟩
  obtain ⟨platform, row, -, refused, -⟩ := always pairedDb reachable _ ⟨_, _, identified⟩
  nomatch answer.symm.trans refused

end Web3Id.SomeVerifier
