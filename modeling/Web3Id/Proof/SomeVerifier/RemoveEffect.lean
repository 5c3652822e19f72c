import Web3Id.Proof.SomeVerifier.ReadBack

namespace Web3Id.SomeVerifier

open Library

/-- The verification and its rows on both platforms are gone, and the other rows stay. -/
def Tables.without (tables : Tables) (id : Nat) : Tables where
  verifications := tables.verifications.filter fun row => row.id ≠ id
  discord := tables.discord.filter fun row => row.verificationId ≠ some id
  telegram := tables.telegram.filter fun row => row.verificationId ≠ some id

@[simp] theorem Tables.without_platform (tables : Tables) (id : Nat) (platform : Platform) :
    (tables.without id).platform platform =
      (tables.platform platform).filter fun row => row.verificationId ≠ some id := by
  cases platform <;> rfl

namespace Tables

variable {tables : Tables} {platform : Platform} {credId : BitVec 256} {id : Nat}

/-- The row of a credential is the only reason for its verification to be selected. -/
theorem Consistent.selected_of_row (consistent : tables.Consistent) {row : PlatformRow}
    (present : row ∈ tables.platform platform) (points : row.verificationId = some id) :
    ∀ other, other ∈ tables.selected platform row.credId ↔ other ∈ [id] := by
  intro other
  rw [consistent.mem_selected, List.mem_singleton]
  constructor
  · intro found
    obtain ⟨row', present', cred, points'⟩ := found
    cases (consistent.platforms platform).credIds.eq_of_key present' present cred
    exact Option.some.inj (points'.symm.trans points)
  · rintro rfl
    exact ⟨row, present, rfl, points⟩

/-- A deletion of one verification leaves the tables without it. -/
theorem erase_singleton (tables : Tables) (id : Nat) : tables.erase [id] = tables.without id := by
  apply ext_platform
  · simp [erase, without]
  · intro platform
    rw [erase_platform, without_platform]
    congr 1
    funext row
    rw [Bool.eq_iff_iff, keeps_iff]
    cases row.verificationId with
    | none => simp
    | some other => simp

/-- Without a row of the credential nothing is selected. -/
theorem Consistent.selected_nil (consistent : tables.Consistent)
    (absent : ∀ row ∈ tables.platform platform, row.credId ≠ credId) :
    tables.selected platform credId = [] := by
  rw [List.eq_nil_iff_forall_not_mem]
  intro id listed
  obtain ⟨row, present, cred, -⟩ := consistent.mem_selected.mp listed
  exact absent row present cred

/-- A credential with a row removes its verification. -/
theorem Consistent.removed_row (consistent : tables.Consistent) {row : PlatformRow}
    (present : row ∈ tables.platform platform) (points : row.verificationId = some id) :
    tables.removed row.credId platform = (true, tables.without id) := by
  have same := consistent.selected_of_row present points
  have nonempty : tables.selected platform row.credId ≠ [] :=
    List.ne_nil_of_mem ((same id).mpr (List.mem_singleton_self id))
  rw [removed, tables.erase_congr same, erase_singleton]
  simp [nonempty]

/-- A credential without a row changes nothing. -/
theorem Consistent.removed_absent (consistent : tables.Consistent)
    (absent : ∀ row ∈ tables.platform platform, row.credId ≠ credId) :
    tables.removed credId platform = (false, tables) := by
  rw [removed, consistent.selected_nil absent, erase_nil]
  rfl

/-- A user of the removed verification has no verification. -/
theorem Consistent.getVerification_without (consistent : tables.Consistent) (sdk : Sdk)
    {row : PlatformRow} (present : row ∈ tables.platform platform)
    (points : row.verificationId = some id) :
    getVerification sdk (tables.without id) row.id platform = .ok none := by
  apply getVerification_none
  intro other left same
  rw [without_platform, List.mem_filter] at left
  cases (consistent.platforms platform).userIds.eq_of_key left.1 present same
  exact of_decide_eq_true left.2 points

end Tables

/-- Run alone, a call to remove a credential deletes at most one verification, and returns whether
there was one; its users are then unknown and the other rows stay, and a second call finds nothing. -/
theorem removeVerification_effect (db : Db) (reachable : db.Reachable)
    (credId : CredentialHolderId) (platform : Platform) :
    (∀ ids, (Session.perform ⟨db.tables, db.tables, db.sequence, []⟩
      (.deleteVerifications platform credId.publicKey)).1 = .ok ids → ids.length ≤ 1) ∧
    (∀ row ∈ db.tables.platform platform, row.credId = credId.publicKey →
      ∃ id, row.verificationId = some id ∧
        db.run [] (removeVerification credId platform) =
          (.ok true, ⟨db.tables.without id, db.sequence⟩) ∧
        (db.run [] (removeVerification credId platform)).2.run []
            (removeVerification credId platform) =
          (.ok false, ⟨db.tables.without id, db.sequence⟩) ∧
        ∀ sdk other, ∀ gone ∈ db.tables.platform other, gone.verificationId = some id →
          getVerification sdk (db.tables.without id) gone.id other = .ok none) ∧
    ((∀ row ∈ db.tables.platform platform, row.credId ≠ credId.publicKey) →
      db.run [] (removeVerification credId platform) = (.ok false, db)) := by
  have consistent := reachable.consistent.tables
  refine ⟨?_, ?_, ?_⟩
  · rintro ids ⟨⟩
    exact consistent.selected_length_le platform credId.publicKey
  · intro row present cred
    obtain ⟨id, points, -⟩ := (consistent.platforms platform).target row present
    have first : db.run [] (removeVerification credId platform) =
        (.ok true, ⟨db.tables.without id, db.sequence⟩) := by
      have run : (Db.mk db.tables db.sequence).run [] _ = _ :=
        consistent.run_removeVerification credId platform
      rw [← cred, consistent.removed_row present points] at run
      exact run
    refine ⟨id, points, first, ?_, ?_⟩
    · have kept : (db.tables.without id).Consistent :=
        db.tables.erase_singleton id ▸ consistent.erase [id]
      have absent : ∀ other ∈ (db.tables.without id).platform platform,
          other.credId ≠ credId.publicKey := by
        intro other left same
        rw [Tables.without_platform, List.mem_filter] at left
        cases (consistent.platforms platform).credIds.eq_of_key left.1 present (same.trans cred.symm)
        exact of_decide_eq_true left.2 points
      rw [first]
      have run : (Db.mk _ db.sequence).run [] _ = _ :=
        kept.run_removeVerification credId platform
      rw [kept.removed_absent absent] at run
      exact run
    · intro sdk other gone held belongs
      exact consistent.getVerification_without sdk held belongs
  · intro absent
    have run : (Db.mk db.tables db.sequence).run [] _ = _ :=
      consistent.run_removeVerification credId platform
    rw [consistent.removed_absent absent] at run
    exact run

/-- The removal of the Telegram credential removes the Discord row as well. -/
theorem removeVerification_effect_sample :
    pairedDb.run [] (removeVerification ⟨7⟩ .telegram) = (.ok true, ⟨pairedDb.tables.without 1, 2⟩) ∧
      (pairedDb.tables.without 1).discord = [] := by
  obtain ⟨id, points, run, -⟩ := (removeVerification_effect pairedDb (.call .empty _ []) ⟨7⟩
    .telegram).2.1 ⟨"42", 7, some 1, "tg"⟩ List.mem_cons_self rfl
  cases points
  exact ⟨run, by decide⟩

end Web3Id.SomeVerifier
