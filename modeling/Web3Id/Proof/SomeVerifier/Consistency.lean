import Web3Id.Construction.SomeVerifier.Session
import Web3Id.Library.UniqueKey

namespace Web3Id.SomeVerifier

open Library

/-- The rows of a platform refer to verifications, and their three keys are unique. -/
structure Linked (verifications : List VerificationRow) (rows : List PlatformRow) : Prop where
  target : ∀ row ∈ rows, ∃ id, row.verificationId = some id ∧
    id ∈ verifications.map VerificationRow.id
  userIds : UniqueKey PlatformRow.id rows
  credIds : UniqueKey PlatformRow.credId rows
  verificationIds : UniqueKey PlatformRow.verificationId rows

/-- More verifications keep the rows of a platform linked. -/
theorem Linked.mono {verifications more : List VerificationRow} {rows : List PlatformRow}
    (linked : Linked verifications rows) (keeps : ∀ row ∈ verifications, row ∈ more) :
    Linked more rows where
  target row present := by
    obtain ⟨id, points, stored⟩ := linked.target row present
    obtain ⟨verification, kept, rfl⟩ := List.mem_map.mp stored
    exact ⟨_, points, List.mem_map.mpr ⟨verification, keeps _ kept, rfl⟩⟩
  userIds := linked.userIds
  credIds := linked.credIds
  verificationIds := linked.verificationIds

/-- A row with new keys joins the rows of a platform. -/
theorem Linked.snoc {verifications : List VerificationRow} {rows : List PlatformRow}
    (linked : Linked verifications rows) {row : PlatformRow} {id : Nat}
    (points : row.verificationId = some id) (stored : id ∈ verifications.map VerificationRow.id)
    (userId : ∀ other ∈ rows, other.id ≠ row.id) (credId : ∀ other ∈ rows, other.credId ≠ row.credId)
    (fresh : ∀ other ∈ rows, other.verificationId ≠ row.verificationId) :
    Linked verifications (rows ++ [row]) where
  target other present := by
    rcases List.mem_append.mp present with before | added
    · exact linked.target other before
    · cases List.mem_singleton.mp added
      exact ⟨id, points, stored⟩
  userIds := linked.userIds.snoc userId
  credIds := linked.credIds.snoc credId
  verificationIds := linked.verificationIds.snoc fresh

/-- The constraints of the schema hold, and no row of a platform is without a verification. -/
structure Tables.Consistent (tables : Tables) : Prop where
  verificationIds : UniqueKey VerificationRow.id tables.verifications
  names : ∀ row ∈ tables.verifications, row.firstName.isSome = row.lastName.isSome
  platforms : ∀ platform, Linked tables.verifications (tables.platform platform)

/-- The sequence is above every id. -/
structure Db.Consistent (db : Db) : Prop where
  tables : db.tables.Consistent
  below : ∀ row ∈ db.tables.verifications, row.id < db.sequence

theorem Db.empty_consistent : Db.empty.Consistent where
  tables :=
    { verificationIds := .nil
      names := by simp [Db.empty, Tables.empty]
      platforms := by
        intro platform
        cases platform <;> exact ⟨by simp [Db.empty, Tables.empty, Tables.platform], .nil, .nil, .nil⟩ }
  below := by simp [Db.empty, Tables.empty]

namespace Tables

/-- A row that stays refers to a verification that stays. -/
theorem mem_erase_platform {tables : Tables} {ids : List Nat} {platform : Platform}
    {row : PlatformRow} :
    row ∈ (tables.erase ids).platform platform ↔
      row ∈ tables.platform platform ∧ ∀ id ∈ row.verificationId, id ∉ ids := by
  rw [erase_platform, List.mem_filter, keeps_iff]

theorem mem_erase_verifications {tables : Tables} {ids : List Nat} {row : VerificationRow} :
    row ∈ (tables.erase ids).verifications ↔ row ∈ tables.verifications ∧ row.id ∉ ids := by
  simp [erase]

/-- Deletions with the same ids have the same effect. -/
theorem erase_congr (tables : Tables) {ids others : List Nat}
    (same : ∀ id, id ∈ ids ↔ id ∈ others) : tables.erase ids = tables.erase others := by
  apply ext_platform
  · simp only [erase, same]
  · intro platform
    rw [erase_platform, erase_platform]
    congr 1
    funext row
    rw [Bool.eq_iff_iff, keeps_iff, keeps_iff]
    simp only [same]

/-- Two deletions are one deletion of all their ids. -/
theorem erase_erase (tables : Tables) (ids others : List Nat) :
    (tables.erase ids).erase others = tables.erase (ids ++ others) := by
  apply ext_platform
  · simp only [erase, List.filter_filter]
    congr 1
    funext row
    simp [Bool.and_comm]
  · intro platform
    simp only [erase_platform, List.filter_filter]
    congr 1
    funext row
    rw [Bool.eq_iff_iff, Bool.and_eq_true]
    simp only [keeps_iff, List.mem_append, not_or]
    exact ⟨fun both id present => ⟨both.2 id present, both.1 id present⟩,
      fun both => ⟨fun id present => (both id present).2, fun id present => (both id present).1⟩⟩

theorem erase_nil (tables : Tables) : tables.erase [] = tables := by
  apply ext_platform
  · simp [erase]
  · intro platform
    rw [erase_platform, List.filter_eq_self]
    intro row present
    simp [keeps_iff]

/-- A deletion keeps the tables consistent. -/
theorem Consistent.erase {tables : Tables} (consistent : tables.Consistent) (ids : List Nat) :
    (tables.erase ids).Consistent where
  verificationIds := consistent.verificationIds.filter _
  names row present := consistent.names row (mem_erase_verifications.mp present).1
  platforms platform :=
    have linked := consistent.platforms platform
    { target := by
        intro row present
        obtain ⟨before, kept⟩ := mem_erase_platform.mp present
        obtain ⟨id, points, exists_⟩ := linked.target row before
        obtain ⟨verification, stored, rfl⟩ := List.mem_map.mp exists_
        exact ⟨_, points, List.mem_map.mpr
          ⟨verification, mem_erase_verifications.mpr ⟨stored, kept _ points⟩, rfl⟩⟩
      userIds := by
        rw [erase_platform]
        exact linked.userIds.filter _
      credIds := by
        rw [erase_platform]
        exact linked.credIds.filter _
      verificationIds := by
        rw [erase_platform]
        exact linked.verificationIds.filter _ }

/-- A new verification keeps the tables consistent. -/
theorem Consistent.appendVerification {tables : Tables} (consistent : tables.Consistent)
    {row : VerificationRow} (fresh : ∀ other ∈ tables.verifications, other.id ≠ row.id)
    (names : row.firstName.isSome = row.lastName.isSome) :
    (tables.appendVerification row).Consistent where
  verificationIds := consistent.verificationIds.snoc fresh
  names other present := by
    rcases List.mem_append.mp present with before | added
    · exact consistent.names other before
    · cases List.mem_singleton.mp added
      exact names
  platforms platform := by
    rw [appendVerification_platform]
    exact (consistent.platforms platform).mono fun other before => List.mem_append_left _ before

/-- A row with new keys that refers to a verification keeps the tables consistent. -/
theorem Consistent.appendPlatform {tables : Tables} (consistent : tables.Consistent)
    {platform : Platform} {row : PlatformRow} {id : Nat} (points : row.verificationId = some id)
    (stored : id ∈ tables.verifications.map VerificationRow.id)
    (userId : ∀ other ∈ tables.platform platform, other.id ≠ row.id)
    (credId : ∀ other ∈ tables.platform platform, other.credId ≠ row.credId)
    (fresh : ∀ other ∈ tables.platform platform, other.verificationId ≠ row.verificationId) :
    (tables.appendPlatform row platform).Consistent where
  verificationIds := by
    rw [appendPlatform_verifications]
    exact consistent.verificationIds
  names := by
    rw [appendPlatform_verifications]
    exact consistent.names
  platforms other := by
    rw [appendPlatform_verifications]
    by_cases same : other = platform
    · subst same
      rw [appendPlatform_self]
      exact (consistent.platforms other).snoc points stored userId credId fresh
    · rw [appendPlatform_other _ _ same]
      exact consistent.platforms other

/-- In consistent tables every owner of a credential is selected. -/
theorem Consistent.mem_selected {tables : Tables} (consistent : tables.Consistent)
    {platform : Platform} {credId : BitVec 256} {id : Nat} :
    id ∈ tables.selected platform credId ↔
      ∃ row ∈ tables.platform platform, row.credId = credId ∧ row.verificationId = some id := by
  rw [Tables.mem_selected, mem_owners]
  constructor
  · exact fun both => both.2
  · intro owner
    refine ⟨?_, owner⟩
    obtain ⟨row, present, -, points⟩ := owner
    obtain ⟨other, target, exists_⟩ := (consistent.platforms platform).target row present
    cases target.symm.trans points
    exact exists_

/-- A credential owns at most one verification of a platform. -/
theorem Consistent.selected_length_le {tables : Tables} (consistent : tables.Consistent)
    (platform : Platform) (credId : BitVec 256) :
    (tables.selected platform credId).length ≤ 1 := by
  have atMostOne : ∀ id ∈ tables.selected platform credId,
      ∀ other ∈ tables.selected platform credId, id = other := by
    intro id one other two
    obtain ⟨row, present, cred, points⟩ := consistent.mem_selected.mp one
    obtain ⟨row', present', cred', points'⟩ := consistent.mem_selected.mp two
    have same := (consistent.platforms platform).credIds.eq_of_key present present'
      (cred.trans cred'.symm)
    subst same
    exact Option.some.inj (points.symm.trans points')
  have distinct : (tables.selected platform credId).Nodup :=
    List.Pairwise.filter _ (List.pairwise_map.mpr consistent.verificationIds)
  match listed : tables.selected platform credId with
  | [] => simp
  | [id] => simp
  | id :: other :: rest =>
      rw [listed] at atMostOne distinct
      have same := atMostOne id (by simp) other (by simp)
      simp [same] at distinct

end Tables

end Web3Id.SomeVerifier
