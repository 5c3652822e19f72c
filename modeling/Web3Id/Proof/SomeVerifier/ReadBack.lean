import Web3Id.Proof.SomeVerifier.AddEffect
import Web3Id.Proof.SomeVerifier.IdentityBinding

namespace Web3Id.SomeVerifier

open Library

/-- A query for at most one row returns it. -/
theorem queryOpt_of_length {Row : Type} {rows : List Row} (short : rows.length ≤ 1) :
    queryOpt rows = .ok rows.head? := by
  match rows with
  | [] => rfl
  | [row] => rfl
  | first :: second :: rest => simp at short

/-- The name that a verification stores. -/
def VerificationRow.Stores (verification : VerificationRow) (fullName : Option FullName) : Prop :=
  verification.firstName = fullName.map FullName.firstName ∧
    verification.lastName = fullName.map FullName.lastName

/-- A verification with both names or neither of them stores a name that the query reads. -/
theorem VerificationRow.exists_stores {verification : VerificationRow}
    (both : verification.firstName.isSome = verification.lastName.isSome) :
    ∃ fullName, verification.Stores fullName ∧ verification.fullName = .ok fullName := by
  unfold Stores VerificationRow.fullName
  cases firstName : verification.firstName with
  | none =>
      cases lastName : verification.lastName with
      | none => exact ⟨none, ⟨rfl, rfl⟩, rfl⟩
      | some last => simp [firstName, lastName] at both
  | some first =>
      cases lastName : verification.lastName with
      | none => simp [firstName, lastName] at both
      | some last => exact ⟨some ⟨first, last⟩, ⟨rfl, rfl⟩, rfl⟩

namespace Tables

/-- The accounts of a verification on these platforms. -/
def accountsOn (tables : Tables) (id : Nat) (platforms : List Platform) : List DbAccount :=
  platforms.flatMap fun p =>
    ((tables.platform p).filter (·.verificationId = some id)).map (·.account p)

variable {tables : Tables} {sdk : Sdk} {platform : Platform}

theorem mem_accountsOn {id : Nat} {platforms : List Platform} {account : DbAccount} :
    account ∈ tables.accountsOn id platforms ↔ ∃ p ∈ platforms, ∃ row ∈ tables.platform p,
      row.verificationId = some id ∧ row.account p = account := by
  simp [accountsOn, and_assoc]

/-- In consistent tables the loop finds the accounts of the other platforms. -/
theorem Consistent.otherAccounts (consistent : tables.Consistent) (id : Nat)
    (platforms : List Platform) : tables.otherAccounts id platform platforms =
      .ok (tables.accountsOn id (platforms.filter (· ≠ platform))) := by
  induction platforms with
  | nil => rfl
  | cons p platforms ih =>
      by_cases same : p = platform
      · simp only [Tables.otherAccounts, if_pos same, ih]
        simp [same]
      · have short := (consistent.platforms p).verificationIds.filter_length_le (some id)
        simp only [Tables.otherAccounts, if_neg same, ih, queryOpt_of_length short]
        have step : tables.accountsOn id ((p :: platforms).filter (· ≠ platform)) =
            ((tables.platform p).filter (·.verificationId = some id)).map (·.account p) ++
              tables.accountsOn id (platforms.filter (· ≠ platform)) := by
          simp [accountsOn, same]
        rw [step]
        generalize (tables.platform p).filter (·.verificationId = some id) = rows at short
        match rows, short with
        | [], _ => rfl
        | [row], _ => rfl

/-- In consistent tables the query returns the accounts, the name, and the presentation of the
verification that the row refers to. -/
theorem Consistent.getVerification_row (consistent : tables.Consistent) {row : PlatformRow}
    {verification : VerificationRow} {fullName : Option FullName} {presentation : Presentation}
    (present : row ∈ tables.platform platform) (stored : verification ∈ tables.verifications)
    (points : row.verificationId = some verification.id)
    (named : verification.fullName = .ok fullName)
    (read : sdk.fromValue verification.presentation = some presentation) :
    getVerification sdk tables row.id platform = .ok (some
      ⟨row.account platform ::
          tables.accountsOn verification.id (Platform.supportedPlatforms.filter (· ≠ platform)),
        fullName, presentation⟩) := by
  unfold getVerification
  rw [(consistent.platforms platform).userIds.filter_eq_singleton present]
  simp only [queryOpt, tryGet, points, consistent.verificationIds.filter_eq_singleton stored, named,
    consistent.otherAccounts, read]

/-- A user without a row has no verification. -/
theorem getVerification_none {id : String}
    (absent : ∀ row ∈ tables.platform platform, row.id ≠ id) :
    getVerification sdk tables id platform = .ok none := by
  have empty : (tables.platform platform).filter (·.id = id) = [] :=
    List.filter_eq_nil_iff.mpr fun row present same => absent row present (of_decide_eq_true same)
  unfold getVerification
  rw [empty]
  rfl

/-- The query looks only at the rows of the user, the verification they refer to, and its rows. -/
theorem getVerification_congr {other : Tables} {id : String}
    (rows : (tables.platform platform).filter (·.id = id) =
      (other.platform platform).filter (·.id = id))
    (linked : ∀ row ∈ tables.platform platform, row.id = id → ∀ number,
      row.verificationId = some number →
      tables.verifications.filter (·.id = number) = other.verifications.filter (·.id = number) ∧
        ∀ p, (tables.platform p).filter (·.verificationId = some number) =
          (other.platform p).filter (·.verificationId = some number)) :
    getVerification sdk tables id platform = getVerification sdk other id platform := by
  unfold getVerification
  rw [← rows]
  have members : ∀ row ∈ (tables.platform platform).filter (·.id = id),
      row ∈ tables.platform platform ∧ decide (row.id = id) = true :=
    fun row => List.mem_filter.mp
  generalize (tables.platform platform).filter (·.id = id) = selected at members
  match selected with
  | [] => rfl
  | first :: second :: rest => rfl
  | [row] =>
      obtain ⟨present, same⟩ := members row List.mem_cons_self
      cases points : row.verificationId with
      | none => simp only [queryOpt, tryGet, points]
      | some number =>
          obtain ⟨verifications, platforms⟩ := linked row present (of_decide_eq_true same) number points
          have accounts : ∀ list, tables.otherAccounts number platform list =
              other.otherAccounts number platform list := by
            intro list
            induction list with
            | nil => rfl
            | cons p list ih => simp only [Tables.otherAccounts, platforms p, ih]
          simp only [queryOpt, tryGet, points, verifications, accounts]

end Tables

/-- The account that the entry has for a platform. -/
def PlatformEntry.account (entry : PlatformEntry) (platform : Platform) : DbAccount where
  platform := platform
  id := entry.id
  username := entry.username

/-- The accounts that the entry has for these platforms. -/
def VerificationsEntry.accountsOn (entry : VerificationsEntry) (platforms : List Platform) :
    List DbAccount :=
  platforms.filterMap fun p => (entry.platformEntry p).map (·.account p)

section ReadBack

variable {tables : Tables} {entry : VerificationsEntry} {id : Nat} {sdk : Sdk}

/-- The rows of the new verification are the rows of the entry. -/
theorem Tables.Consistent.withEntry_rows (consistent : tables.Consistent)
    (fresh : ∀ row ∈ tables.verifications, row.id ≠ id) (platform : Platform) :
    ((tables.withEntry entry id).platform platform).filter (·.verificationId = some id) =
      entry.platformRows id platform := by
  rw [withEntry_platform, List.filter_append]
  have before : ((tables.erase (tables.overlapping entry.slots)).platform platform).filter
      (·.verificationId = some id) = [] := by
    rw [List.filter_eq_nil_iff]
    intro row present points
    obtain ⟨other, target, stored⟩ :=
      ((consistent.erase (tables.overlapping entry.slots)).platforms platform).target row present
    cases target.symm.trans (of_decide_eq_true points)
    obtain ⟨verification, kept, same⟩ := List.mem_map.mp stored
    exact fresh verification (mem_erase_verifications.mp kept).1 same
  have added : (entry.platformRows id platform).filter (·.verificationId = some id) =
      entry.platformRows id platform := by
    rw [List.filter_eq_self]
    intro row listed
    obtain ⟨slot, -, rfl⟩ := VerificationsEntry.mem_platformRows.mp listed
    exact decide_eq_true rfl
  rw [before, added, List.nil_append]

/-- The accounts of the new verification are the accounts of the entry. -/
theorem Tables.Consistent.withEntry_accounts (consistent : tables.Consistent)
    (fresh : ∀ row ∈ tables.verifications, row.id ≠ id) (platforms : List Platform) :
    (tables.withEntry entry id).accountsOn id platforms = entry.accountsOn platforms := by
  induction platforms with
  | nil => rfl
  | cons p platforms ih =>
      simp only [accountsOn, VerificationsEntry.accountsOn, List.flatMap_cons,
        consistent.withEntry_rows fresh p] at ih ⊢
      rw [ih, VerificationsEntry.platformRows]
      cases filled : entry.platformEntry p with
      | none => simp [filled]
      | some slot => simp [filled, PlatformEntry.row, PlatformRow.account, PlatformEntry.account]

@[simp] theorem VerificationsEntry.row_id (entry : VerificationsEntry) (id : Nat) :
    (entry.row id).id = id := rfl

/-- The names of an entry are read back as its full name. -/
theorem VerificationsEntry.row_fullName (entry : VerificationsEntry) (id : Nat) :
    (entry.row id).fullName = .ok entry.fullName := by
  obtain ⟨telegram, discord, presentation, fullName⟩ := entry
  cases fullName <;> rfl

/-- Rows that the entry does not have and that are not overlapped stay as they are. -/
theorem Tables.withEntry_filter {platform : Platform} {selects : PlatformRow → Bool}
    (added : (entry.platformRows id platform).filter selects = [])
    (stays : ∀ row ∈ tables.platform platform, selects row = true →
      keeps (tables.overlapping entry.slots) row = true) :
    (tables.platform platform).filter selects =
      ((tables.withEntry entry id).platform platform).filter selects := by
  rw [withEntry_platform, List.filter_append, added, List.append_nil, erase_platform,
    List.filter_filter]
  apply List.filter_congr
  intro row present
  cases selected : selects row with
  | false => rfl
  | true => rw [stays row present selected, Bool.and_self]

/-- The rows of a verification that is not replaced stay as they are. -/
theorem Tables.Consistent.withEntry_kept (consistent : tables.Consistent) {number : Nat}
    (kept : ¬ tables.Replaced entry number) (different : number ≠ id) (platform : Platform) :
    (tables.platform platform).filter (·.verificationId = some number) =
      ((tables.withEntry entry id).platform platform).filter (·.verificationId = some number) := by
  have added : (entry.platformRows id platform).filter (·.verificationId = some number) = [] := by
    rw [List.filter_eq_nil_iff]
    intro row listed points
    obtain ⟨slot, -, rfl⟩ := VerificationsEntry.mem_platformRows.mp listed
    exact different (Option.some.inj (of_decide_eq_true points)).symm
  refine withEntry_filter added fun row _ points => ?_
  rw [consistent.keeps_iff_kept]
  rintro ⟨other, target, replaced⟩
  cases target.symm.trans (of_decide_eq_true points)
  exact kept replaced

/-- A verification that is not replaced stays as it is. -/
theorem Tables.Consistent.withEntry_verification (consistent : tables.Consistent) {number : Nat}
    (kept : ¬ tables.Replaced entry number) (different : number ≠ id) :
    tables.verifications.filter (·.id = number) =
      (tables.withEntry entry id).verifications.filter (·.id = number) := by
  have added : [entry.row id].filter (·.id = number) = [] := by
    rw [List.filter_eq_nil_iff]
    intro row listed same
    cases List.mem_singleton.mp listed
    exact different (of_decide_eq_true same).symm
  rw [Tables.withEntry, install_verifications]
  change _ = ((tables.verifications.filter fun row =>
    row.id ∉ tables.overlapping entry.slots) ++ [entry.row id]).filter (·.id = number)
  rw [List.filter_append, added, List.append_nil, List.filter_filter]
  apply List.filter_congr
  intro row _
  by_cases same : row.id = number
  · simp [consistent.mem_overlapping_iff, same, kept]
  · simp [same]

/-- The row of a user that is not in the entry stays when it is not replaced. -/
theorem Tables.Consistent.withEntry_user (consistent : tables.Consistent) {platform : Platform}
    {userId : String}
    (kept : ∀ row ∈ tables.platform platform, row.id = userId → ¬ tables.ReplacedRow entry row)
    (different : ∀ slot, entry.platformEntry platform = some slot → slot.id ≠ userId) :
    (tables.platform platform).filter (·.id = userId) =
      ((tables.withEntry entry id).platform platform).filter (·.id = userId) := by
  have added : (entry.platformRows id platform).filter (·.id = userId) = [] := by
    rw [List.filter_eq_nil_iff]
    intro row listed same
    obtain ⟨slot, filled, rfl⟩ := VerificationsEntry.mem_platformRows.mp listed
    exact different slot filled (of_decide_eq_true same)
  refine withEntry_filter added fun row present same => ?_
  exact consistent.keeps_iff_kept.mpr (kept row present (of_decide_eq_true same))

end ReadBack

/-- An entry that is accepted is read back under each of its accounts, and every other user whose
verification is not replaced is read back as before. -/
theorem addVerification_readBack (sdk : Sdk) (db : Db) (reachable : db.Reachable)
    (entry : VerificationsEntry) (presentation : Presentation)
    (read : sdk.fromValue entry.presentation = some presentation)
    (accepted : (db.run [] (addVerification entry)).1 = .ok none) :
    (∀ platform slot, entry.platformEntry platform = some slot →
      getVerification sdk (db.run [] (addVerification entry)).2.tables slot.id platform =
        .ok (some
          ⟨slot.account platform ::
              entry.accountsOn (Platform.supportedPlatforms.filter (· ≠ platform)),
            entry.fullName, presentation⟩)) ∧
    ∀ platform userId,
      (∀ row ∈ db.tables.platform platform, row.id = userId →
        ¬ db.tables.ReplacedRow entry row) →
      (∀ slot, entry.platformEntry platform = some slot → slot.id ≠ userId) →
      getVerification sdk (db.run [] (addVerification entry)).2.tables userId platform =
        getVerification sdk db.tables userId platform := by
  obtain ⟨consistent, below⟩ := reachable.consistent
  have fresh := reachable.consistent.fresh
  have run := consistent.run_addVerification fresh entry
  rcases db.tables.added_cases entry db.sequence with ⟨userId, -, refused⟩ | ⟨free, added⟩
  · rw [run, refused] at accepted
    nomatch accepted
  · rw [run, added]
    refine ⟨?_, ?_⟩
    · intro platform slot filled
      have after := consistent.withEntry fresh free
      have present : slot.row db.sequence ∈
          (db.tables.withEntry entry db.sequence).platform platform :=
        Tables.mem_withEntry_platform.mpr (.inr ⟨slot, filled, rfl⟩)
      have stored : entry.row db.sequence ∈ (db.tables.withEntry entry db.sequence).verifications :=
        Tables.mem_withEntry_verifications.mpr (.inr rfl)
      have found := after.getVerification_row present stored rfl (entry.row_fullName _) read
      rw [entry.row_id, consistent.withEntry_accounts fresh] at found
      exact found
    · intro platform userId kept different
      refine (Tables.getVerification_congr (consistent.withEntry_user kept different) ?_).symm
      intro row present same number points
      have unreplaced : ¬ db.tables.Replaced entry number :=
        fun replaced => kept row present same ⟨number, points, replaced⟩
      obtain ⟨other, target, stored⟩ := (consistent.platforms platform).target row present
      cases target.symm.trans points
      obtain ⟨verification, held, rfl⟩ := List.mem_map.mp stored
      exact ⟨consistent.withEntry_verification unreplaced (fresh _ held),
        consistent.withEntry_kept unreplaced (fresh _ held)⟩

/-- The stored presentation of the sample is read back with both accounts of the entry. -/
theorem addVerification_readBack_sample :
    getVerification (sampleSdk (samplePresentation (sampleProofs "userId" "username")))
        (pairedDb.run [] (addVerification { pairedEntry 7 9 with presentation := [1] })).2.tables
        "d" .discord =
      .ok (some ⟨[⟨.discord, "d", "dc"⟩, ⟨.telegram, "42", "tg"⟩], none,
        samplePresentation (sampleProofs "userId" "username")⟩) :=
  (addVerification_readBack _ pairedDb (.call .empty _ [])
    { pairedEntry 7 9 with presentation := [1] } _ rfl rfl).1 .discord ⟨"d", ⟨9⟩, "dc"⟩ rfl

end Web3Id.SomeVerifier
