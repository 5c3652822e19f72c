import Web3Id.Construction.SomeVerifier.Lookup
import Web3Id.Proof.SomeVerifier.ShownStatus

namespace Web3Id.SomeVerifier

open Library

/-- The other one of the two platforms. -/
def Platform.other : Platform → Platform
  | .telegram => .discord
  | .discord => .telegram

theorem Platform.other_ne (platform : Platform) : platform.other ≠ platform := by
  cases platform <;> decide

theorem Platform.supportedPlatforms_others (platform : Platform) :
    supportedPlatforms.filter (· ≠ platform) = [platform.other] := by
  cases platform <;> rfl

/-- The rows of a platform that refer to a verification. -/
def Tables.rowsOf (tables : Tables) (id : Nat) (platform : Platform) : List PlatformRow :=
  (tables.platform platform).filter (·.verificationId = some id)

namespace AppState

variable (self : AppState) (discordBotToken : String)
  (replies : (request : LookupCall) → request.Reply)

/-- The username of a row, if it can be looked up. -/
def shownName (row : PlatformRow) : Platform → Option String
  | .telegram => some row.username
  | .discord =>
      match replies (.discordUser ("https://discord.com/api/v10/users/" ++ row.id)
          ("Bot " ++ discordBotToken)) with
      | .ok ⟨username, discriminator⟩ =>
          some (if discriminator = "0" then username else username ++ "#" ++ discriminator)
      | .error _ => none

/-- The account of a row, if its username and the status of its credential can be looked up. -/
def shown (row : PlatformRow) (platform : Platform) : Option Account :=
  match shownName discordBotToken replies row platform,
      replies (.credentialStatus ⟨self.registry platform, ⟨row.credId⟩, .lastFinal⟩) with
  | some username, .ok credStatus => some ⟨platform, username, credStatus⟩
  | _, _ => none

/-- The accounts that a verification shows on a platform. -/
def shownOf (tables : Tables) (id : Nat) (platform : Platform) : List Account :=
  (tables.rowsOf id platform).filterMap fun row => self.shown discordBotToken replies row platform

variable {self discordBotToken replies}

theorem shown_platform {row : PlatformRow} {platform : Platform} {account : Account}
    (shows : self.shown discordBotToken replies row platform = some account) :
    account.platform = platform := by
  unfold shown at shows
  split at shows
  · cases shows
    rfl
  · cases shows

theorem mem_shownOf {tables : Tables} {id : Nat} {platform : Platform} {account : Account} :
    account ∈ self.shownOf discordBotToken replies tables id platform ↔
      ∃ row ∈ tables.platform platform, row.verificationId = some id ∧
        self.shown discordBotToken replies row platform = some account := by
  simp only [shownOf, Tables.rowsOf, List.mem_filterMap, List.mem_filter, decide_eq_true_eq,
    and_assoc]

/-- In consistent tables a verification shows at most one account on each platform. -/
theorem shownOf_length_le {tables : Tables} (consistent : tables.Consistent) (id : Nat)
    (platform : Platform) :
    (self.shownOf discordBotToken replies tables id platform).length ≤ 1 :=
  Nat.le_trans (List.length_filterMap_le _ _)
    ((consistent.platforms platform).verificationIds.filter_length_le _)

theorem getUsername_row (row : PlatformRow) (platform : Platform) :
    ((getUsername discordBotToken (row.account platform)).answeredBy replies).toOption =
      shownName discordBotToken replies row platform := by
  cases platform with
  | telegram => rfl
  | discord =>
      have url : s!"{discordApiEndpoint}/users/{row.id}" =
          "https://discord.com/api/v10/users/" ++ row.id := by
        have joined : discordApiEndpoint ++ "/users/" = "https://discord.com/api/v10/users/" := rfl
        rw [← joined]
        rfl
      unfold shownName
      rw [← url]
      simp only [getUsername, PlatformRow.account, Program.answeredBy_call]
      generalize replies (.discordUser _ _) = user
      cases user <;> rfl

/-- The endpoint shows the account of a row whose credential is in the presentation. -/
theorem lookUp_row {sdk : Sdk} {proof : Presentation} {row : PlatformRow} {platform : Platform}
    (holder : self.credentialHolder sdk (row.account platform) proof = some ⟨row.credId⟩) :
    ((self.lookUp sdk discordBotToken proof (row.account platform)).answeredBy replies).toOption =
      self.shown discordBotToken replies row platform := by
  unfold lookUp shown
  rw [← getUsername_row, Program.answeredBy_bind]
  cases (getUsername discordBotToken (row.account platform)).answeredBy replies with
  | error e => rfl
  | ok username =>
      simp only [getCredentialStatus, holder, Program.answeredBy_bind, Program.answeredBy_hoist,
        Program.answeredBy_call]
      simp only [PlatformRow.account, Except.toOption]
      generalize replies (.credentialStatus _) = status
      cases status <;> rfl

end AppState

section Served

variable {sdk : Sdk} {self : AppState} {discordBotToken : String}
  {replies : (request : LookupCall) → request.Reply} {tables : Tables} {platform : Platform}

/-- The endpoint serves the accounts that can be looked up in the verification of the user. -/
theorem Tables.Consistent.served_row (consistent : tables.Consistent)
    (shows : tables.ShowsCredentials sdk self) {row : PlatformRow} {verification : VerificationRow}
    {fullName : Option FullName} (present : row ∈ tables.platform platform)
    (stored : verification ∈ tables.verifications)
    (points : row.verificationId = some verification.id)
    (named : verification.fullName = .ok fullName) :
    (self.getVerification sdk discordBotToken tables platform row.id).answeredBy replies =
      .ok ⟨(self.shown discordBotToken replies row platform).toList ++
        self.shownOf discordBotToken replies tables verification.id platform.other, fullName⟩ := by
  obtain ⟨presentation, read, holder⟩ :=
    shows verification stored (row.account platform) row present points
  have listed : tables.accountsOn verification.id [platform.other] =
      (tables.rowsOf verification.id platform.other).map (·.account platform.other) := by
    simp [accountsOn, rowsOf]
  have looked : ∀ other ∈ tables.rowsOf verification.id platform.other,
      ((self.lookUp sdk discordBotToken presentation (other.account platform.other)).answeredBy
        replies).toOption = self.shown discordBotToken replies other platform.other := by
    intro other found
    obtain ⟨inTable, refers⟩ := List.mem_filter.mp found
    obtain ⟨again, same, holds⟩ := shows verification stored (other.account platform.other) other
      inTable (of_decide_eq_true refers)
    cases read.symm.trans same
    exact AppState.lookUp_row holds
  unfold AppState.getVerification
  rw [consistent.getVerification_row present stored points named read,
    platform.supportedPlatforms_others, listed]
  simp only [Program.answeredBy_bind, Program.answeredBy_joinAll, List.map_map, List.map_cons,
    Program.pure_eq, Program.answeredBy_pure, List.filterMap_map, List.filterMap_cons,
    Function.comp_apply, AppState.lookUp_row holder]
  rw [List.filterMap_congr looked]
  cases self.shown discordBotToken replies row platform <;> rfl

/-- The endpoint serves nothing for a user without a row. -/
theorem served_none {id : String} (absent : ∀ row ∈ tables.platform platform, row.id ≠ id) :
    (self.getVerification sdk discordBotToken tables platform id).answeredBy replies =
      .ok .default := by
  unfold AppState.getVerification
  rw [Tables.getVerification_none absent]
  rfl

end Served

end Web3Id.SomeVerifier
