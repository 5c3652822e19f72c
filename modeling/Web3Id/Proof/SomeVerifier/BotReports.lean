import Web3Id.Construction.SomeVerifier.Bots
import Web3Id.Proof.SomeVerifier.ServedVerification

namespace Web3Id.SomeVerifier

open Library

/-- The words for the status of a credential. -/
inductive StatusText : CredentialStatus → String → Prop
  | active : StatusText .active "Credential active"
  | revoked : StatusText .revoked "Credential revoked"
  | expired : StatusText .expired "Credential expired"
  | notActivated : StatusText .notActivated "Credential not yet active"

inductive PlatformText : Platform → String → Prop
  | telegram : PlatformText .telegram "Telegram"
  | discord : PlatformText .discord "Discord"

namespace Markup

variable {markup : Markup} {mention : String} {own : Option Account} {fullName : Option FullName}

/-- An account has its platform and its username, and without an active credential they are struck
through and followed by the status. -/
inductive AccountItem (markup : Markup) : Account → String → Prop
  | active {platform : Platform} {name : String} (username : String)
      (named : PlatformText platform name) :
      AccountItem markup ⟨platform, username, .active⟩ (name ++ ": " ++ markup.escape username)
  | struck {platform : Platform} {name : String} (username : String) {status : CredentialStatus}
      {words : String} (named : PlatformText platform name) (inactive : status ≠ .active)
      (worded : StatusText status words) :
      AccountItem markup ⟨platform, username, status⟩
        (markup.strike ++ name ++ ": " ++ markup.escape username ++ markup.strike ++ " " ++
          markup.opening ++ words ++ markup.closing)

/-- The line for the name has the first name and the last name. -/
inductive NameLine (markup : Markup) : Option FullName → String → Prop
  | none : NameLine markup none ""
  | some (firstName lastName : String) :
      NameLine markup (some ⟨firstName, lastName⟩)
        ("\n" ++ markup.bullet ++ " Real name: " ++ markup.escape (firstName ++ " " ++ lastName))

inductive AccountLine (markup : Markup) : Option Account → String → Prop
  | none : AccountLine markup none ""
  | some {account : Account} {item : String} (written : markup.AccountItem account item) :
      AccountLine markup (some account) ("\n" ++ markup.bullet ++ " " ++ item)

/-- The text about a verified user has the line for the name, and then the one for the account. -/
inductive VerifiedText (markup : Markup) (mention : String) (fullName : Option FullName)
    (other : Option Account) : String → Prop
  | lines {nameLine accountLine : String} (named : markup.NameLine fullName nameLine)
      (listed : markup.AccountLine other accountLine) :
      VerifiedText markup mention fullName other
        (mention ++ " is verified with Concordia" ++ markup.stop ++ nameLine ++ accountLine)

inductive Reason (markup : Markup) : Option CredentialStatus → String → Prop
  | none : Reason markup none ""
  | some {status : CredentialStatus} {words : String} (worded : StatusText status words) :
      Reason markup (some status) (" " ++ markup.opening ++ words ++ markup.closing)

/-- The text about any other user has the status of the user if it is known. -/
inductive UnverifiedText (markup : Markup) (mention : String) (status : Option CredentialStatus) :
    String → Prop
  | reason {reason : String} (reasoned : markup.Reason status reason) :
      UnverifiedText markup mention status
        (mention ++ " is not verified with Concordia" ++ (reason ++ markup.stop))

/-- At most one other account is listed. -/
def otherText (markup : Markup) : Option Account → String
  | some account => s!"\n{markup.bullet} " ++ markup.accountText account
  | none => ""

/-- The status of a user who is not verified is shown if it is known. -/
def reasonText (markup : Markup) : Option CredentialStatus → String
  | some status => s!" {markup.opening}{credentialStatusMsg status}{markup.closing}"
  | none => ""

theorem credentialStatusMsg_text (status : CredentialStatus) :
    StatusText status (credentialStatusMsg status) := by
  cases status
  · exact .active
  · exact .revoked
  · exact .expired
  · exact .notActivated

theorem display_text (platform : Platform) : PlatformText platform platform.display := by
  cases platform
  · exact .telegram
  · exact .discord

theorem accountText_item (markup : Markup) (account : Account) :
    markup.AccountItem account (markup.accountText account) := by
  obtain ⟨platform, username, status⟩ := account
  have struck : status ≠ .active → markup.AccountItem ⟨platform, username, status⟩ _ :=
    fun inactive => .struck username (display_text platform) inactive
      (credentialStatusMsg_text status)
  match status with
  | .active => exact .active username (display_text platform)
  | .revoked | .expired | .notActivated =>
      convert struck (by decide) using 1
      simp only [accountText, String.append_assoc, toString]

theorem nameText_line (markup : Markup) (fullName : Option FullName) :
    markup.NameLine fullName (markup.nameText fullName) := by
  cases fullName with
  | none => exact .none
  | some fullName => exact .some fullName.firstName fullName.lastName

theorem otherText_line (markup : Markup) (other : Option Account) :
    markup.AccountLine other (markup.otherText other) := by
  cases other with
  | none => exact .none
  | some account => exact .some (markup.accountText_item account)

theorem reasonText_reason (markup : Markup) (status : Option CredentialStatus) :
    markup.Reason status (markup.reasonText status) := by
  cases status with
  | none => exact .none
  | some status => exact .some (credentialStatusMsg_text status)

/-- The account of the user is the only one on the platform of the bot. -/
theorem find_own {others : List Account}
    (native : ∀ account ∈ own, account.platform = markup.platform)
    (foreign : ∀ account ∈ others, account.platform ≠ markup.platform) :
    (own.toList ++ others).find? (fun account => account.platform = markup.platform) = own := by
  have absent : others.find? (fun account => account.platform = markup.platform) = none :=
    List.find?_eq_none.mpr fun account listed same =>
      foreign account listed (of_decide_eq_true same)
  cases own with
  | none => exact absent
  | some account =>
      exact List.find?_cons_of_pos (decide_eq_true (native account rfl))

/-- The other accounts are those that are listed. -/
theorem filter_others {others : List Account}
    (native : ∀ account ∈ own, account.platform = markup.platform)
    (foreign : ∀ account ∈ others, account.platform ≠ markup.platform) :
    (own.toList ++ others).filter (fun account => account.platform ≠ markup.platform) = others := by
  have kept : others.filter (fun account => account.platform ≠ markup.platform) = others :=
    List.filter_eq_self.mpr fun account listed => decide_eq_true (foreign account listed)
  cases own with
  | none => exact kept
  | some account =>
      rw [Option.toList_some, List.singleton_append, List.filter_cons_of_neg, kept]
      simp [native account rfl]

theorem message_verified {other : Option Account}
    (native : ∀ account ∈ own, account.platform = markup.platform)
    (foreign : ∀ account ∈ other.toList, account.platform ≠ markup.platform)
    (active : own.map Account.credStatus = some .active) :
    markup.message mention ⟨own.toList ++ other.toList, fullName⟩ =
      mention ++ " is verified with Concordia" ++ markup.stop ++ markup.nameText fullName ++
        markup.otherText other := by
  unfold message
  simp only [find_own native foreign, filter_others native foreign, active]
  cases other with
  | none => exact String.append_empty.symm
  | some account => exact String.append_assoc

theorem message_unverified {others : List Account}
    (native : ∀ account ∈ own, account.platform = markup.platform)
    (foreign : ∀ account ∈ others, account.platform ≠ markup.platform)
    (inactive : own.map Account.credStatus ≠ some .active) :
    markup.message mention ⟨own.toList ++ others, fullName⟩ =
      mention ++ " is not verified with Concordia" ++
        (markup.reasonText (own.map Account.credStatus) ++ markup.stop) := by
  unfold message
  simp only [find_own native foreign]
  generalize own.map Account.credStatus = status at inactive ⊢
  match status with
  | none =>
      rw [reasonText, String.empty_append]
      rfl
  | some .active => exact absurd rfl inactive
  | some .revoked | some .expired | some .notActivated => rfl

end Markup

/-- The two texts about a user are distinct from the first word on. -/
theorem verified_ne (mention rest other : String) :
    mention ++ " is verified with Concordia" ++ rest ≠
      mention ++ " is not verified with Concordia" ++ other := by
  intro same
  rw [String.append_assoc, String.append_assoc, String.append_right_inj] at same
  have chars := congrArg String.toList same
  rw [String.toList_append, String.toList_append] at chars
  simp at chars

/-- The row shows an account whose credential is active. -/
def Verified (shown : PlatformRow → Platform → Option Account) (row : PlatformRow)
    (platform : Platform) : Prop :=
  (shown row platform).map Account.credStatus = some .active

/-- The text says that a user is verified, with the name and the other account of the same
verification, or it says that the user is not verified and shows neither of them. -/
structure Reports (shown : PlatformRow → Platform → Option Account) (tables : Tables)
    (markup : Markup) (id mention text : String) : Prop where
  verified : (∃ rest, text = mention ++ " is verified with Concordia" ++ rest) ↔
    ∃ row ∈ tables.platform markup.platform, row.id = id ∧ Verified shown row markup.platform
  lists : ∀ row ∈ tables.platform markup.platform, row.id = id →
    Verified shown row markup.platform →
    ∃ verification ∈ tables.verifications, row.verificationId = some verification.id ∧
      ∃ fullName other, verification.Stores fullName ∧
        (∀ account, other = some account ↔ ∃ row ∈ tables.platform markup.platform.other,
          row.verificationId = some verification.id ∧
            shown row markup.platform.other = some account) ∧
        markup.VerifiedText mention fullName other text
  silent : (∀ row ∈ tables.platform markup.platform, row.id = id →
      ¬ Verified shown row markup.platform) →
    ∃ status, (∀ reason, status = some reason → ∃ row ∈ tables.platform markup.platform,
        row.id = id ∧ (shown row markup.platform).map Account.credStatus = some reason) ∧
      markup.UnverifiedText mention status text
  struck : ∀ account item, markup.AccountItem account item →
    ((∃ rest, item = markup.strike ++ rest) ↔ account.credStatus ≠ .active)

/-- An account is struck through if and only if its credential is not active. -/
theorem Markup.AccountItem.struck_iff {markup : Markup} {more : String}
    (tilde : markup.strike = "~" ++ more) {account : Account} {item : String}
    (written : markup.AccountItem account item) :
    (∃ rest, item = markup.strike ++ rest) ↔ account.credStatus ≠ .active := by
  cases written with
  | active username named =>
      refine iff_of_false ?_ (not_not_intro rfl)
      rintro ⟨rest, same⟩
      rw [tilde, String.append_assoc, String.append_assoc] at same
      have chars := congrArg String.toList same
      cases named <;> simp at chars
  | struck username named inactive worded =>
      refine iff_of_true ?_ inactive
      simp only [String.append_assoc]
      exact ⟨_, rfl⟩

section Report

variable {shown : PlatformRow → Platform → Option Account} {tables : Tables} {markup : Markup}
  {id mention : String} {fullName : Option FullName}

/-- The report on a user without a row, or without an active account, is silent. -/
theorem Reports.of_silent {status : Option CredentialStatus} {more : String}
    (tilde : markup.strike = "~" ++ more)
    (reasons : ∀ reason, status = some reason → ∃ row ∈ tables.platform markup.platform,
      row.id = id ∧ (shown row markup.platform).map Account.credStatus = some reason)
    (unverified : ∀ row ∈ tables.platform markup.platform, row.id = id →
      ¬ Verified shown row markup.platform) :
    Reports shown tables markup id mention (mention ++ " is not verified with Concordia" ++
      (markup.reasonText status ++ markup.stop)) where
  verified := by
    constructor
    · intro positive
      obtain ⟨rest, same⟩ := positive
      exact absurd same.symm (verified_ne mention rest _)
    · intro known
      obtain ⟨row, present, same, verified⟩ := known
      exact absurd verified (unverified row present same)
  lists row present same verified := absurd verified (unverified row present same)
  silent _ := ⟨status, reasons, .reason (markup.reasonText_reason status)⟩
  struck _ _ := Markup.AccountItem.struck_iff tilde

/-- The report on a user with an active account lists the verification of the row. -/
theorem Reports.of_verified {row : PlatformRow} {verification : VerificationRow}
    {other : Option Account} {more : String} (tilde : markup.strike = "~" ++ more)
    (present : row ∈ tables.platform markup.platform)
    (only : ∀ other ∈ tables.platform markup.platform, other.id = row.id → other = row)
    (verified : Verified shown row markup.platform) (stored : verification ∈ tables.verifications)
    (points : row.verificationId = some verification.id) (stores : verification.Stores fullName)
    (lists : ∀ account, other = some account ↔ ∃ row ∈ tables.platform markup.platform.other,
      row.verificationId = some verification.id ∧
        shown row markup.platform.other = some account) :
    Reports shown tables markup row.id mention (mention ++ " is verified with Concordia" ++
      markup.stop ++ markup.nameText fullName ++ markup.otherText other) where
  verified := by
    refine iff_of_true ?_ ⟨row, present, rfl, verified⟩
    simp only [String.append_assoc]
    exact ⟨_, rfl⟩
  lists found listed same _ := by
    cases only found listed same
    exact ⟨verification, stored, points, fullName, other, stores, lists,
      .lines (markup.nameText_line fullName) (markup.otherText_line other)⟩
  silent unverified := absurd verified (unverified row present rfl)
  struck _ _ := Markup.AccountItem.struck_iff tilde

end Report

/-- A list with at most one element is the list of an option. -/
theorem toList_head? {A : Type} {list : List A} (short : list.length ≤ 1) :
    list.head?.toList = list := by
  match list with
  | [] => rfl
  | [_] => rfl
  | first :: second :: rest => simp at short

section Messages

variable {sdk : Sdk} {self : AppState} {discordBotToken : String}
  {replies : (request : LookupCall) → request.Reply} {tables : Tables} {markup : Markup}
  {more : String}

/-- The message about a user with a row reports the verification of the row. -/
theorem Tables.Consistent.reports_row (consistent : tables.Consistent)
    (tilde : markup.strike = "~" ++ more) {row : PlatformRow} {verification : VerificationRow}
    {fullName : Option FullName} (present : row ∈ tables.platform markup.platform)
    (stored : verification ∈ tables.verifications)
    (points : row.verificationId = some verification.id) (stores : verification.Stores fullName)
    (mention : String) :
    Reports (self.shown discordBotToken replies) tables markup row.id mention
      (markup.message mention
        ⟨(self.shown discordBotToken replies row markup.platform).toList ++
          self.shownOf discordBotToken replies tables verification.id markup.platform.other,
        fullName⟩) := by
  have only : ∀ other ∈ tables.platform markup.platform, other.id = row.id → other = row :=
    fun other found same =>
      (consistent.platforms markup.platform).userIds.eq_of_key found present same
  have native : ∀ account ∈ self.shown discordBotToken replies row markup.platform,
      account.platform = markup.platform := fun account shown => AppState.shown_platform shown
  have foreign : ∀ account ∈ self.shownOf discordBotToken replies tables verification.id
      markup.platform.other, account.platform ≠ markup.platform := by
    intro account listed
    obtain ⟨other, -, -, shown⟩ := AppState.mem_shownOf.mp listed
    rw [AppState.shown_platform shown]
    exact markup.platform.other_ne
  by_cases active : Verified (self.shown discordBotToken replies) row markup.platform
  · have single : (self.shownOf discordBotToken replies tables verification.id
        markup.platform.other).head?.toList = self.shownOf discordBotToken replies tables
          verification.id markup.platform.other :=
      toList_head? (AppState.shownOf_length_le consistent _ _)
    rw [← single] at foreign ⊢
    rw [Markup.message_verified native foreign active]
    apply Reports.of_verified tilde present only active stored points stores
    intro account
    rw [← Option.mem_toList, single, AppState.mem_shownOf]
  · rw [Markup.message_unverified native foreign active]
    apply Reports.of_silent tilde
    · intro reason shown
      exact ⟨row, present, rfl, shown⟩
    · intro other found same
      rw [only other found same]
      exact active

/-- The message about a user without a row reports nothing. -/
theorem reports_absent (tilde : markup.strike = "~" ++ more) {id : String}
    (absent : ∀ row ∈ tables.platform markup.platform, row.id ≠ id) (mention : String) :
    Reports (self.shown discordBotToken replies) tables markup id mention
      (markup.message mention .default) := by
  have text : markup.message mention ⟨Option.toList none ++ [], none⟩ =
      mention ++ " is not verified with Concordia" ++ (markup.reasonText none ++ markup.stop) :=
    Markup.message_unverified (by simp) (by simp) (by simp)
  change Reports _ _ _ _ _ (markup.message mention ⟨Option.toList none ++ [], none⟩)
  rw [text]
  apply Reports.of_silent tilde
  · intro reason shown
    cases shown
  · intro row present same
    exact absurd same (absent row present)

/-- The message of a bot reports what the endpoint serves for consistent tables. -/
theorem Tables.Consistent.reports (consistent : tables.Consistent)
    (shows : tables.ShowsCredentials sdk self) (tilde : markup.strike = "~" ++ more)
    (id mention : String) :
    ∃ verification,
      (self.getVerification sdk discordBotToken tables markup.platform id).answeredBy replies =
        .ok verification ∧
      Reports (self.shown discordBotToken replies) tables markup id mention
        (markup.message mention verification) := by
  by_cases known : ∃ row ∈ tables.platform markup.platform, row.id = id
  · obtain ⟨row, present, rfl⟩ := known
    obtain ⟨number, points, listed⟩ := (consistent.platforms markup.platform).target row present
    obtain ⟨verification, stored, rfl⟩ := List.mem_map.mp listed
    obtain ⟨fullName, stores, named⟩ :=
      VerificationRow.exists_stores (consistent.names verification stored)
    exact ⟨_, consistent.served_row shows present stored points named,
      consistent.reports_row tilde present stored points stores mention⟩
  · have absent : ∀ row ∈ tables.platform markup.platform, row.id ≠ id :=
      fun row present same => known ⟨row, present, same⟩
    exact ⟨_, served_none absent, reports_absent tilde absent mention⟩

end Messages

/-- Both bots report the verification of a user in the database after every list of requests,
whatever lookups fail, the Telegram bot in MarkdownV2 and the Discord bot in Markdown. -/
theorem bots_report (sdk : Sdk) (self : AppState) (events : List Event)
    (lists : ListsMetadata sdk)
    (serializes : ∀ event ∈ events, ∀ request, event.body = .ok request →
      sdk.fromValue (sdk.toValue request.proof) = some request.proof)
    (discordBotToken : String) (replies : (request : LookupCall) → request.Reply) (cfg : BotConfig)
    (faithful : ∀ platform id, cfg.request platform id =
      (self.getVerification sdk discordBotToken (self.serveAll sdk Db.empty events).tables platform
        id).answeredBy replies)
    (escape : String → String) (msg : TelegramBot.Message) (targetUser : TelegramBot.User)
    (user : DiscordBot.User) :
    Reports (self.shown discordBotToken replies)
        (self.serveAll sdk Db.empty events).tables
        ⟨.telegram, escape, "•", "~", "\\(", "\\)", "\\."⟩ (toString targetUser.id)
        (if targetUser.mentionOrLink.startsWith '@' then escape targetUser.mentionOrLink
          else targetUser.mentionOrLink)
        (TelegramBot.checkUser cfg escape msg targetUser).text ∧
      Reports (self.shown discordBotToken replies)
        (self.serveAll sdk Db.empty events).tables
        ⟨.discord, fun name => name, "-", "~~", "(", ")", "."⟩ (toString user.id) user.mention
        (DiscordBot.check cfg user) := by
  have consistent := (self.serveAll_consistent sdk events).tables
  have shows := self.serveAll_showsCredentials events lists serializes
  constructor
  · have tilde : (TelegramBot.markup escape).strike = "~" ++ "" := rfl
    obtain ⟨verification, served, reports⟩ := consistent.reports shows tilde
      (toString targetUser.id) (TelegramBot.mention escape targetUser)
    have answered : cfg.request .telegram (toString targetUser.id) = .ok verification :=
      (faithful _ _).trans served
    unfold TelegramBot.checkUser
    rw [answered]
    exact reports
  · have tilde : DiscordBot.markup.strike = "~" ++ "~" := rfl
    obtain ⟨verification, served, reports⟩ := consistent.reports shows tilde (toString user.id)
      user.mention
    have answered : cfg.request .discord (toString user.id) = .ok verification :=
      (faithful _ _).trans served
    unfold DiscordBot.check
    rw [answered]
    exact reports

/-- Discord does not answer, and every credential is active. -/
def sampleReplies : (request : LookupCall) → request.Reply
  | .discordUser _ _ => .error "timeout"
  | .credentialStatus _ => .ok .active

/-- The bots request the verifications of the sample database. -/
def sampleConfig : BotConfig where
  request platform id :=
    (sampleState.getVerification (sampleSdk (samplePresentation (sampleProofs "userId" "username")))
      "" (sampleState.serveAll (sampleSdk (samplePresentation (sampleProofs "userId" "username")))
        Db.empty [samplePost "userId" "username"]).tables platform id).answeredBy sampleReplies

/-- The sample user is verified on Telegram, with a name and without another account. -/
theorem bots_report_sample :
    (TelegramBot.checkUser sampleConfig (fun text => text) ⟨1, 2⟩ ⟨42, "@sample"⟩).text =
      "@sample is verified with Concordia\\.\n• Real name: First Last" := by
  have report := (bots_report (sampleSdk (samplePresentation (sampleProofs "userId" "username")))
    sampleState [samplePost "userId" "username"] (fun _ => rfl) samplePost_serializes ""
    sampleReplies sampleConfig (fun _ _ => rfl) (fun text => text) ⟨1, 2⟩ ⟨42, "@sample"⟩
    ⟨43, "<@43>"⟩).1
  rw [ite_self] at report
  obtain ⟨verification, stored, -, fullName, other, stores, lists, text⟩ :=
    report.lists ⟨"42", 7, some 1, "43"⟩ (List.mem_singleton.mpr rfl) rfl rfl
  cases List.mem_singleton.mp stored
  have absent : other = none := by
    refine Option.eq_none_iff_forall_ne_some.mpr fun account shown => ?_
    obtain ⟨row, present, -⟩ := (lists account).mp shown
    exact List.not_mem_nil present
  cases absent
  obtain ⟨first, last⟩ := stores
  generalize (TelegramBot.checkUser _ _ _ _).text = message at text ⊢
  cases text with
  | lines named listed =>
      cases listed
      cases named with
      | none => cases first
      | some firstName lastName =>
          cases first
          cases last
          rfl

end Web3Id.SomeVerifier
