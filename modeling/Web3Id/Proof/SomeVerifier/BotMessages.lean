import Web3Id.Proof.SomeVerifier.BotReports
import Web3Id.Proof.SomeVerifier.RecordedPresentations
import Web3Id.Proof.SomeVerifier.StoredAccounts

namespace Web3Id

open Library
open SomeVerifier (Platform PlatformRow Account FullName Markup LookupCall AppState BotConfig)

/-- The SDK reads back the presentation that a request of the verifier stores. -/
def DeploymentEvent.Serializes (sdk : SomeVerifier.Sdk) : DeploymentEvent → Prop
  | .verifier event => ∀ request, event.body = .ok request →
      sdk.fromValue (sdk.toValue request.proof) = some request.proof
  | _ => True

/-- The accounts have their users, and a presentation that was accepted in one of the requests shows
what the database stores. -/
structure Deployment.Recorded (config : Configuration) (events : List DeploymentEvent)
    (deployment : Deployment) : Prop where
  sound : deployment.Sound config (∀ event ∈ events, event.InOrder)
  shows : deployment.db.tables.ShowsCredentials config.verifierSdk config.verifier
  presented : deployment.db.tables.Presented config.verifierSdk config.verifier
    fun event => .verifier event ∈ events

/-- The stored account is the one of an authenticated user whose registered credential is presented,
with the username of its platform and the status that the node answers for the credential. -/
structure Deployment.Proves (config : Configuration) (events : List DeploymentEvent)
    (discordBotToken : String) (replies : (request : LookupCall) → request.Reply)
    (deployment : Deployment) (presentation : Presentation) (row : PlatformRow)
    (account : Account) : Prop where
  stored : row ∈ deployment.db.tables.platform account.platform
  user : ∃ data, deployment.BelongsTo config account.platform row data ∧
    ((∀ event ∈ events, event.InOrder) → InPlace row data)
  presented : config.verifier.Presents presentation account.platform row.credId
  username : AppState.shownName discordBotToken replies row account.platform =
    some account.username
  status : replies (.credentialStatus
    ⟨(config.issuer account.platform).contract, ⟨row.credId⟩, .lastFinal⟩) = .ok account.credStatus

/-- One presentation that was accepted in a request proves an active account of the user, and all
else that is shown. -/
structure Deployment.Verifies (config : Configuration) (events : List DeploymentEvent)
    (discordBotToken : String) (replies : (request : LookupCall) → request.Reply)
    (deployment : Deployment) (platform : Platform) (id : String) (fullName : Option FullName)
    (other : Option Account) (presentation : Presentation) : Prop where
  accepted : ∃ event, .verifier event ∈ events ∧
    config.verifier.AcceptsRequest config.verifierSdk event presentation
  own : ∃ row account, row.id = id ∧ account.platform = platform ∧ account.credStatus = .active ∧
    deployment.Proves config events discordBotToken replies presentation row account
  name : ∀ name, fullName = some name → SomeVerifier.PresentsName presentation name
  other : ∀ account, other = some account → account.platform = platform.other ∧
    ∃ row, deployment.Proves config events discordBotToken replies presentation row account

/-- The text calls exactly those users verified who have a row with an active account, and it shows
nothing that one accepted presentation does not prove. -/
structure Deployment.Truthful (config : Configuration) (events : List DeploymentEvent)
    (discordBotToken : String) (replies : (request : LookupCall) → request.Reply)
    (deployment : Deployment) (markup : Markup) (id mention text : String) : Prop where
  verified : ∀ rest, text = mention ++ " is verified with Concordia" ++ rest →
    ∃ fullName other presentation, deployment.Verifies config events discordBotToken replies
        markup.platform id fullName other presentation ∧
      markup.VerifiedText mention fullName other text
  complete : ∀ row ∈ deployment.db.tables.platform markup.platform, row.id = id →
    SomeVerifier.Verified (config.verifier.shown discordBotToken replies) row markup.platform →
    ∃ rest, text = mention ++ " is verified with Concordia" ++ rest

/-- An account that is shown has a username and a status. -/
theorem SomeVerifier.AppState.shown_some {self : AppState} {discordBotToken : String}
    {replies : (request : LookupCall) → request.Reply} {row : PlatformRow} {platform : Platform}
    {account : Account}
    (shows : self.shown discordBotToken replies row platform = some account) :
    account.platform = platform ∧
      shownName discordBotToken replies row platform = some account.username ∧
      replies (.credentialStatus ⟨self.registry platform, ⟨row.credId⟩, .lastFinal⟩) =
        .ok account.credStatus := by
  unfold shown at shows
  split at shows
  · rename_i username credStatus named status
    cases shows
    exact ⟨rfl, named, status⟩
  · cases shows

namespace Deployment

variable {config : Configuration} {deployment : Deployment} {events : List DeploymentEvent}
  {discordBotToken : String} {replies : (request : LookupCall) → request.Reply}

theorem start_recorded (config : Configuration) (events : List DeploymentEvent) :
    (Deployment.start config).Recorded config events where
  sound := start_sound config _
  shows _ stored := nomatch stored
  presented _ stored := nomatch stored

/-- Every step of the deployment keeps what its database stores behind presentations. -/
theorem Recorded.step {second : Deployment} {event : DeploymentEvent}
    (lists : SomeVerifier.ListsMetadata config.verifierSdk)
    (recorded : deployment.Recorded config events) (member : event ∈ events)
    (serializes : event.Serializes config.verifierSdk)
    (step : deployment.Step config event second) : second.Recorded config events := by
  have sound := recorded.sound.step (fun all => all event member) step
  cases step with
  | telegram => exact ⟨sound, recorded.shows, recorded.presented⟩
  | discord => exact ⟨sound, recorded.shows, recorded.presented⟩
  | @verifier event _ =>
      have consistent := recorded.sound.consistent
      have outcome := config.verifier.serve_outcome config.verifierSdk consistent event
      exact ⟨sound, outcome.showsCredentials lists serializes consistent recorded.shows,
        outcome.presented consistent member recorded.presented⟩

/-- The account of a row is proven by the presentation of its verification. -/
theorem Recorded.proves (recorded : deployment.Recorded config events)
    {presentation : Presentation} {verification : SomeVerifier.VerificationRow}
    (backs : deployment.db.tables.Backs config.verifierSdk config.verifier
      (fun event => .verifier event ∈ events) verification presentation)
    {platform : Platform} {row : PlatformRow} {account : Account}
    (present : row ∈ deployment.db.tables.platform platform)
    (points : row.verificationId = some verification.id)
    (shows : config.verifier.shown discordBotToken replies row platform = some account) :
    account.platform = platform ∧ deployment.Proves config events discordBotToken replies
      presentation row account := by
  obtain ⟨rfl, username, status⟩ := SomeVerifier.AppState.shown_some shows
  rw [config.registries] at status
  exact ⟨rfl, present, recorded.sound.rows _ row present, backs.rows _ row present points, username,
    status⟩

/-- The message of a bot is truthful when it is about what the endpoint serves. -/
theorem Recorded.truthful (recorded : deployment.Recorded config events) {markup : Markup}
    {more : String} (tilde : markup.strike = "~" ++ more) (id mention : String) :
    ∃ verification,
      (config.verifier.getVerification config.verifierSdk discordBotToken deployment.db.tables
        markup.platform id).answeredBy replies = .ok verification ∧
      deployment.Truthful config events discordBotToken replies markup id mention
        (markup.message mention verification) := by
  obtain ⟨verification, served, reports⟩ :=
    recorded.sound.consistent.tables.reports recorded.shows tilde id mention
  refine ⟨verification, served, ?_, ?_⟩
  · intro rest same
    obtain ⟨row, present, known, active⟩ := reports.verified.mp ⟨rest, same⟩
    obtain ⟨stored, listed, points, fullName, other, stores, shown, text⟩ :=
      reports.lists row present known active
    obtain ⟨presentation, backs⟩ := recorded.presented stored listed
    refine ⟨fullName, other, presentation, ⟨backs.accepted, ?_, ?_, ?_⟩, text⟩
    · obtain ⟨account, shows, status⟩ := Option.map_eq_some_iff.mp active
      obtain ⟨native, proves⟩ := recorded.proves backs present points shows
      exact ⟨row, account, known, native, status, proves⟩
    · rintro name rfl
      exact backs.named name stores
    · rintro account rfl
      obtain ⟨second, found, refers, shows⟩ := (shown account).mp rfl
      obtain ⟨foreign, proves⟩ := recorded.proves backs found refers shows
      exact ⟨foreign, second, proves⟩
  · intro row present known active
    exact reports.verified.mpr ⟨row, present, known, active⟩

end Deployment

/-- In every interleaving of both issuers and the verifier, a bot calls a user verified only if the
platform has authenticated the user, the issuer has registered a credential for the user that is
active, and one presentation that was accepted in a request has this credential and proves all else
that the text shows. -/
theorem bots_truthful {config : Configuration} {events : List DeploymentEvent}
    {deployment : Deployment}
    (run : Execution (Deployment.Step config) (.start config) events deployment)
    (lists : SomeVerifier.ListsMetadata config.verifierSdk)
    (serializes : ∀ event ∈ events, event.Serializes config.verifierSdk)
    (discordBotToken : String) (replies : (request : LookupCall) → request.Reply) (cfg : BotConfig)
    (faithful : ∀ platform id, cfg.request platform id =
      (config.verifier.getVerification config.verifierSdk discordBotToken deployment.db.tables
        platform id).answeredBy replies)
    (escape : String → String) (msg : SomeVerifier.TelegramBot.Message)
    (targetUser : SomeVerifier.TelegramBot.User) (user : SomeVerifier.DiscordBot.User) :
    deployment.Truthful config events discordBotToken replies
        ⟨.telegram, escape, "•", "~", "\\(", "\\)", "\\."⟩ (toString targetUser.id)
        (if targetUser.mentionOrLink.startsWith '@' then escape targetUser.mentionOrLink
          else targetUser.mentionOrLink)
        (SomeVerifier.TelegramBot.checkUser cfg escape msg targetUser).text ∧
      deployment.Truthful config events discordBotToken replies
        ⟨.discord, fun name => name, "-", "~~", "(", ")", "."⟩ (toString user.id) user.mention
        (SomeVerifier.DiscordBot.check cfg user) := by
  have recorded : deployment.Recorded config events := by
    refine run.invariant_of (· ∈ events) ?_ (fun _ => id) (Deployment.start_recorded config _)
    intro first event second member recorded head
    exact recorded.step lists member (serializes event member) head
  constructor
  · have tilde : (SomeVerifier.TelegramBot.markup escape).strike = "~" ++ "" := rfl
    obtain ⟨verification, served, truthful⟩ := recorded.truthful tilde (toString targetUser.id)
      (SomeVerifier.TelegramBot.mention escape targetUser)
    have answered : cfg.request .telegram (toString targetUser.id) = .ok verification :=
      (faithful _ _).trans served
    unfold SomeVerifier.TelegramBot.checkUser
    rw [answered]
    exact truthful
  · have tilde : SomeVerifier.DiscordBot.markup.strike = "~" ++ "~" := rfl
    obtain ⟨verification, served, truthful⟩ := recorded.truthful tilde (toString user.id)
      user.mention
    have answered : cfg.request .discord (toString user.id) = .ok verification :=
      (faithful _ _).trans served
    unfold SomeVerifier.DiscordBot.check
    rw [answered]
    exact truthful

/-- The bots request the verifications of the sample deployment. -/
def sampleBots : BotConfig where
  request platform id :=
    (sampleConfiguration.verifier.getVerification sampleConfiguration.verifierSdk ""
      sampleServed.db.tables platform id).answeredBy SomeVerifier.sampleReplies

/-- The sample user is called verified, and a presentation has the credential that the issuer has
registered for the user. -/
theorem bots_truthful_sample :
    ∃ presentation row data, row.id = "42" ∧
      sampleServed.BelongsTo sampleConfiguration .telegram row data ∧ InPlace row data ∧
      SomeVerifier.sampleState.Presents presentation .telegram row.credId := by
  have serializes : ∀ event ∈ sampleRequests.map DeploymentEvent.telegram ++
      [.verifier (SomeVerifier.samplePost "userId" "username")],
      event.Serializes sampleConfiguration.verifierSdk := by
    intro event member
    rcases List.mem_append.mp member with telegram | verifier
    · obtain ⟨request, -, rfl⟩ := List.mem_map.mp telegram
      trivial
    · cases List.mem_singleton.mp verifier
      exact SomeVerifier.samplePost_serializes _ (List.mem_singleton.mpr rfl)
  have truthful := (bots_truthful sampleServed_run (fun _ => rfl) serializes ""
    SomeVerifier.sampleReplies sampleBots (fun _ _ => rfl) (fun text => text) ⟨1, 2⟩
    ⟨42, "@sample"⟩ ⟨43, "<@43>"⟩).1
  obtain ⟨rest, text⟩ := truthful.complete ⟨"42", 7, some 1, "43"⟩ (List.mem_singleton.mpr rfl) rfl
    rfl
  obtain ⟨_, _, presentation, verifies, -⟩ := truthful.verified rest text
  obtain ⟨row, account, known, native, -, proves⟩ := verifies.own
  obtain ⟨data, belongs, inPlace⟩ := proves.user
  have presented := proves.presented
  rw [native] at belongs presented
  exact ⟨presentation, row, data, known, belongs, inPlace sampleEvents_inOrder, presented⟩

end Web3Id
