import Web3Id.Construction.Deployment
import Web3Id.Proof.Issuer.DiscordSessions
import Web3Id.Proof.Issuer.TelegramAuthentication
import Web3Id.Proof.SomeVerifier.IdentityBinding

namespace Web3Id

open Library Library.Gateway
open SomeVerifier (Platform PlatformRow)

/-- The platform has authenticated a user with this id and this name. -/
def Deployment.Authenticated (config : Configuration) (self : Deployment) (platform : Platform)
    (id username : String) : Prop :=
  match platform with
  | .telegram => ∃ user : SomeIssuer.User,
      (∃ token ∈ config.telegramBotTokens, user.Authentic config.digests token) ∧
        id = toString user.id ∧ user.username = some username
  | .discord => ∃ user, self.discord.front.Vouches config.parser config.oauth user ∧
      id = user.id ∧ username = user.storedUsername

/-- The row belongs to a request that the issuer has registered for an authenticated user. -/
structure Deployment.BelongsTo (config : Configuration) (deployment : Deployment)
    (platform : Platform) (row : PlatformRow) (data : SomeIssuer.IssueChannelData) : Prop where
  registered : deployment.Registered platform data
  authenticated : deployment.Authenticated config platform data.userId data.username
  holder : data.credential.holderId.publicKey = row.credId
  userId : row.id = data.userId ∨ row.id = data.username
  username : row.username = data.userId ∨ row.username = data.username

/-- The row has the id and the name in their places. -/
def InPlace (row : PlatformRow) (data : SomeIssuer.IssueChannelData) : Prop :=
  row.id = data.userId ∧ row.username = data.username

/-- A request to the verifier has the statements of every registry credential in order. -/
def DeploymentEvent.InOrder : DeploymentEvent → Prop
  | .verifier event => ∀ request, event.body = .ok request → SomeVerifier.TagsInOrder request.proof
  | _ => True

namespace SomeIssuer

/-- The job is for an authentic user with a username. -/
def TelegramNames (digests : Digests) (telegramBotTokens : List String) (job : IssueChannelData) :
    Prop :=
  ∃ user : User, (∃ token ∈ telegramBotTokens, user.Authentic digests token) ∧
    job.userId = toString user.id ∧ user.username = some job.username

theorem telegramGateway_authorises (digests : Digests) (telegramBotTokens : List String) :
    (telegramGateway digests telegramBotTokens).Authorises (fun _ => True)
      (fun _ => TelegramNames digests telegramBotTokens) where
  keeps _ _ _ := trivial
  grows _ _ _ _ authorised := authorised
  hands front request job _ handed := by
    simp only [telegramGateway, issueTelegramCredential] at handed
    split at handed
    · cases handed
    · rename_i checked
      split at handed
      · cases handed
      · rename_i username named
        cases handed
        refine ⟨request.telegramUser, ?_, rfl, named⟩
        simpa [User.check_iff] using checked

end SomeIssuer

/-- The services follow their jobs, and every stored row belongs to an authenticated user. -/
structure Deployment.Sound (config : Configuration) (ordered : Prop) (deployment : Deployment) :
    Prop where
  telegram : Guarded (SomeIssuer.channelWorker config.issuerSdk config.capacity)
    (config.issuer .telegram).SameIssuer (fun _ _ => True) (fun _ => True)
    (fun _ => SomeIssuer.TelegramNames config.digests config.telegramBotTokens) deployment.telegram
  discord : Guarded (SomeIssuer.channelWorker config.issuerSdk config.capacity)
    (config.issuer .discord).SameIssuer (fun _ _ => True)
    (SomeIssuer.Discord.Logins.Sound config.parser config.oauth)
    (SomeIssuer.Discord.Logins.Names config.parser config.oauth) deployment.discord
  consistent : deployment.db.Consistent
  rows : ∀ platform, ∀ row ∈ deployment.db.tables.platform platform,
    ∃ data, deployment.BelongsTo config platform row data ∧ (ordered → InPlace row data)

/-- The issuers of a deployment only add to what they have seen. -/
structure Deployment.Grows (config : Configuration) (first second : Deployment) : Prop where
  handed : ∀ platform, ∀ entry ∈ first.handed platform, entry ∈ second.handed platform
  sent : ∀ platform, ∀ sent ∈ first.sent platform, sent ∈ second.sent platform
  replies : ∀ sent ∈ first.discord.front.replies, sent ∈ second.discord.front.replies

variable {config : Configuration} {deployment : Deployment} {ordered : Prop}

theorem Deployment.start_sound (config : Configuration) (ordered : Prop) :
    (Deployment.start config).Sound config ordered where
  telegram := .start trivial (.refl _)
  discord := .start (SomeIssuer.Discord.Logins.start_sound _ _) (.refl _)
  consistent := SomeVerifier.Db.empty_consistent
  rows platform row present := by
    cases platform <;> cases present

theorem Deployment.BelongsTo.mono {first second : Deployment} (grows : first.Grows config second)
    {platform : Platform} {row : PlatformRow} {data : SomeIssuer.IssueChannelData}
    (belongs : first.BelongsTo config platform row data) :
    second.BelongsTo config platform row data where
  registered := by
    obtain ⟨client, handed, sent, listed, rest⟩ := belongs.registered
    exact ⟨client, grows.handed platform _ handed, sent, grows.sent platform _ listed, rest⟩
  authenticated := by
    have before := belongs.authenticated
    cases platform with
    | telegram => exact before
    | discord =>
        obtain ⟨user, vouches, same⟩ := before
        exact ⟨user, vouches.mono grows.replies, same⟩
  holder := belongs.holder
  userId := belongs.userId
  username := belongs.username

/-- The database has no part in what the issuers have registered. -/
theorem Deployment.BelongsTo.withDb {platform : Platform} {row : PlatformRow}
    {data : SomeIssuer.IssueChannelData} (belongs : deployment.BelongsTo config platform row data)
    (db : SomeVerifier.Db) :
    Deployment.BelongsTo config { deployment with db := db } platform row data := by
  have grows : deployment.Grows config { deployment with db := db } :=
    ⟨fun _ _ => id, fun _ _ => id, fun _ => id⟩
  exact belongs.mono grows

/-- A registered request was handed over for an authenticated user. -/
theorem Deployment.Sound.authenticated (sound : deployment.Sound config ordered)
    {platform : Platform} {data : SomeIssuer.IssueChannelData}
    (registered : deployment.Registered platform data) :
    deployment.Authenticated config platform data.userId data.username := by
  obtain ⟨client, handed, -⟩ := registered
  cases platform with
  | telegram =>
      obtain ⟨user, authentic, userId, username⟩ := sound.telegram.jobs _ handed
      exact ⟨user, authentic, userId, username⟩
  | discord =>
      obtain ⟨user, vouches, userId, username⟩ := sound.discord.jobs _ handed
      exact ⟨user, vouches, userId, username⟩

/-- A credential that an issuer has answered is registered for its holder, with the attributes of
the request. -/
theorem Deployment.Sound.issued (sound : deployment.Sound config ordered) {platform : Platform}
    {credential : SomeIssuer.Web3IdCredential} (issued : deployment.Issued platform credential) :
    ∃ data, deployment.Registered platform data ∧
      data.credential.holderId = credential.holderId ∧
      credential.values = SomeIssuer.attributes data.userId data.username := by
  obtain ⟨client, txHash, got⟩ := issued
  cases platform with
  | telegram =>
      obtain ⟨data, call, handed, made, submits, calls⟩ :=
        SomeIssuer.issued_of_traced sound.telegram.system got
      have sent := Worker.System.mem_callsOf.mp (calls ▸ List.mem_singleton.mpr rfl)
      exact ⟨data, ⟨client, handed, _, sent, rfl, submits.credential, rfl⟩, made.holder.symm,
        made.values⟩
  | discord =>
      obtain ⟨data, call, handed, made, submits, calls⟩ :=
        SomeIssuer.issued_of_traced sound.discord.system got
      have sent := Worker.System.mem_callsOf.mp (calls ▸ List.mem_singleton.mpr rfl)
      exact ⟨data, ⟨client, handed, _, sent, rfl, submits.credential, rfl⟩, made.holder.symm,
        made.values⟩

/-- The proofs reveal the attributes of one request only. -/
def RevealsOnly (proofs : List (StatementWithProof String)) (data : SomeIssuer.IssueChannelData) :
    Prop :=
  ∀ statement value proof, (statement, .revealAttribute value proof) ∈ proofs →
    ∃ tag, statement = .revealAttribute tag ∧
      (tag, value) ∈ SomeIssuer.attributes data.userId data.username

/-- A value that the proofs reveal for a tag is the value of this tag. -/
theorem RevealsOnly.tagged {proofs : List (StatementWithProof String)}
    {data : SomeIssuer.IssueChannelData} (only : RevealsOnly proofs data) {tag value : String}
    (reveals : SomeVerifier.Reveals proofs tag value) :
    (tag = "userId" ∧ value = data.userId) ∨ (tag = "username" ∧ value = data.username) := by
  obtain ⟨proof, listed⟩ := reveals
  obtain ⟨other, same, held⟩ := only _ _ _ listed
  cases same
  simpa [SomeIssuer.attributes] using held

/-- The two values that a credential reveals are the id and the name of its user. -/
theorem RevealsOnly.values {proofs : List (StatementWithProof String)}
    {data : SomeIssuer.IssueChannelData} (only : RevealsOnly proofs data) {id username : String}
    (revealed : SomeVerifier.AppState.platformAttributes proofs = some (id, username)) :
    (id = data.userId ∨ id = data.username) ∧
      (username = data.userId ∨ username = data.username) := by
  have each : ∀ statement value proof,
      (statement, .revealAttribute (.string value) proof) ∈ proofs →
      value = data.userId ∨ value = data.username := by
    intro statement value proof listed
    obtain ⟨tag, -, held⟩ := only _ _ _ listed
    have pair : tag = "userId" ∧ value = data.userId ∨
        tag = "username" ∧ value = data.username := by
      simpa [SomeIssuer.attributes] using held
    exact pair.imp And.right And.right
  unfold SomeVerifier.AppState.platformAttributes at revealed
  split at revealed
  · cases revealed
    exact ⟨each _ _ _ List.mem_cons_self, each _ _ _ (List.mem_cons_of_mem _ List.mem_cons_self)⟩
  · cases revealed

/-- Statements in order reveal the id and the name in their places. -/
theorem RevealsOnly.inPlace {proofs : List (StatementWithProof String)}
    {data : SomeIssuer.IssueChannelData} (only : RevealsOnly proofs data) {id username : String}
    (revealed : SomeVerifier.AppState.platformAttributes proofs = some (id, username))
    (tagged : SomeVerifier.Tagged proofs) : id = data.userId ∧ username = data.username := by
  obtain ⟨userId, name⟩ := (SomeVerifier.tagged_iff revealed).mp tagged
  have first : id = data.userId := by
    rcases only.tagged userId with ⟨-, same⟩ | ⟨other, -⟩
    · exact same
    · exact absurd other (by decide)
  have second : username = data.username := by
    rcases only.tagged name with ⟨other, -⟩ | ⟨-, same⟩
    · exact absurd other (by decide)
    · exact same
  exact ⟨first, second⟩

/-- An element of the first list has its partner in the second one. -/
theorem exists_mem_zip {A B : Type} {related : A → B → Prop} {first : List A} {second : List B}
    (all : List.Forall₂ related first second) {element : A} (member : element ∈ first) :
    ∃ partner, (element, partner) ∈ first.zip second ∧ related element partner := by
  induction all with
  | nil => cases member
  | cons head _ ih =>
      rcases List.mem_cons.mp member with rfl | later
      · exact ⟨_, List.mem_cons_self, head⟩
      · obtain ⟨partner, listed, related⟩ := ih later
        exact ⟨partner, List.mem_cons_of_mem _ listed, related⟩

/-- What a credential of a registry reveals is registered for its holder. -/
theorem Deployment.Sound.registered (sound : deployment.Sound config ordered)
    {presentation : Presentation} {publicData : List CredentialWithMetadata}
    (unforged : deployment.Unforged config presentation publicData) {platform : Platform}
    {created : DateTime} {holder : CredentialHolderId} {network : Network} {types : List String}
    {commitments : Bytes} {proofs : List (StatementWithProof String)}
    (listed : .web3Id created holder network (config.issuer platform).contract types commitments
      proofs ∈ presentation.verifiableCredential) :
    ∃ data, deployment.Registered platform data ∧ data.credential.holderId = holder ∧
      RevealsOnly proofs data := by
  obtain ⟨entry, paired, names⟩ := exists_mem_zip unforged.keys listed
  obtain ⟨credential, issued, rfl, reveals⟩ := unforged.signed platform created holder network
    types commitments proofs entry paired (names _ _ _ _ _ _ _ rfl)
  obtain ⟨data, registered, same, values⟩ := sound.issued issued
  refine ⟨data, registered, same, ?_⟩
  rw [values] at reveals
  exact reveals

/-- Requests to the issuers leave every row with its user. -/
theorem Deployment.Sound.rows_mono {second : Deployment} (sound : deployment.Sound config ordered)
    (grows : deployment.Grows config second) (same : second.db = deployment.db) :
    ∀ platform, ∀ row ∈ second.db.tables.platform platform,
      ∃ data, second.BelongsTo config platform row data ∧ (ordered → InPlace row data) := by
  intro platform row present
  rw [same] at present
  obtain ⟨data, belongs, inPlace⟩ := sound.rows platform row present
  exact ⟨data, belongs.mono grows, inPlace⟩

/-- A row of an accepted request belongs to the user of its credential. -/
theorem Deployment.Sound.slot (sound : deployment.Sound config ordered)
    {presentation : Presentation} {publicData : List CredentialWithMetadata}
    (unforged : deployment.Unforged config presentation publicData)
    (inOrder : ordered → SomeVerifier.TagsInOrder presentation)
    {entry : SomeVerifier.VerificationsEntry}
    (entered : config.verifier.proofsToEntry config.verifierSdk presentation = .ok entry)
    {platform : Platform} {slot : SomeVerifier.PlatformEntry}
    (filled : entry.platformEntry platform = some slot) (id : Nat) :
    ∃ data, deployment.BelongsTo config platform (slot.row id) data ∧
      (ordered → InPlace (slot.row id) data) := by
  have empty : (SomeVerifier.VerificationsEntry.fromPresentation config.verifierSdk
      presentation).platformEntry platform = none := by
    cases platform <;> rfl
  obtain ⟨before, credential, after, split, shown, -⟩ :=
    SomeVerifier.AppState.filled_shows
      (SomeVerifier.AppState.proofsToEntry_execution entered) empty filled
  have listed : credential ∈ presentation.verifiableCredential := by
    rw [split]
    exact List.mem_append_right _ List.mem_cons_self
  cases shown with
  | web3Id routed revealed =>
      cases SomeVerifier.AppState.getPlatformForContract_registry routed
      rw [config.registries] at listed
      obtain ⟨data, registered, holder, only⟩ := sound.registered unforged listed
      obtain ⟨first, second⟩ := only.values revealed
      refine ⟨data, ⟨registered, sound.authenticated registered, ?_, first, second⟩, ?_⟩
      · exact congrArg CredentialHolderId.publicKey holder
      · intro all
        exact only.inPlace revealed (inOrder all _ _ _ _ _ _ _ listed)

/-- Every step of the deployment keeps its rows with their users. -/
theorem Deployment.Sound.step {second : Deployment} {event : DeploymentEvent}
    (sound : deployment.Sound config ordered) (inOrder : ordered → event.InOrder)
    (step : deployment.Step config event second) : second.Sound config ordered := by
  cases step with
  | telegram event =>
      have moved := deployment.telegram.step_grows
        (SomeIssuer.telegramGateway config.digests config.telegramBotTokens)
        (SomeIssuer.channelWorker config.issuerSdk config.capacity) event
      refine { sound with telegram := ?_, rows := sound.rows_mono ⟨?_, ?_, fun _ => id⟩ rfl }
      · exact sound.telegram.step (SomeIssuer.telegramGateway_authorises _ _)
          (SomeIssuer.channelWorker_keeps _ _ _) event fun _ _ _ _ _ => trivial
      · intro platform
        cases platform with
        | telegram => exact moved.handed
        | discord => exact fun _ => id
      · intro platform
        cases platform with
        | telegram => exact moved.sent
        | discord => exact fun _ => id
  | discord event =>
      have moved := deployment.discord.step_grows
        (SomeIssuer.Discord.gateway config.parser config.oauth)
        (SomeIssuer.channelWorker config.issuerSdk config.capacity) event
      refine { sound with discord := ?_, rows := sound.rows_mono ⟨?_, ?_, ?_⟩ rfl }
      · exact sound.discord.step (SomeIssuer.Discord.gateway_authorises _ _)
          (SomeIssuer.channelWorker_keeps _ _ _) event fun _ _ _ _ _ => trivial
      · intro platform
        cases platform with
        | telegram => exact fun _ => id
        | discord => exact moved.handed
      · intro platform
        cases platform with
        | telegram => exact fun _ => id
        | discord => exact moved.sent
      · rcases moved.front with same | ⟨request, stepped⟩
        · exact fun sent member => same ▸ member
        · intro sent member
          change sent ∈ (deployment.discord.step _ _ event).front.replies
          rw [stepped]
          exact SomeIssuer.Discord.Logins.step_replies _ _ _ request sent member
  | @verifier event unforged =>
      have outcome := config.verifier.serve_outcome config.verifierSdk sound.consistent event
      refine { sound with consistent := outcome.consistent sound.consistent, rows := ?_ }
      intro platform row present
      change row ∈ (config.verifier.serve config.verifierSdk deployment.db event).2.tables.platform
        platform at present
      suffices ∃ data, deployment.BelongsTo config platform row data ∧
          (ordered → InPlace row data) by
        obtain ⟨data, belongs, inPlace⟩ := this
        exact ⟨data, belongs.withDb _, inPlace⟩
      generalize config.verifier.serve config.verifierSdk deployment.db event = result
        at outcome present
      cases outcome with
      | refused _ _ tables _ =>
          rw [tables] at present
          exact sound.rows platform row present
      | removed =>
          exact sound.rows platform row (SomeVerifier.Tables.mem_erase_platform.mp present).1
      | @created request verified entry _ _ _ passes enough entered free =>
          rcases SomeVerifier.Tables.mem_withEntry_platform.mp present with before | added
          · exact sound.rows platform row (SomeVerifier.Tables.mem_erase_platform.mp before).1
          · obtain ⟨slot, filled, rfl⟩ := added
            obtain ⟨publicData, accepts⟩ := passes.accepts
            exact sound.slot (unforged request publicData passes.body accepts)
              (fun all => inOrder all request passes.body) entered filled _

theorem Deployment.Sound.run {first last : Deployment} {events : List DeploymentEvent}
    (run : Execution (Deployment.Step config) first events last)
    (inOrder : ordered → ∀ event ∈ events, event.InOrder) (sound : first.Sound config ordered) :
    last.Sound config ordered :=
  run.invariant_of (fun event => ordered → event.InOrder)
    (fun _ _ _ inOrder sound head => sound.step inOrder head)
    (fun event member all => inOrder all event member) sound

/-- In every interleaving of both issuers and the verifier, every account that the verifier stores
is the one of a user whom its platform has authenticated, and for whom the issuer has registered the
stored key; with all statements in order, its id and name are in their places. -/
theorem someVerifier_storedAccounts {config : Configuration} {events : List DeploymentEvent}
    {deployment : Deployment}
    (run : Execution (Deployment.Step config) (.start config) events deployment)
    (platform : Platform) (row : PlatformRow)
    (stored : row ∈ deployment.db.tables.platform platform) :
    ∃ data, deployment.BelongsTo config platform row data ∧
      ((∀ event ∈ events, event.InOrder) → InPlace row data) := by
  have sound := Deployment.Sound.run run id
    (Deployment.start_sound config (∀ event ∈ events, event.InOrder))
  exact sound.rows platform row stored

/-- The sample user logs in with a code that the digests accept. -/
def sampleUser : SomeIssuer.User := ⟨42, "First", none, some "43", none, 0, ""⟩

def sampleConfiguration : Configuration where
  digests := ⟨fun _ => [], fun _ _ => []⟩
  telegramBotTokens := ["token"]
  parser := ⟨fun _ => .error ⟨""⟩, fun _ => .error ⟨""⟩⟩
  oauth := ⟨⟨⟨fun _ => none⟩, "", ""⟩, "", "", ""⟩
  issuerSdk := SomeIssuer.sampleSdk
  capacity := 100
  issuer platform :=
    { SomeIssuer.sampleWorker with
      contract := SomeVerifier.sampleState.registry platform
      issuerPublicKey := 9
      state := .new 5 10 1 }
  verifierSdk := SomeVerifier.sampleSdk
    (SomeVerifier.samplePresentation (SomeVerifier.sampleProofs "userId" "username"))
  verifier := SomeVerifier.sampleState
  registries _ := rfl

/-- The Telegram issuer registers a credential for the sample user. -/
def sampleRequests : List (SomeIssuer.IssuerEvent SomeIssuer.TelegramIssueRequest) :=
  [.request 0 ⟨SomeIssuer.sampleData.credential, sampleUser⟩, .worker (.enqueue 0),
    .worker (.dequeue SomeIssuer.sampleReading), .worker (.reply (.ok ⟨9⟩))]

/-- The requests reach the Telegram issuer one after the other. -/
def Deployment.afterTelegram (config : Configuration) (deployment : Deployment)
    (events : List (SomeIssuer.IssuerEvent SomeIssuer.TelegramIssueRequest)) : Deployment :=
  { deployment with
    telegram := deployment.telegram.run
      (SomeIssuer.telegramGateway config.digests config.telegramBotTokens)
      (SomeIssuer.channelWorker config.issuerSdk config.capacity) events }

theorem Deployment.afterTelegram_run (config : Configuration) (deployment : Deployment)
    (events : List (SomeIssuer.IssuerEvent SomeIssuer.TelegramIssueRequest)) :
    Execution (Deployment.Step config) deployment (events.map DeploymentEvent.telegram)
      (deployment.afterTelegram config events) := by
  induction events generalizing deployment with
  | nil => exact .done deployment
  | cons event events ih => exact .next (.telegram deployment event) (ih _)

def sampleIssued : Deployment :=
  (Deployment.start sampleConfiguration).afterTelegram sampleConfiguration sampleRequests

/-- The sample issuer has answered with a credential for the sample user. -/
theorem sampleIssued_issued : ∃ credential, sampleIssued.Issued .telegram credential ∧
    credential.holderId = ⟨7⟩ ∧ credential.values = SomeIssuer.attributes "42" "43" :=
  ⟨_, ⟨0, ⟨9⟩, rfl⟩, rfl, rfl⟩

/-- The sample presentation reveals what the Telegram issuer has signed. -/
theorem sampleIssued_unforged : sampleIssued.Unforged sampleConfiguration
    (SomeVerifier.samplePresentation (SomeVerifier.sampleProofs "userId" "username"))
    [⟨.web3 9, .active⟩, ⟨.web3 9, .active⟩] where
  keys := by
    refine .cons ?_ (.cons ?_ .nil)
    · exact fun _ _ _ _ _ _ _ _ => rfl
    · exact fun _ _ _ _ _ _ _ _ => rfl
  signed := by
    intro platform created holder network types commitments proofs entry paired _
    rcases List.mem_cons.mp paired with same | other
    · cases platform with
      | telegram =>
          cases same
          obtain ⟨credential, issued, holds, values⟩ := sampleIssued_issued
          refine ⟨credential, issued, holds, ?_⟩
          intro statement value proof revealed
          rw [values]
          rcases List.mem_cons.mp revealed with first | rest
          · cases first
            exact ⟨"userId", rfl, List.mem_cons_self⟩
          · cases List.mem_singleton.mp rest
            exact ⟨"username", rfl, List.mem_cons_of_mem _ List.mem_cons_self⟩
      | discord => cases same
    · cases List.mem_singleton.mp other

/-- The sample requests have their statements in order. -/
theorem sampleEvents_inOrder :
    ∀ event ∈ sampleRequests.map DeploymentEvent.telegram ++
      [.verifier (SomeVerifier.samplePost "userId" "username")], event.InOrder := by
  intro event member
  rcases List.mem_append.mp member with telegram | verifier
  · obtain ⟨request, -, rfl⟩ := List.mem_map.mp telegram
    trivial
  · cases List.mem_singleton.mp verifier
    rintro request ⟨⟩ created holder network contract types commitments proofs listed
    rcases List.mem_cons.mp listed with same | other
    · cases same
      exact .inl ⟨rfl, rfl⟩
    · simp at other

/-- The sample user adds a verification after the Telegram issuer has registered the credential. -/
def sampleServed : Deployment :=
  { sampleIssued with
    db := (sampleConfiguration.verifier.serve sampleConfiguration.verifierSdk sampleIssued.db
      (SomeVerifier.samplePost "userId" "username")).2 }

theorem sampleServed_run : Execution (Deployment.Step sampleConfiguration)
    (.start sampleConfiguration) (sampleRequests.map DeploymentEvent.telegram ++
      [.verifier (SomeVerifier.samplePost "userId" "username")]) sampleServed := by
  have posted : ∀ request publicData,
      (SomeVerifier.samplePost "userId" "username").body = .ok request →
      sampleConfiguration.verifier.Accepts sampleConfiguration.verifierSdk
        (SomeVerifier.samplePost "userId" "username") request.proof publicData →
      sampleIssued.Unforged sampleConfiguration request.proof publicData := by
    rintro request publicData ⟨⟩ ⟨⟨⟩, -⟩
    exact sampleIssued_unforged
  exact (Deployment.afterTelegram_run sampleConfiguration (.start sampleConfiguration)
    sampleRequests).append (.single (.verifier posted))

/-- The stored account belongs to the sample user, under its own id and name. -/
theorem someVerifier_storedAccounts_sample : ∃ data,
    sampleServed.BelongsTo sampleConfiguration .telegram ⟨"42", 7, some 1, "43"⟩ data ∧
      InPlace ⟨"42", 7, some 1, "43"⟩ data := by
  obtain ⟨data, belongs, inPlace⟩ := someVerifier_storedAccounts sampleServed_run .telegram
    ⟨"42", 7, some 1, "43"⟩ (List.mem_singleton.mpr rfl)
  exact ⟨data, belongs, inPlace sampleEvents_inOrder⟩

end Web3Id
