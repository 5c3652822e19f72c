import Web3Id.Construction.Issuer.TelegramApp
import Web3Id.Proof.Issuer.OwnResponse
import Web3Id.Proof.Issuer.TelegramAuthentication

namespace Web3Id.SomeIssuer

open Library Library.Worker Library.Gateway

/-- The issuer signs the commitments of a credential to its values. -/
theorem IssuerWorker.makeSecrets_signed {sdk : Sdk} {worker : IssuerWorker}
    {randomness : String → Bytes} {values : List (String × Web3IdAttribute)}
    {info : CredentialInfo} {credential : Web3IdCredential}
    (made : worker.makeSecrets sdk randomness values info = .ok credential) :
    sdk.fromSecrets worker.cryptoParams values credential.randomness info.holderId
      worker.issuerKey worker.contract = some credential.signature := by
  simp only [IssuerWorker.makeSecrets] at made
  split at made
  · cases made
  · rename_i signature signs
    split at made
    · cases made
    · cases made
      exact signs

/-- A valid credential starts within a minute of the clock of the issuer. -/
theorem validateCredential_near {worker : IssuerWorker} {now : Int64} {info : CredentialInfo}
    (valid : worker.validateCredential now info = .ok ()) :
    (Timestamp.durationBetween ⟨now.toUInt64⟩ info.validFrom).millis <
      (Duration.fromMinutes 1).millis := by
  simp only [IssuerWorker.validateCredential] at valid
  split at valid
  · cases valid
  · split at valid
    · cases valid
    · rename_i near
      simpa using near

/-- An iteration that issues a credential has checked its request, and the node has accepted its
transaction. -/
theorem txSender_issues {sdk : Sdk} {worker other : IssuerWorker} (same : worker.SameIssuer other)
    {reading : Reading} {data : IssueChannelData} {trace : List (RegisterCall × RegisterReply)}
    {after : IssuerWorker} {response : IssueResponse} {continues : Bool}
    (leaves : Program.Leaves (other.txSender sdk reading data) trace
      (.pure (after, .ok response, continues))) :
    worker.validateCredential reading.now data.credential = .ok () ∧
      (∃ call, trace = [(call, .ok response.txHash)] ∧ call.credential = data.credential) ∧
      sdk.fromSecrets worker.cryptoParams (attributes data.userId data.username)
        response.credential.randomness data.credential.holderId worker.issuerKey worker.contract =
          some response.credential.signature := by
  obtain ⟨state, rfl⟩ := same.eq
  have turn := txSender_turn sdk { worker with state := state } reading data
  generalize ({ worker with state := state } : IssuerWorker).txSender sdk reading data = program
    at leaves turn
  cases turn with
  | invalid fails =>
      obtain ⟨-, same⟩ := leaves.of_pure
      cases same
  | limited valid full =>
      obtain ⟨-, same⟩ := leaves.of_pure
      cases same
  | submitted valid room =>
      rcases leaves.of_call with ⟨-, same⟩ | ⟨reply, later, rfl, ends⟩
      · cases same
      · obtain ⟨rfl, same⟩ := ends.of_pure
        cases reply with
        | error error => cases same
        | ok txHash =>
            have answer := congrArg (fun result => result.2.1) (Program.pure.inj same)
            simp only [IssuerWorker.resume, IssuerWorker.respond] at answer
            split at answer
            · rename_i credential made
              cases answer
              exact ⟨valid, ⟨_, rfl, rfl⟩, IssuerWorker.makeSecrets_signed made⟩
            · cases answer

/-- The issuer hands on the request of an authentic user with a username. -/
theorem issueTelegramCredential_hands {digests : Digests} {telegramBotTokens : List String}
    {request : TelegramIssueRequest} {job : IssueChannelData}
    (hands : (issueTelegramCredential digests telegramBotTokens request).firstCall = some job) :
    (∃ token ∈ telegramBotTokens, request.telegramUser.Authentic digests token) ∧
      ∃ username, request.telegramUser.username = some username ∧
        job = ⟨request.credential, toString request.telegramUser.id, username⟩ := by
  simp only [issueTelegramCredential] at hands
  split at hands
  · cases hands
  · rename_i checked
    split at hands
    · cases hands
    · rename_i username named
      refine ⟨by simpa [User.check_iff] using checked, username, named, ?_⟩
      exact (Option.some.inj hands).symm

namespace Telegram

/-- The page sends its request for a job. -/
def Host.Hands (host : Host) (request : PlatformRequest) (post : Post) (job : IssueChannelData) :
    Prop :=
  ∃ body, host.formats.telegramIssueRequest
      (host.config.issueRequest request post.id (host.formats.toISOString post.now)) = some body ∧
    (issueTelegramCredential host.digests host.telegramBotTokens body).firstCall = some job

/-- In a run of the page, the worker takes the request of a connection with this reading. -/
def Host.Takes (host : Host) (alone : Prop) (events : List BrowserEvent) (client : Nat)
    (reading : Reading) : Prop :=
  ∃ before move after browser, events = before ++ .service (.worker move) :: after ∧
    Execution (Browser.Step host alone) (.start host.worker) before browser ∧
    browser.service.system.Takes move client reading

/-- The issuer has authenticated the user of a credential, has registered its holder within a minute
of the date at which the worker has taken the request, and has signed its attributes. -/
structure Host.Backs (host : Host) (reads : Nat → Reading → Prop) (service : IssuerService Unit)
    (entry : WalletCredential) (user : User) (holder : CredentialHolderId) (call : RegisterCall)
    (txHash : TransactionHash) : Prop where
  authentic : ∃ token ∈ host.telegramBotTokens, user.Authentic host.digests token
  attributes : ∃ username, user.username = some username ∧
    entry.credential.attributes = [("userId", toString user.id), ("username", username)]
  holderId : host.formats.holderId (holderPart entry.post.id) = some holder
  registered : (⟨entry.post.client, call, .ok txHash⟩ : Sent RegisterCall RegisterReply) ∈
    service.system.sent
  credential : ∃ validFrom,
    host.formats.timestamp (host.formats.toISOString entry.post.now) = some validFrom ∧
      call.credential = ⟨holder, true, validFrom, none, ⟨host.config.metadataUrl, none⟩⟩
  onTime : ∃ reading, reads entry.post.client reading ∧
    (Timestamp.durationBetween ⟨reading.now.toUInt64⟩ call.credential.validFrom).millis <
      (Duration.fromMinutes 1).millis
  signed : host.sdk.fromSecrets host.worker.cryptoParams
    (entry.credential.attributes.map fun value => (value.1, .string value.2)) entry.randomness
    holder host.worker.issuerKey host.worker.contract = some entry.signature

variable {host : Host} {reads : Nat → Reading → Prop} {service : IssuerService Unit}

/-- What the service adds keeps a credential backed. -/
theorem Host.Backs.mono {more : IssuerService Unit} {entry : WalletCredential} {user : User}
    {holder : CredentialHolderId} {call : RegisterCall} {txHash : TransactionHash}
    (backs : host.Backs reads service entry user holder call txHash)
    (grows : ∀ sent ∈ service.system.sent, sent ∈ more.system.sent) :
    host.Backs reads more entry user holder call txHash :=
  { backs with registered := grows _ backs.registered }

/-- The job of a request has the user, the holder, and the date of the page. -/
theorem Host.Hands.job {request : PlatformRequest} {post : Post} {job : IssueChannelData}
    (hands : host.Hands request post job) :
    ∃ (user : User) (holder : CredentialHolderId) (validFrom : Timestamp) (username : String),
      (∃ token ∈ host.telegramBotTokens, user.Authentic host.digests token) ∧
      user.username = some username ∧ request.id = toString user.id ∧
      request.username = username ∧ host.formats.holderId (holderPart post.id) = some holder ∧
      host.formats.timestamp (host.formats.toISOString post.now) = some validFrom ∧
      job = ⟨⟨holder, true, validFrom, none, ⟨host.config.metadataUrl, none⟩⟩,
        toString user.id, username⟩ := by
  obtain ⟨body, reads, first⟩ := hands
  simp only [Formats.telegramIssueRequest, Config.issueRequest, bind, Option.bind_eq_some_iff]
    at reads
  obtain ⟨holder, readsHolder, validFrom, readsDate, user, given, made⟩ := reads
  cases made
  obtain ⟨authentic, username, named, rfl⟩ := issueTelegramCredential_hands first
  cases request with
  | discord id username => cases given
  | telegram login shown =>
      cases given
      cases named
      exact ⟨_, holder, validFrom, _, authentic, rfl, rfl, rfl, readsHolder, readsDate, rfl⟩

/-- The jobs of the requests of a service, whatever they are. -/
theorem telegramGateway_any (digests : Digests) (telegramBotTokens : List String) :
    (telegramGateway digests telegramBotTokens).Authorises (fun _ => True) fun _ _ => True :=
  ⟨fun _ _ _ => trivial, fun _ _ _ _ _ => trivial, fun _ _ _ _ _ => trivial⟩

/-- The worker follows every job. -/
def Host.Follows (host : Host) (reads : Nat → Reading → Prop) (service : IssuerService Unit) :
    Prop :=
  Guarded (channelWorker host.sdk host.capacity) host.worker.SameIssuer reads (fun _ => True)
    (fun _ _ => True) service

theorem Host.Follows.serve (follows : host.Follows reads service)
    (event : IssuerEvent TelegramIssueRequest)
    (takes : ∀ move, event = .worker move → ∀ client reading,
      service.system.Takes move client reading → reads client reading) :
    host.Follows reads (host.serve service event) :=
  Guarded.step (telegramGateway_any _ _) (channelWorker_keeps host.sdk host.capacity host.worker)
    follows event takes

/-- The answer to a request of the page backs its credential. -/
theorem Host.Follows.backs (follows : host.Follows reads service) {request : PlatformRequest}
    {post : Post} {date : String} {response : IssueResponse}
    (own : ∀ job, (post.client, job) ∈ service.handed → host.Hands request post job)
    (answered : service.system.clients post.client = some (.returned (.ok response))) :
    ∃ user holder call, host.Backs reads service
      ⟨post, host.config.credential date request, response.credential.signature,
        response.credential.randomness⟩ user holder call response.txHash := by
  have got : Client.answer (service.system.clients post.client) = some (.ok response) := by
    rw [answered]
    rfl
  obtain ⟨-, after, continues, data, state, reading, handed, taken, same, leaves⟩ :=
    follows.system.answered post.client _ got
  obtain ⟨valid, ⟨call, calls, registers⟩, signed⟩ := txSender_issues same leaves
  obtain ⟨user, holder, validFrom, username, authentic, named, id, shown, readsHolder, readsDate,
    rfl⟩ := (own data handed).job
  refine ⟨user, holder, call, {
    authentic := authentic
    attributes := ⟨username, named, ?_⟩
    holderId := readsHolder
    registered := ?_
    credential := ⟨validFrom, readsDate, registers⟩
    onTime := ⟨reading, taken, by rw [registers]; exact validateCredential_near valid⟩
    signed := ?_ }⟩
  · rw [Config.credential_attributes, id, shown]
  · exact System.mem_callsOf.mp (calls ▸ List.mem_singleton.mpr rfl)
  · rw [Config.credential_attributes, id, shown]
    exact signed

/-- The wallet has not added the credential of this connection yet. -/
def Stage.pending : Stage → Option Post
  | .fetching post | .proving post _ => some post
  | _ => none

theorem Stage.pending_post {stage : Stage} {post : Post} (pending : stage.pending = some post) :
    stage.post = some post := by
  cases stage <;> first | exact pending | cases pending

/-- What a step can do to the page, its wallet, and its service. -/
inductive Browser.Moves (host : Host) (alone : Prop) (self : Browser) (happened : BrowserEvent) :
    Browser → Prop
  | idle : Moves host alone self happened self
  | alert (message : String) :
      Moves host alone self happened { self with app := self.app.alert message }
  | login (date : String) (request : PlatformRequest) :
      Moves host alone self happened { self with
        app := { self.app with
          attempts := self.app.attempts ++
            [⟨request, host.config.credential date request, .connecting⟩] } }
  | fail {index : Nat} {attempt : Attempt} (got : self.app.attempts[index]? = some attempt)
      (message : String) : Moves host alone self happened (self.fail index attempt message)
  | goOn {index : Nat} {request : PlatformRequest} {credential : Credential} {stage next : Stage}
      (got : self.app.attempts[index]? = some ⟨request, credential, stage⟩)
      (post : next.post = stage.post) (pending : next.pending = none)
      (awaits : next.awaits = stage.awaits) :
      Moves host alone self happened (self.set index ⟨request, credential, next⟩)
  | post {index : Nat} {request : PlatformRequest} {credential : Credential} {post : Post}
      (got : self.app.attempts[index]? = some ⟨request, credential, .adding⟩)
      (unused : ¬ self.Uses post.client)
      (unhanded : ∀ job, (post.client, job) ∉ self.service.handed) :
      Moves host alone self happened { self.set index ⟨request, credential, .fetching post⟩ with
        service := host.submit self.service request post }
  | prove {index : Nat} {request : PlatformRequest} {credential : Credential} {post : Post}
      {response : IssueResponse}
      (got : self.app.attempts[index]? = some ⟨request, credential, .fetching post⟩)
      (answered : self.service.system.clients post.client = some (.returned (.ok response))) :
      Moves host alone self happened (self.set index ⟨request, credential, .proving post response⟩)
  | add {index : Nat} {request : PlatformRequest} {credential : Credential} {post : Post}
      {response : IssueResponse}
      (got : self.app.attempts[index]? = some ⟨request, credential, .proving post response⟩)
      (single : alone → ∀ attempt ∈ self.app.attempts, attempt.stage.awaits = none) :
      Moves host alone self happened ((self.add post credential response).set index
        ⟨request, credential, .waiting post response⟩)
  | finality {index : Nat} {request : PlatformRequest} {credential : Credential} {post : Post}
      {response : IssueResponse}
      (got : self.app.attempts[index]? = some ⟨request, credential, .waiting post response⟩)
      (final : response.txHash ∈ self.final) :
      Moves host alone self happened (Browser.set
        { self with app := { self.app with txState := self.app.txState.onTransactionFinalized } }
        index ⟨request, credential, .finalized post response⟩)
  | serve {event : IssuerEvent TelegramIssueRequest} (same : happened = .service event)
      (other : ∀ client request, event = .request client request → ¬ self.Uses client) :
      Moves host alone self happened { self with service := host.serve self.service event }
  | finalize (txHash : TransactionHash) :
      Moves host alone self happened { self with final := self.final ++ [txHash] }

/-- Every step that the browser admits is one of these moves. -/
theorem Browser.step_moves (host : Host) {alone : Prop} {self : Browser} {event : BrowserEvent}
    (admits : self.Admits alone event) :
    Browser.Moves host alone self event (self.step host event) := by
  cases admits with
  | onTelegramAuth user now =>
      simp only [Browser.step]
      split
      · exact .alert _
      · exact .login _ _
  | connect index reply =>
      simp only [Browser.step]
      split
      · rename_i got
        split
        · exact .fail got _
        · exact .goOn got rfl rfl rfl
      · exact .idle
  | @post _ client id now unused unhanded =>
      simp only [Browser.step]
      split
      · rename_i got
        exact .post got unused unhanded
      · exact .idle
  | response index =>
      simp only [Browser.step]
      split
      · rename_i got
        split
        · rename_i answered
          exact .prove got answered
        · exact .fail got _
        · exact .idle
      · exact .idle
  | refusal index status text =>
      simp only [Browser.step]
      split
      · rename_i got
        exact .fail got _
      · exact .idle
  | error index message =>
      simp only [Browser.step]
      split
      · rename_i got
        exact .fail got _
      · rename_i got
        exact .fail got _
      · rename_i got
        exact .fail got _
      · exact .idle
  | added single =>
      simp only [Browser.step]
      split
      · rename_i got
        exact .add got single
      · exact .idle
  | finality final =>
      simp only [Browser.step]
      split
      · rename_i got
        exact .finality got (final _ _ got rfl rfl)
      · rename_i got
        split
        · exact .goOn got rfl rfl rfl
        · exact .fail got _
      · exact .idle
  | slept index =>
      simp only [Browser.step]
      split
      · rename_i got
        exact .goOn got rfl rfl rfl
      · exact .idle
  | service other => exact .serve rfl other
  | finalize txHash => exact .finalize txHash

/-- The connections whose credentials are in the wallet. -/
def Browser.added (self : Browser) : List Nat := self.wallet.map fun entry => entry.post.client

/-- The service hands on the own job of a request only, and its answer backs the credential. -/
structure Attempt.Sound (host : Host) (reads : Nat → Reading → Prop) (service : IssuerService Unit)
    (added : List Nat) (attempt : Attempt) : Prop where
  made : ∃ date, attempt.credential = host.config.credential date attempt.request
  own : ∀ post, attempt.stage.post = some post →
    ∀ job, (post.client, job) ∈ service.handed → host.Hands attempt.request post job
  proven : ∀ post response, attempt.stage = .proving post response →
    ∃ user holder call, host.Backs reads service
      ⟨post, attempt.credential, response.credential.signature, response.credential.randomness⟩
      user holder call response.txHash
  unadded : ∀ post, attempt.stage.pending = some post → post.client ∉ added

/-- Every credential of the wallet is backed, and has a connection of its own. -/
structure Browser.Sound (host : Host) (reads : Nat → Reading → Prop) (browser : Browser) :
    Prop where
  service : host.Follows reads browser.service
  attempts : ∀ attempt ∈ browser.app.attempts,
    attempt.Sound host reads browser.service browser.added
  distinct : ∀ (first second : Nat) (one two : Attempt), browser.app.attempts[first]? = some one →
    browser.app.attempts[second]? = some two → ∀ post other : Post, one.stage.post = some post →
      two.stage.post = some other → post.client = other.client → first = second
  wallet : ∀ entry ∈ browser.wallet, ∃ user holder call txHash,
    host.Backs reads browser.service entry user holder call txHash
  nodup : browser.added.Nodup
  shown : ∀ txHash, browser.app.txState.transaction = some txHash →
    ∃ entry ∈ browser.wallet, ∃ user holder call,
      host.Backs reads browser.service entry user holder call txHash

section Steps

variable {browser : Browser} {attempt : Attempt} {added : List Nat}

theorem Browser.Sound.start (host : Host) : (Browser.start host.worker).Sound host reads where
  service := .start trivial (.refl _)
  attempts := by simp [Browser.start, App.loaded]
  distinct := by simp [Browser.start, App.loaded]
  wallet := by simp [Browser.start]
  nodup := List.nodup_nil
  shown := by simp [Browser.start, App.loaded]

/-- A request that goes on keeps its connection, or gives it up. -/
theorem Attempt.Sound.move (sound : attempt.Sound host reads service added) {stage : Stage}
    (post : ∀ post, stage.post = some post → attempt.stage.post = some post)
    (proven : ∀ post response, stage = .proving post response →
      ∃ user holder call, host.Backs reads service
        ⟨post, attempt.credential, response.credential.signature, response.credential.randomness⟩
        user holder call response.txHash)
    (pending : ∀ post, stage.pending = some post → attempt.stage.pending = some post) :
    Attempt.Sound host reads service added { attempt with stage := stage } where
  made := sound.made
  own given same := sound.own given (post given same)
  proven := proven
  unadded given same := sound.unadded given (pending given same)

/-- A request of another connection leaves the others as they are. -/
theorem Attempt.Sound.serve (sound : attempt.Sound host reads service added)
    {event : IssuerEvent TelegramIssueRequest}
    (other : ∀ client request, event = .request client request →
      ∀ post, attempt.stage.post = some post → post.client ≠ client) :
    attempt.Sound host reads (host.serve service event) added where
  made := sound.made
  own post given job handed := by
    cases event with
    | worker event =>
        simp only [Host.serve, Service.step_worker_handed] at handed
        exact sound.own post given job handed
    | request client request =>
        rcases Service.step_handed handed with before | ⟨same, -⟩
        · exact sound.own post given job before
        · exact absurd same (other client request rfl post given)
  proven post response same := by
    obtain ⟨user, holder, call, backs⟩ := sound.proven post response same
    exact ⟨user, holder, call, backs.mono (Service.step_grows _ _ _ _).sent⟩
  unadded := sound.unadded

/-- Requests of other clients and moves of the worker keep the page sound. -/
theorem Browser.Sound.serve (sound : browser.Sound host reads)
    {event : IssuerEvent TelegramIssueRequest}
    (other : ∀ client request, event = .request client request → ¬ browser.Uses client)
    (takes : ∀ move, event = .worker move → ∀ client reading,
      browser.service.system.Takes move client reading → reads client reading) :
    Browser.Sound host reads { browser with service := host.serve browser.service event } where
  service := sound.service.serve event takes
  attempts attempt member := by
    refine (sound.attempts attempt member).serve ?_
    rintro client request same post given rfl
    exact other _ request same ⟨attempt, member, post, given, rfl⟩
  distinct := sound.distinct
  wallet entry member := by
    obtain ⟨user, holder, call, txHash, backs⟩ := sound.wallet entry member
    exact ⟨user, holder, call, txHash, backs.mono (Service.step_grows _ _ _ _).sent⟩
  nodup := sound.nodup
  shown txHash shows := by
    obtain ⟨entry, member, user, holder, call, backs⟩ := sound.shown txHash shows
    exact ⟨entry, member, user, holder, call, backs.mono (Service.step_grows _ _ _ _).sent⟩

/-- An attempt of the list after a change is the changed one or has been there before. -/
theorem getElem?_set_some {attempts : List Attempt} {index place : Nat} {new : Attempt}
    (got : (attempts.set index new)[place]? = some attempt) :
    place = index ∧ attempt = new ∨ place ≠ index ∧ attempts[place]? = some attempt := by
  rw [List.getElem?_set] at got
  split at got
  · rename_i same
    split at got
    · exact .inl ⟨same.symm, (Option.some.inj got).symm⟩
    · cases got
  · rename_i different
    exact .inr ⟨Ne.symm different, got⟩

/-- A request that has changed keeps the page sound when its connection is not another's. -/
theorem Browser.Sound.set (sound : browser.Sound host reads) {index : Nat} {old new : Attempt}
    (got : browser.app.attempts[index]? = some old)
    (fresh : new.Sound host reads browser.service browser.added)
    (connection : ∀ post, new.stage.post = some post →
      old.stage.post = some post ∨ ¬ browser.Uses post.client) :
    (browser.set index new).Sound host reads := by
  have apart : ∀ place other post given, place ≠ index →
      browser.app.attempts[place]? = some other → other.stage.post = some given →
      new.stage.post = some post → post.client ≠ given.client := by
    intro place other post given different there uses posts same
    rcases connection post posts with before | unused
    · exact different (sound.distinct index place old other got there _ _ before uses same).symm
    · exact unused ⟨other, List.mem_of_getElem? there, given, uses, same.symm⟩
  exact {
    service := sound.service
    attempts := fun attempt member => by
      rcases List.mem_or_eq_of_mem_set member with before | rfl
      · exact sound.attempts attempt before
      · exact fresh
    distinct := by
      intro first second one two atFirst atSecond post other posts others same
      rcases getElem?_set_some atFirst with ⟨rfl, rfl⟩ | ⟨different, before⟩
      · rcases getElem?_set_some atSecond with ⟨rfl, rfl⟩ | ⟨different, there⟩
        · rfl
        · exact absurd same (apart second two post other different there others posts)
      · rcases getElem?_set_some atSecond with ⟨rfl, rfl⟩ | ⟨-, there⟩
        · exact absurd same.symm (apart first one other post different before posts others)
        · exact sound.distinct first second one two before there post other posts others same
    wallet := sound.wallet
    nodup := sound.nodup
    shown := sound.shown }

/-- A request of the service has been handed over when its transaction is sent. -/
theorem Host.Follows.handed (follows : host.Follows reads service)
    {sent : Sent RegisterCall RegisterReply} (member : sent ∈ service.system.sent) :
    ∃ job, (sent.client, job) ∈ service.handed := by
  obtain ⟨rest, job, state, reading, handed, -⟩ :=
    follows.system.served sent.client (follows.system.sent sent member)
  exact ⟨job, handed⟩

/-- A new connection has no credential in the wallet. -/
theorem Browser.Sound.unadded (sound : browser.Sound host reads) {client : Nat}
    (unhanded : ∀ job, (client, job) ∉ browser.service.handed) : client ∉ browser.added := by
  intro member
  obtain ⟨entry, listed, rfl⟩ := List.mem_map.mp member
  obtain ⟨user, holder, call, txHash, backs⟩ := sound.wallet entry listed
  obtain ⟨job, handed⟩ := sound.service.handed backs.registered
  exact unhanded job handed

/-- The page sends its request on a new connection. -/
theorem Browser.Sound.post (sound : browser.Sound host reads) {index : Nat}
    {request : PlatformRequest} {credential : Credential}
    (got : browser.app.attempts[index]? = some ⟨request, credential, .adding⟩) {post : Post}
    (unused : ¬ browser.Uses post.client)
    (unhanded : ∀ job, (post.client, job) ∉ browser.service.handed) :
    Browser.Sound host reads { browser.set index ⟨request, credential, .fetching post⟩ with
      service := host.submit browser.service request post } := by
  have made := (sound.attempts _ (List.mem_of_getElem? got)).made
  have unadded := sound.unadded unhanded
  have pending : ∀ given, (Stage.fetching post).pending = some given →
      given.client ∉ browser.added := by
    rintro given ⟨⟩
    exact unadded
  have connection : ∀ given, (Stage.fetching post).post = some given →
      Stage.adding.post = some given ∨ ¬ browser.Uses given.client := by
    rintro given ⟨⟩
    exact .inr unused
  unfold Host.submit
  split
  · refine sound.set got ⟨made, ?_, by simp, pending⟩ connection
    rintro given ⟨⟩ job handed
    exact absurd handed (unhanded job)
  · rename_i body read
    have served : Browser.Sound host reads { browser with
        service := host.serve browser.service (.request post.client body) } := by
      refine sound.serve ?_ (by simp)
      rintro client request ⟨⟩
      exact unused
    refine served.set got ⟨made, ?_, by simp, pending⟩ connection
    rintro given ⟨⟩ job handed
    rcases Service.step_handed handed with before | ⟨-, hands⟩
    · exact absurd before (unhanded job)
    · exact ⟨body, read, hands⟩

/-- The wallet adds a credential that its answer backs. -/
theorem Browser.Sound.add (sound : browser.Sound host reads) {post : Post} {credential : Credential}
    {response : IssueResponse}
    (backed : ∃ user holder call, host.Backs reads browser.service
      ⟨post, credential, response.credential.signature, response.credential.randomness⟩
      user holder call response.txHash)
    (unadded : post.client ∉ browser.added)
    (free : ∀ attempt ∈ browser.app.attempts, ∀ other, attempt.stage.pending = some other →
      other.client ≠ post.client) : (browser.add post credential response).Sound host reads where
  service := sound.service
  attempts attempt member := by
    refine { sound.attempts attempt member with unadded := ?_ }
    intro other pending listed
    rw [Browser.added, Browser.add, List.map_append] at listed
    rcases List.mem_append.mp listed with before | now
    · exact (sound.attempts attempt member).unadded other pending before
    · exact free attempt member other pending (List.mem_singleton.mp now)
  distinct := sound.distinct
  wallet entry member := by
    rcases List.mem_append.mp member with before | now
    · exact sound.wallet entry before
    · obtain ⟨user, holder, call, backs⟩ := backed
      cases List.mem_singleton.mp now
      exact ⟨user, holder, call, response.txHash, backs⟩
  nodup := by
    rw [Browser.added, Browser.add, List.map_append]
    exact List.nodup_append.mpr ⟨sound.nodup, List.nodup_singleton _, by
      rintro client before _ now rfl
      have same : client = post.client := List.mem_singleton.mp now
      exact unadded (same ▸ before)⟩
  shown txHash shows := by
    obtain ⟨user, holder, call, backs⟩ := backed
    cases shows
    exact ⟨_, List.mem_append_right _ (List.mem_singleton.mpr rfl), user, holder, call, backs⟩

/-- A request goes on with the same connection. -/
theorem Browser.Sound.move (sound : browser.Sound host reads) {index : Nat}
    {request : PlatformRequest} {credential : Credential} {stage : Stage}
    (got : browser.app.attempts[index]? = some ⟨request, credential, stage⟩) (next : Stage)
    (post : ∀ post, next.post = some post → stage.post = some post)
    (proven : ∀ post response, next = .proving post response →
      ∃ user holder call, host.Backs reads browser.service
        ⟨post, credential, response.credential.signature, response.credential.randomness⟩
        user holder call response.txHash)
    (pending : ∀ post, next.pending = some post → stage.pending = some post) :
    (browser.set index ⟨request, credential, next⟩).Sound host reads :=
  sound.set got ((sound.attempts _ (List.mem_of_getElem? got)).move post proven pending)
    fun given posts => .inl (post given posts)

/-- An error ends one request, and the others go on. -/
theorem Browser.Sound.fail (sound : browser.Sound host reads) {index : Nat}
    {request : PlatformRequest} {credential : Credential} {stage : Stage}
    (got : browser.app.attempts[index]? = some ⟨request, credential, stage⟩) (message : String) :
    (browser.fail index ⟨request, credential, stage⟩ message).Sound host reads :=
  { sound.move got .failed (by simp [Stage.post]) (by simp) (by simp [Stage.pending])
    with }

/-- A login starts a request without a connection. -/
theorem Browser.Sound.login (sound : browser.Sound host reads) (date : String)
    (request : PlatformRequest) :
    Browser.Sound host reads { browser with
      app := { browser.app with
        attempts := browser.app.attempts ++
          [⟨request, host.config.credential date request, .connecting⟩] } } := by
  have old : ∀ (place : Nat) (attempt : Attempt) (post : Post),
      (browser.app.attempts ++
        [⟨request, host.config.credential date request, .connecting⟩])[place]? = some attempt →
      attempt.stage.post = some post → browser.app.attempts[place]? = some attempt := by
    intro place attempt post there posts
    rw [List.getElem?_append] at there
    split at there
    · exact there
    · cases List.mem_singleton.mp (List.mem_of_getElem? there)
      cases posts
  exact {
    service := sound.service
    attempts := fun attempt member => by
      rcases List.mem_append.mp member with before | now
      · exact sound.attempts attempt before
      · cases List.mem_singleton.mp now
        exact ⟨⟨date, rfl⟩, by simp [Stage.post], by simp, by simp [Stage.pending]⟩
    distinct := fun first second one two atFirst atSecond post other posts others =>
      sound.distinct first second one two (old first one post atFirst posts)
        (old second two other atSecond others) post other posts others
    wallet := sound.wallet
    nodup := sound.nodup
    shown := sound.shown }

/-- The wallet adds the credential of a request that has its proof. -/
theorem Browser.Sound.added_step (sound : browser.Sound host reads) {index : Nat}
    {request : PlatformRequest} {credential : Credential} {post : Post} {response : IssueResponse}
    (got : browser.app.attempts[index]? = some ⟨request, credential, .proving post response⟩) :
    (((browser.add post credential response).set index
      ⟨request, credential, .waiting post response⟩).Sound host reads) := by
  have own := sound.attempts _ (List.mem_of_getElem? got)
  have moved := sound.move got (.waiting post response) (fun _ => id) (by simp)
    (by simp [Stage.pending])
  have free : ∀ attempt ∈ (browser.set index
      ⟨request, credential, .waiting post response⟩).app.attempts,
      ∀ other, attempt.stage.pending = some other → other.client ≠ post.client := by
    intro attempt member other pending same
    obtain ⟨place, there⟩ := List.mem_iff_getElem?.mp member
    rcases getElem?_set_some there with ⟨-, rfl⟩ | ⟨different, before⟩
    · cases pending
    · exact different (sound.distinct place index attempt _ before got other post
        (Stage.pending_post pending) rfl same)
  exact moved.add (own.proven post response rfl) (own.unadded post rfl) free

/-- Every step keeps the page and its wallet sound. -/
theorem Browser.Sound.step (sound : browser.Sound host reads) {alone : Prop} {event : BrowserEvent}
    (admits : browser.Admits alone event)
    (takes : ∀ move, event = .service (.worker move) → ∀ client reading,
      browser.service.system.Takes move client reading → reads client reading) :
    (browser.step host event).Sound host reads := by
  have moves := Browser.step_moves host admits
  generalize browser.step host event = after at moves
  cases moves with
  | idle => exact sound
  | alert message => exact { sound with }
  | login date request => exact sound.login date request
  | fail got message => exact sound.fail got message
  | goOn got post pending awaits =>
      refine sound.move got _ (by simp [post]) ?_ (by simp [pending])
      rintro given response rfl
      cases pending
  | post got unused unhanded => exact sound.post got unused unhanded
  | @prove index request credential post response got answered =>
      obtain ⟨⟨date, made⟩, own, -, -⟩ := sound.attempts _ (List.mem_of_getElem? got)
      have same : credential = host.config.credential date request := made
      subst same
      refine sound.move got _ (fun _ => id) ?_ (fun _ => id)
      rintro given response ⟨⟩
      exact sound.service.backs (own post rfl) answered
  | add got single => exact sound.added_step got
  | finality got final =>
      exact { sound.move got (.finalized _ _) (fun _ => id) (by simp) (by simp [Stage.pending])
        with }
  | serve same other =>
      subst same
      exact sound.serve other fun move worker => takes move (congrArg _ worker)
  | finalize txHash => exact { sound with }

end Steps

/-- Every run keeps the page and its wallet sound, with the readings of the worker in this run. -/
theorem Browser.Sound.run {alone : Prop} {events : List BrowserEvent}
    (run : Execution (Browser.Step host alone) (.start host.worker) events browser) :
    browser.Sound host (host.Takes alone events) := by
  refine run.invariant_at ?_ (Browser.Sound.start host)
  rintro before event after first _ split left sound ⟨admits⟩
  refine sound.step admits ?_
  rintro move rfl client reading takes
  exact ⟨before, move, after, first, split, left, takes⟩

/-- The transaction of a connection is its only one. -/
theorem Host.Follows.callsOf (follows : host.Follows reads service)
    {sent : Sent RegisterCall RegisterReply} (member : sent ∈ service.system.sent) :
    service.system.callsOf sent.client = [(sent.call, sent.reply)] := by
  have listed : (sent.call, sent.reply) ∈ service.system.callsOf sent.client :=
    System.mem_callsOf.mpr member
  obtain ⟨rest, job, state, reading, -, -, same, leaves⟩ :=
    follows.system.served sent.client (follows.system.sent sent member)
  have single := (txSender_leaves same leaves).1
  obtain ⟨only, calls⟩ := List.length_eq_one_iff.mp
    (Nat.le_antisymm single (List.length_pos_of_mem listed))
  rw [calls] at listed ⊢
  rw [List.mem_singleton.mp listed]

/-- In every run of the page of the Telegram issuer, with any number of requests at a time, every
credential that the wallet adds has a connection of its own; the issuer has authenticated its user,
has signed its attributes for its holder, and has registered the holder in the only transaction of
this connection. -/
theorem telegramApp_walletCredentials (host : Host) (alone : Prop) {events : List BrowserEvent}
    {browser : Browser}
    (run : Execution (Browser.Step host alone) (.start host.worker) events browser) :
    browser.added.Nodup ∧ ∀ entry ∈ browser.wallet, ∃ user holder call txHash,
      host.Backs (host.Takes alone events) browser.service entry user holder call txHash ∧
        browser.service.system.callsOf entry.post.client = [(call, .ok txHash)] := by
  have sound := Browser.Sound.run run
  refine ⟨sound.nodup, fun entry member => ?_⟩
  obtain ⟨user, holder, call, txHash, backs⟩ := sound.wallet entry member
  exact ⟨user, holder, call, txHash, backs, sound.service.callsOf backs.registered⟩

/-- The sample issuer serves its page under one address. -/
def sampleHost : Host where
  config := ⟨"testnet", "4718", "0", "https://issuer.example/"⟩
  formats := ⟨fun _ => "1970-01-01T00:00:01.000Z", fun _ => some ⟨7⟩, fun _ => some ⟨1000⟩⟩
  digests := ⟨fun _ => [], fun _ _ => []⟩
  telegramBotTokens := ["token"]
  sdk := sampleSdk
  capacity := 100
  worker :=
    { sampleWorker with
      state := .new 5 10 1
      metadataUrl := "https://issuer.example/" ++ "json-schemas/credential-metadata.json" }

/-- The sample user logs in with a code that the digests accept. -/
def sampleUser : User := ⟨42, "First", none, some "user", none, 0, ""⟩

def sampleId : String :=
  "did:ccd:testnet:pkc:0000000000000000000000000000000000000000000000000000000000000007"

/-- The issuer answers the request of the page. -/
def sampleService : List (IssuerEvent TelegramIssueRequest) :=
  [.worker (.enqueue 0), .worker (.dequeue sampleReading), .worker (.reply (.ok ⟨9⟩)),
    .worker (.read 0)]

/-- A login, whose request is answered and added to the wallet. -/
def sampleEvents : List BrowserEvent :=
  [.onTelegramAuth sampleUser 1000, .connect 0 .accounts, .post 0 0 sampleId 1000] ++
    sampleService.map .service ++ [.response 0, .added 0]

def sampleVisit : Browser := sampleEvents.foldl (Browser.step sampleHost) (.start sampleHost.worker)

/-- The worker moves for the sample request only. -/
theorem sampleService_other (browser : Browser) {event : IssuerEvent TelegramIssueRequest}
    (member : event ∈ sampleService) (client : Nat) (request : TelegramIssueRequest)
    (same : event = .request client request) : ¬ browser.Uses client := by
  subst same
  simp [sampleService] at member

theorem sampleVisit_run {alone : Prop} :
    Execution (Browser.Step sampleHost alone) (.start sampleHost.worker) sampleEvents
      sampleVisit := by
  refine .next (.admitted (.onTelegramAuth _ _)) (.next (.admitted (.connect _ _))
    (.next (.admitted (.post ?_ ?_))
      (.next (.admitted (.service (sampleService_other _ (by simp [sampleService]))))
        (.next (.admitted (.service (sampleService_other _ (by simp [sampleService]))))
          (.next (.admitted (.service (sampleService_other _ (by simp [sampleService]))))
            (.next (.admitted (.service (sampleService_other _ (by simp [sampleService]))))
              (.next (.admitted (.response _)) (.single (.admitted (.added ?_))))))))))
  · rintro ⟨attempt, member, post, posts, -⟩
    cases List.mem_singleton.mp member
    cases posts
  · intro job member
    cases member
  · intro _ attempt member
    cases List.mem_singleton.mp member
    rfl

/-- The wallet of the sample visit has the backed credential of the sample user. -/
theorem telegramApp_walletCredentials_sample : ∃ entry ∈ sampleVisit.wallet,
    entry.credential = sampleHost.config.credential "1970-01-01T00:00:01.000Z"
      (.telegram sampleUser "user") ∧
    ∃ user holder call txHash,
      sampleHost.Backs (sampleHost.Takes False sampleEvents) sampleVisit.service entry user holder
        call txHash ∧
        sampleVisit.service.system.callsOf entry.post.client = [(call, .ok txHash)] :=
  ⟨_, List.mem_singleton.mpr rfl, rfl,
    (telegramApp_walletCredentials sampleHost False sampleVisit_run).2 _
      (List.mem_singleton.mpr rfl)⟩

end Telegram

end Web3Id.SomeIssuer
