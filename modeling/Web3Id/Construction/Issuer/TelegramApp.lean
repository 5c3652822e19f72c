import Web3Id.Construction.Issuer.Services
import Web3Id.Construction.SomeVerifier.RemovalDialog
import Web3Id.Library.Execution

/-
This file is the page of the Telegram issuer, with the wallet and the service that it talks to.
-/

namespace Web3Id.SomeIssuer.Telegram

open Library Library.Gateway
open SomeVerifier (WalletReply ConnectionError)

/-- The page knows its registry and its own address. -/
structure Config where
  network : String
  index : String
  subindex : String
  issuerUrl : String

def Config.contractDid (config : Config) : String :=
  "$did:ccd:" ++ config.network ++ ":sci:" ++ config.index ++ ":" ++ config.subindex ++ "/issuer"

def Config.metadataUrl (config : Config) : String :=
  config.issuerUrl ++ "json-schemas/credential-metadata.json"

/-- The page writes dates, and the SDK reads dates and holders. -/
structure Formats where
  toISOString : Int64 → String
  holderId : String → Option CredentialHolderId
  timestamp : String → Option Timestamp

inductive Platform where
  | telegram
  | discord
  deriving DecidableEq, Repr

def Platform.name : Platform → String
  | .telegram => "telegram"
  | .discord => "discord"

/-- Both pages request a credential for a user with a name. -/
inductive PlatformRequest where
  | telegram (user : User) (username : String)
  | discord (id username : String)
  deriving DecidableEq, Repr

def PlatformRequest.platform : PlatformRequest → Platform
  | .telegram _ _ => .telegram
  | .discord _ _ => .discord

def PlatformRequest.id : PlatformRequest → String
  | .telegram user _ => toString user.id
  | .discord id _ => id

def PlatformRequest.username : PlatformRequest → String
  | .telegram _ username => username
  | .discord _ username => username

/-- An empty username counts as missing. -/
def onTelegramAuth (user : User) : Except String PlatformRequest :=
  match user.username with
  | none => .error "A telegram username must be available to create a credential."
  | some username =>
      if username = "" then
        .error "A telegram username must be available to create a credential."
      else .ok (.telegram user username)

structure CredentialSchema where
  id : String
  type : String
  deriving DecidableEq, Repr

/-- The wallet is asked to add this credential. -/
structure Credential where
  schema : String
  type : List String
  issuer : String
  issuanceDate : String
  attributes : List (String × String)
  credentialSchema : CredentialSchema
  deriving DecidableEq, Repr

def Config.credential (config : Config) (issuanceDate : String) (request : PlatformRequest) :
    Credential where
  schema := "./JsonSchema2023-" ++ request.platform.name ++ ".json"
  type := ["VerifiableCredential", "ConcordiumVerifiableCredential", "SoMeCredential"]
  issuer := config.contractDid
  issuanceDate := issuanceDate
  attributes := [("userId", request.id), ("username", request.username)]
  credentialSchema :=
    ⟨config.issuerUrl ++ "json-schemas/JsonSchema2023-" ++ request.platform.name ++ ".json",
      "JsonSchema2023"⟩

@[simp] theorem Config.credential_attributes (config : Config) (issuanceDate : String)
    (request : PlatformRequest) : (config.credential issuanceDate request).attributes =
      [("userId", request.id), ("username", request.username)] := rfl

/-- The body of the request has the credential in the words of the page. -/
structure CredentialBody where
  holderId : String
  holderRevocable : Bool
  validFrom : String
  metadataUrl : String
  deriving DecidableEq, Repr

structure IssueRequest where
  credential : CredentialBody
  telegramUser : Option User
  deriving DecidableEq, Repr

/-- The holder is the last part of the identifier that the wallet has chosen. -/
def holderPart (id : String) : String := (id.splitOn ":").getLastD ""

/-- Only the Telegram issuer needs the user. -/
def Config.issueRequest (config : Config) (request : PlatformRequest) (id validFrom : String) :
    IssueRequest where
  credential := ⟨holderPart id, true, validFrom, config.metadataUrl⟩
  telegramUser :=
    match request with
    | .telegram user username => some { user with username := some username }
    | .discord _ _ => none

/-- The service reads the body of a request. -/
def Formats.telegramIssueRequest (formats : Formats) (request : IssueRequest) :
    Option TelegramIssueRequest := do
  let holderId ← formats.holderId request.credential.holderId
  let validFrom ← formats.timestamp request.credential.validFrom
  let telegramUser ← request.telegramUser
  return ⟨⟨holderId, request.credential.holderRevocable, validFrom, none,
    ⟨request.credential.metadataUrl, none⟩⟩, telegramUser⟩

/-- The wallet is connected as in the page of the verifier. -/
def connectWallet (reply : WalletReply) : Except ConnectionError Unit :=
  SomeVerifier.connectWallet reply

/-- A request for a credential has the number of its connection, the identifier of the wallet, and
the time at which the page has sent it. -/
structure Post where
  client : Nat
  id : String
  now : Int64
  deriving DecidableEq, Repr

/-- What a request waits for. -/
inductive Stage where
  | connecting
  | adding
  | fetching (post : Post)
  | proving (post : Post) (response : IssueResponse)
  | waiting (post : Post) (response : IssueResponse)
  | sleeping (post : Post) (response : IssueResponse)
  | finalized (post : Post) (response : IssueResponse)
  | failed
  deriving DecidableEq

structure Attempt where
  request : PlatformRequest
  credential : Credential
  stage : Stage
  deriving DecidableEq

inductive TransactionStatus where
  | submitted
  | finalized
  | error
  deriving DecidableEq, Repr

/-- The toast shows one transaction and its status. -/
structure TxState where
  transaction : Option TransactionHash
  transactionStatus : Option TransactionStatus
  deriving DecidableEq, Repr

def TxState.onTransactionSubmit (transaction : TransactionHash) : TxState :=
  ⟨some transaction, some .submitted⟩

def TxState.onTransactionFinalized (self : TxState) : TxState :=
  { self with transactionStatus := some .finalized }

/-- The page waits for its requests, and its alerts have been shown. -/
structure App where
  attempts : List Attempt
  txState : TxState
  alerts : List String

def App.loaded : App := ⟨[], ⟨none, none⟩, []⟩

def App.alert (self : App) (message : String) : App :=
  { self with alerts := self.alerts ++ ["An error occured: " ++ message] }

def App.set (self : App) (index : Nat) (attempt : Attempt) : App :=
  { self with attempts := self.attempts.set index attempt }

/-- An error ends its request. -/
def App.fail (self : App) (index : Nat) (attempt : Attempt) (message : String) : App :=
  (self.set index { attempt with stage := .failed }).alert message

/-- The text of a response that is not ok, by its status. -/
def responseError (status : Nat) (text : String) : String :=
  if status = 429 then "Sorry, too many credentials have been issued for this account."
  else "Error getting credential: " ++ text

/-- The node reports the finality of a transaction, or an error that may have a code. -/
inductive FinalizationReply where
  | finalized
  | error (code : Option String) (message : String)
  deriving DecidableEq, Repr

/-- The wallet keeps the credential of the page with the proof and the randomness that the page has
got for its identifier. -/
structure WalletCredential where
  post : Post
  credential : Credential
  signature : Bytes
  randomness : List (String × Bytes)
  deriving DecidableEq

/-- The page is served by one issuer. -/
structure Host where
  config : Config
  formats : Formats
  digests : Digests
  telegramBotTokens : List String
  sdk : Sdk
  capacity : Nat
  worker : IssuerWorker

/-- The browser shows the page next to its wallet. The service also has other clients, and the node
knows which transactions are final. -/
structure Browser where
  app : App
  wallet : List WalletCredential
  service : IssuerService Unit
  final : List TransactionHash

def Browser.start (worker : IssuerWorker) : Browser := ⟨.loaded, [], .start () worker, []⟩

/-- The page gets the answers that it waits for in any order, and each of them may be an error. -/
inductive BrowserEvent where
  | onTelegramAuth (user : User) (now : Int64)
  | connect (index : Nat) (reply : WalletReply)
  | post (index client : Nat) (id : String) (now : Int64)
  | response (index : Nat)
  | refusal (index status : Nat) (text : String)
  | error (index : Nat) (message : String)
  | added (index : Nat)
  | finality (index : Nat) (reply : FinalizationReply)
  | slept (index : Nat)
  | service (event : IssuerEvent TelegramIssueRequest)
  | finalize (txHash : TransactionHash)

def Host.serve (host : Host) (service : IssuerService Unit)
    (event : IssuerEvent TelegramIssueRequest) : IssuerService Unit :=
  service.step (telegramGateway host.digests host.telegramBotTokens)
    (channelWorker host.sdk host.capacity) event

/-- The service hands on a request that it can read. -/
def Host.submit (host : Host) (service : IssuerService Unit) (request : PlatformRequest)
    (post : Post) : IssuerService Unit :=
  match host.formats.telegramIssueRequest
      (host.config.issueRequest request post.id (host.formats.toISOString post.now)) with
  | none => service
  | some request => host.serve service (.request post.client request)

def Browser.fail (self : Browser) (index : Nat) (attempt : Attempt) (message : String) : Browser :=
  { self with app := self.app.fail index attempt message }

def Browser.set (self : Browser) (index : Nat) (attempt : Attempt) : Browser :=
  { self with app := self.app.set index attempt }

/-- The wallet has added the credential, and the page shows its transaction. -/
def Browser.add (self : Browser) (post : Post) (credential : Credential)
    (response : IssueResponse) : Browser :=
  { self with
    wallet := self.wallet ++
      [⟨post, credential, response.credential.signature, response.credential.randomness⟩]
    app := { self.app with txState := .onTransactionSubmit response.txHash } }

/-- The rest of a request after the event that it waits for. -/
def Browser.step (host : Host) (self : Browser) : BrowserEvent → Browser
  | .onTelegramAuth user now =>
      match SomeIssuer.Telegram.onTelegramAuth user with
      | .error message => { self with app := self.app.alert message }
      | .ok request =>
          let credential := host.config.credential (host.formats.toISOString now) request
          { self with
            app := { self.app with
              attempts := self.app.attempts ++ [⟨request, credential, .connecting⟩] } }
  | .connect index reply =>
      match self.app.attempts[index]? with
      | some ⟨request, credential, .connecting⟩ =>
          match connectWallet reply with
          | .error error => self.fail index ⟨request, credential, .connecting⟩ error.message
          | .ok () => self.set index ⟨request, credential, .adding⟩
      | _ => self
  | .post index client id now =>
      match self.app.attempts[index]? with
      | some ⟨request, credential, .adding⟩ =>
          { self.set index ⟨request, credential, .fetching ⟨client, id, now⟩⟩ with
            service := host.submit self.service request ⟨client, id, now⟩ }
      | _ => self
  | .response index =>
      match self.app.attempts[index]? with
      | some ⟨request, credential, .fetching post⟩ =>
          match self.service.system.clients post.client with
          | some (.returned (.ok response)) =>
              self.set index ⟨request, credential, .proving post response⟩
          | some (.returned (.error code)) =>
              self.fail index ⟨request, credential, .fetching post⟩ (responseError code.code "")
          | _ => self
      | _ => self
  | .refusal index status text =>
      match self.app.attempts[index]? with
      | some ⟨request, credential, .fetching post⟩ =>
          self.fail index ⟨request, credential, .fetching post⟩ (responseError status text)
      | _ => self
  | .error index message =>
      match self.app.attempts[index]? with
      | some ⟨request, credential, .adding⟩ =>
          self.fail index ⟨request, credential, .adding⟩ message
      | some ⟨request, credential, .fetching post⟩ =>
          self.fail index ⟨request, credential, .fetching post⟩ message
      | some ⟨request, credential, .proving post response⟩ =>
          self.fail index ⟨request, credential, .proving post response⟩ message
      | _ => self
  | .added index =>
      match self.app.attempts[index]? with
      | some ⟨request, credential, .proving post response⟩ =>
          (self.add post credential response).set index
            ⟨request, credential, .waiting post response⟩
      | _ => self
  | .finality index reply =>
      match self.app.attempts[index]?, reply with
      | some ⟨request, credential, .waiting post response⟩, .finalized =>
          { self with app := { self.app with txState := self.app.txState.onTransactionFinalized } }
            |>.set index ⟨request, credential, .finalized post response⟩
      | some ⟨request, credential, .waiting post response⟩, .error code message =>
          -- The node may not have seen the transaction yet.
          if code = some "NOT_FOUND" then
            self.set index ⟨request, credential, .sleeping post response⟩
          else self.fail index ⟨request, credential, .waiting post response⟩ message
      | _, _ => self
  | .slept index =>
      match self.app.attempts[index]? with
      | some ⟨request, credential, .sleeping post response⟩ =>
          self.set index ⟨request, credential, .waiting post response⟩
      | _ => self
  | .service event => { self with service := host.serve self.service event }
  | .finalize txHash => { self with final := self.final ++ [txHash] }

/-- The connection of a request that the page has sent. -/
def Stage.post : Stage → Option Post
  | .fetching post | .proving post _ | .waiting post _ | .sleeping post _ | .finalized post _ =>
      some post
  | _ => none

/-- The transaction whose finality a request waits for. -/
def Stage.awaits : Stage → Option TransactionHash
  | .waiting _ response | .sleeping _ response => some response.txHash
  | _ => none

/-- The connection belongs to a request of the page. -/
def Browser.Uses (self : Browser) (client : Nat) : Prop :=
  ∃ attempt ∈ self.app.attempts, ∃ post, attempt.stage.post = some post ∧ post.client = client

/-- Every request has a connection of its own, and the node reports the finality of a transaction
that is final. When `alone` holds, a transaction is shown only if no other one is waited for. -/
inductive Browser.Admits (alone : Prop) (self : Browser) : BrowserEvent → Prop
  | onTelegramAuth (user : User) (now : Int64) :
      Browser.Admits alone self (.onTelegramAuth user now)
  | connect (index : Nat) (reply : WalletReply) : Browser.Admits alone self (.connect index reply)
  | post {index client : Nat} {id : String} {now : Int64} (unused : ¬ self.Uses client)
      (unhanded : ∀ job, (client, job) ∉ self.service.handed) :
      Browser.Admits alone self (.post index client id now)
  | response (index : Nat) : Browser.Admits alone self (.response index)
  | refusal (index status : Nat) (text : String) :
      Browser.Admits alone self (.refusal index status text)
  | error (index : Nat) (message : String) : Browser.Admits alone self (.error index message)
  | added {index : Nat}
      (single : alone → ∀ attempt ∈ self.app.attempts, attempt.stage.awaits = none) :
      Browser.Admits alone self (.added index)
  | finality {index : Nat} {reply : FinalizationReply}
      (final : ∀ attempt txHash, self.app.attempts[index]? = some attempt →
        attempt.stage.awaits = some txHash → reply = .finalized → txHash ∈ self.final) :
      Browser.Admits alone self (.finality index reply)
  | slept (index : Nat) : Browser.Admits alone self (.slept index)
  | service {event : IssuerEvent TelegramIssueRequest}
      (other : ∀ client request, event = .request client request → ¬ self.Uses client) :
      Browser.Admits alone self (.service event)
  | finalize (txHash : TransactionHash) : Browser.Admits alone self (.finalize txHash)

/-- Every event that the browser admits is a step. -/
inductive Browser.Step (host : Host) (alone : Prop) : Browser → BrowserEvent → Browser → Prop
  | admitted {browser : Browser} {event : BrowserEvent} (admits : browser.Admits alone event) :
      Browser.Step host alone browser event (browser.step host event)

end Web3Id.SomeIssuer.Telegram
