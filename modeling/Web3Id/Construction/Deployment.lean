import Web3Id.Construction.Issuer.Services
import Web3Id.Construction.SomeVerifier.Server

/-
This file puts the Telegram issuer, the Discord issuer, and the social media verifier together.
-/

namespace Web3Id

open Library Library.Gateway
open SomeVerifier (Platform)

/-- The verifier accepts the registries of the two issuers. -/
structure Configuration where
  digests : SomeIssuer.Digests
  telegramBotTokens : List String
  parser : SomeIssuer.Discord.Json
  oauth : SomeIssuer.Discord.OauthState
  issuerSdk : SomeIssuer.Sdk
  capacity : Nat
  issuer : Platform → SomeIssuer.IssuerWorker
  verifierSdk : SomeVerifier.Sdk
  verifier : SomeVerifier.AppState
  registries : ∀ platform, verifier.registry platform = (issuer platform).contract

/-- The two issuers run next to the verifier and its database. -/
structure Deployment where
  telegram : SomeIssuer.IssuerService Unit
  discord : SomeIssuer.IssuerService SomeIssuer.Discord.Logins
  db : SomeVerifier.Db

def Deployment.start (config : Configuration) : Deployment where
  telegram := .start () (config.issuer .telegram)
  discord := .start .start (config.issuer .discord)
  db := .empty

/-- The requests that the issuer of a platform has handed to its worker. -/
def Deployment.handed (self : Deployment) : Platform → List (Nat × SomeIssuer.IssueChannelData)
  | .telegram => self.telegram.handed
  | .discord => self.discord.handed

/-- The transactions of the issuer of a platform. -/
def Deployment.sent (self : Deployment) :
    Platform → List (Worker.Sent RegisterCall RegisterReply)
  | .telegram => self.telegram.system.sent
  | .discord => self.discord.system.sent

/-- The node has accepted a transaction for the request. -/
def Deployment.Registered (self : Deployment) (platform : Platform)
    (data : SomeIssuer.IssueChannelData) : Prop :=
  ∃ client, (client, data) ∈ self.handed platform ∧
    ∃ sent ∈ self.sent platform, sent.client = client ∧ sent.call.credential = data.credential ∧
      sent.reply.isOk = true

/-- The answer to a request of the issuer of a platform. -/
def Deployment.answer (self : Deployment) :
    Platform → Nat → Option (Except StatusCode SomeIssuer.IssueResponse)
  | .telegram, client => Worker.Client.answer (self.telegram.system.clients client)
  | .discord, client => Worker.Client.answer (self.discord.system.clients client)

/-- The issuer has answered a request with a credential, and so with its signature. -/
def Deployment.Issued (self : Deployment) (platform : Platform)
    (credential : SomeIssuer.Web3IdCredential) : Prop :=
  ∃ client txHash, self.answer platform client = some (.ok ⟨txHash, credential⟩)

/-- The node answers the key of an issuer for the credentials of its registry, and what the SDK
accepts under this key reveals values that the issuer has signed for the holder, each under its own
tag. -/
structure Deployment.Unforged (config : Configuration) (deployment : Deployment)
    (presentation : Presentation) (publicData : List CredentialWithMetadata) : Prop where
  keys : List.Forall₂ (fun credential entry =>
    ∀ platform created holder network types commitments proofs,
      credential = .web3Id created holder network (config.issuer platform).contract types
        commitments proofs →
      entry.inputs = .web3 (config.issuer platform).issuerPublicKey)
    presentation.verifiableCredential publicData
  signed : ∀ platform created holder network types commitments proofs entry,
    (.web3Id created holder network (config.issuer platform).contract types commitments proofs,
      entry) ∈ presentation.verifiableCredential.zip publicData →
    entry.inputs = .web3 (config.issuer platform).issuerPublicKey →
    ∃ credential, deployment.Issued platform credential ∧ credential.holderId = holder ∧
      ∀ statement value proof, (statement, .revealAttribute value proof) ∈ proofs →
        ∃ tag, statement = .revealAttribute tag ∧ (tag, value) ∈ credential.values

inductive DeploymentEvent where
  | telegram (event : SomeIssuer.IssuerEvent SomeIssuer.TelegramIssueRequest)
  | discord (event : SomeIssuer.IssuerEvent SomeIssuer.Discord.Request)
  | verifier (event : SomeVerifier.Event)

/-- The services take their steps in any order, and nobody forges presentations. -/
inductive Deployment.Step (config : Configuration) :
    Deployment → DeploymentEvent → Deployment → Prop
  | telegram (self : Deployment)
      (event : SomeIssuer.IssuerEvent SomeIssuer.TelegramIssueRequest) :
      Step config self (.telegram event)
        { self with
          telegram := self.telegram.step
            (SomeIssuer.telegramGateway config.digests config.telegramBotTokens)
            (SomeIssuer.channelWorker config.issuerSdk config.capacity) event }
  | discord (self : Deployment) (event : SomeIssuer.IssuerEvent SomeIssuer.Discord.Request) :
      Step config self (.discord event)
        { self with
          discord := self.discord.step (SomeIssuer.Discord.gateway config.parser config.oauth)
            (SomeIssuer.channelWorker config.issuerSdk config.capacity) event }
  | verifier {self : Deployment} {event : SomeVerifier.Event}
      (unforged : ∀ request publicData, event.body = .ok request →
        config.verifier.Accepts config.verifierSdk event request.proof publicData →
        self.Unforged config request.proof publicData) :
      Step config self (.verifier event)
        { self with db := (config.verifier.serve config.verifierSdk self.db event).2 }

end Web3Id
