import Web3Id.Construction.ProofExplorer.AttributeForms
import Web3Id.Construction.SomeVerifier.RemovalDialog
import Web3Id.Construction.SomeVerifier.Server

/-
This file is the page that requests a verification: its configuration, the statement for the
wallet, and the requests that it sends to the server.
-/

namespace Web3Id.SomeVerifier

open ProofExplorer (bigInt)

structure IssuerConfig where
  url : String
  index : String
  subindex : String
  deriving DecidableEq, Repr

/-- The part of the configuration that the page uses for its statements. -/
structure FrontendConfig where
  issuers : Platform → IssuerConfig

/-- The server writes the addresses of its registries into the page. -/
def AppState.frontendConfig (self : AppState) (telegramIssuerUrl discordIssuerUrl : String) :
    FrontendConfig where
  issuers
    | .telegram =>
        ⟨telegramIssuerUrl, toString self.telegramRegistry.index.toNat,
          toString self.telegramRegistry.subindex.toNat⟩
    | .discord =>
        ⟨discordIssuerUrl, toString self.discordRegistry.index.toNat,
          toString self.discordRegistry.subindex.toNat⟩

/-- The SDK of the page keeps the two numbers of an address as they are. -/
structure PageAddress where
  index : Nat
  subindex : Nat
  deriving DecidableEq, Repr

def pageAddress (address : ContractAddress) : PageAddress :=
  ⟨address.index.toNat, address.subindex.toNat⟩

/-- The bound of the SDK is one number above those of 64 bits. -/
def PageAddress.create (index subindex : Int) : Option PageAddress :=
  if 0 ≤ index ∧ 0 ≤ subindex ∧ index.toNat ≤ UInt64.size ∧ subindex.toNat ≤ UInt64.size then
    some ⟨index.toNat, subindex.toNat⟩
  else none

/-- The wallet is asked for a credential of a registry, or for one of an identity. -/
inductive CredentialQuery where
  | verifiable (issuers : List PageAddress) (statement : List (AtomicStatement String))
  | identity (issuers : List UInt32) (statement : List (AtomicStatement AttributeTag))
  deriving DecidableEq, Repr

structure ProofOptions where
  revealName : Bool
  revealUsername : Bool
  deriving DecidableEq, Repr

/-- The attributes of a platform that are revealed. -/
def ProofOptions.attributes (options : ProofOptions) : List (AtomicStatement String) :=
  if options.revealUsername then [.revealAttribute "userId", .revealAttribute "username"]
  else [.revealAttribute "userId"]

def IssuerConfig.query (options : ProofOptions) (issuer : IssuerConfig) :
    Option CredentialQuery := do
  let address ← PageAddress.create (← bigInt issuer.index) (← bigInt issuer.subindex)
  return .verifiable [address] options.attributes

/-- The statements for the wallet. An address that is no number is an error. -/
def requestProof (issuers : List IssuerConfig) (options : ProofOptions) :
    Option (List CredentialQuery) := do
  let statements ← issuers.mapM (IssuerConfig.query options)
  return statements ++
    if options.revealName then
      [.identity [0, 1, 2, 3] [.revealAttribute .firstName, .revealAttribute .lastName]]
    else []

/-- The two digits of a byte. -/
def hexByte (byte : UInt8) : List Char := (Nat.toDigits 16 byte.toNat).leftpad 2 '0'

/-- The digest of a message in hexadecimal digits. -/
def hash (digest : String → Bytes) (message : String) : String :=
  .ofList ((digest message).flatMap hexByte)

namespace Verify

inductive VerificationStep where
  | issue
  | verify
  | check
  deriving DecidableEq, Repr

/-- The three switches of the form. -/
structure Checked where
  telegram : Bool
  discord : Bool
  fullName : Bool
  deriving DecidableEq, Repr

def Checked.count (checked : Checked) : Nat :=
  checked.telegram.toNat + checked.discord.toNat + checked.fullName.toNat

def Checked.platform (checked : Checked) : Platform → Bool
  | .telegram => checked.telegram
  | .discord => checked.discord

def Checked.issuers (config : FrontendConfig) (checked : Checked) : List IssuerConfig :=
  (if checked.telegram then [config.issuers .telegram] else []) ++
    if checked.discord then [config.issuers .discord] else []

/-- The statements that the page requests for the switches. -/
def Checked.queries (config : FrontendConfig) (checked : Checked) : Option (List CredentialQuery) :=
  requestProof (checked.issuers config) ⟨checked.fullName, true⟩

abbrev Body := RemoveVerification.Body

/-- What a press of the button waits for. -/
inductive Stage where
  | connecting
  | hashing (timestamp : String)
  | proving (timestamp challenge : String)
  | fetching (body : Body)
  | reading
  deriving DecidableEq, Repr

/-- A press keeps the switches and the provider of the render that it happened in. -/
structure Press where
  checked : Checked
  provider : Nat
  stage : Stage
  deriving DecidableEq, Repr

structure Page where
  telegramIssued : Bool
  discordIssued : Bool
  opened : Option VerificationStep
  proofError : String
  checked : Checked
  showPrivacyNotice : Bool
  deriving DecidableEq, Repr

def Page.loaded : Page := ⟨false, false, some .verify, "", ⟨false, false, false⟩, false⟩

structure Session where
  page : Page
  app : App
  presses : List Press
  deriving DecidableEq, Repr

def Session.loaded : Session := ⟨.loaded, .loaded, []⟩

def lessThanTwoOptionsError : String := "Please select at least two options."

/-- The number of the switches is computed again when one of them has changed. -/
def Page.setChecked (page : Page) (checked : Checked) : Page :=
  if page.checked = checked then page
  else
    { page with
      checked := checked
      proofError := if 2 ≤ checked.count then "" else page.proofError }

def Page.failed (page : Page) : Page := { page with proofError := "Proof creation failed." }

/-- A missing digest, presentation, or text was an error. -/
inductive Reply where
  | wallet (reply : WalletReply) (timestamp : String)
  | digest (challenge : Option String)
  | presentation (proof : Option Presentation)
  | response (response : RemoveVerification.Response)
  | text (read : Bool)
  deriving DecidableEq, Repr

/-- The page asks the wallet, unless the statements cannot be made. -/
def Press.ask (press : Press) (config : FrontendConfig) (page : Page) (app : App)
    (timestamp challenge : String) : Page × App × Option Press :=
  match press.checked.queries config with
  | none => (page.failed, app, none)
  | some _ => (page, app, some { press with stage := .proving timestamp challenge })

/-- The rest of `prove` after a reply. A press that has ended is none. -/
def Press.resume (press : Press) (config : FrontendConfig) (page : Page) (app : App)
    (reply : Reply) : Page × App × Option Press :=
  match press.stage, reply with
  | .connecting, .wallet answer timestamp =>
      match app.concordiumProvider press.provider answer with
      | (app, .ok ()) => (page, app, some { press with stage := .hashing timestamp })
      | (app, .error e) => ({ page with proofError := e.message }, app, none)
  -- The digest is taken outside of any handler.
  | .hashing _, .digest none => (page, app, none)
  | .hashing timestamp, .digest (some challenge) => press.ask config page app timestamp challenge
  | .proving _ _, .presentation none => (page.failed, app, none)
  | .proving timestamp _, .presentation (some proof) =>
      (page, app, some { press with stage := .fetching ⟨proof, timestamp⟩ })
  | .fetching _, .response .ok => ({ page with proofError := "", opened := some .check }, app, none)
  | .fetching _, .response .notOk =>
      ({ page with proofError := "The proof was rejected." }, app, some { press with stage := .reading })
  | .fetching _, .response .failed => (page.failed, app, none)
  | .reading, .text true => (page, app, none)
  | .reading, .text false => (page.failed, app, none)
  | _, _ => (page, app, some press)

inductive Event where
  | setChecked (checked : Checked)
  | issue (platform : Platform)
  | submit
  | setNotice (shown : Bool)
  | understand (timestamp : String)
  | toggle (step : VerificationStep)
  | setOpen (step : VerificationStep)
  | resume (index : Nat) (reply : Reply)
  /-- The other forms of the page ask the wallet too. -/
  | connect (provider : Nat) (reply : WalletReply)
  | setShowModal (shown : Bool)
  deriving Repr

/-- A credential that has been issued is also checked. -/
def Page.issue (page : Page) : Platform → Page
  | .telegram =>
      { page.setChecked { page.checked with telegram := true } with telegramIssued := true }
  | .discord =>
      { page.setChecked { page.checked with discord := true } with discordIssued := true }

namespace Session

/-- The button of the notice closes it and starts `prove` with the switches of its render. A wallet
that is already connected is not asked again. -/
def understand (session : Session) (timestamp : String) : Session :=
  let page := { session.page with showPrivacyNotice := false }
  if page.checked.count < 2 then
    { session with page := { page with proofError := lessThanTwoOptionsError } }
  else
    let stage :=
      if session.app.renders ∈ session.app.connected then Stage.hashing timestamp else .connecting
    { session with
      page := page
      presses := session.presses ++ [⟨page.checked, session.app.renders, stage⟩] }

def resume (config : FrontendConfig) (session : Session) (index : Nat) (reply : Reply) : Session :=
  match session.presses[index]? with
  | none => session
  | some press =>
      match press.resume config session.page session.app reply with
      | (page, app, none) => ⟨page, app, session.presses.eraseIdx index⟩
      | (page, app, some press) => ⟨page, app, session.presses.set index press⟩

def step (config : FrontendConfig) (session : Session) : Event → Session
  | .setChecked checked => { session with page := session.page.setChecked checked }
  | .issue platform => { session with page := session.page.issue platform }
  | .submit =>
      if session.page.checked.count < 2 then
        { session with page := { session.page with proofError := lessThanTwoOptionsError } }
      else
        { session with
          page := { session.page with showPrivacyNotice := !session.page.showPrivacyNotice } }
  | .setNotice shown => { session with page := { session.page with showPrivacyNotice := shown } }
  | .understand timestamp => session.understand timestamp
  | .toggle step =>
      if session.page.opened = some step then
        { session with page := { session.page with opened := none } }
      else { session with page := { session.page with opened := some step } }
  | .setOpen step => { session with page := { session.page with opened := some step } }
  | .resume index reply => session.resume config index reply
  | .connect provider reply =>
      if provider ≤ session.app.renders ∧ provider ∉ session.app.connected then
        { session with app := (session.app.concordiumProvider provider reply).1 }
      else session
  | .setShowModal shown => { session with app := session.app.setShowModal shown }

end Session

end Verify

end Web3Id.SomeVerifier
