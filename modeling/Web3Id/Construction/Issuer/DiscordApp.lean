import Web3Id.Construction.Issuer.DiscordLogin
import Web3Id.Library.Execution

/-
This file is the page of the Discord issuer, in a browser that keeps the cookie of the session.
-/

namespace Web3Id.SomeIssuer.Discord

open Library

/-- A window posts an account or an error, with the state of its address. -/
inductive DiscordWindowMessage where
  | success (user : Message) (state : Option String)
  | error (error : List Nat) (state : Option String)
  deriving DecidableEq, Repr

def DiscordWindowMessage.state : DiscordWindowMessage → Option String
  | .success _ state => state
  | .error _ state => state

structure MessageEvent where
  source : Nat
  origin : String
  data : DiscordWindowMessage
  deriving DecidableEq, Repr

/-- The page is loaded from its URL, and gets what is posted to its own origin. -/
structure Site where
  issuerUrl : String
  origin : String
  isOpener : String → Bool

/-- The page keeps the state and the window of the last verification. -/
structure App where
  oAuth2State : Option String
  oAuthWindow : Option Nat
  deriving DecidableEq, Repr

/-- The browser opens a window for the verification, or blocks it. -/
def App.openDiscordVerification (nonce : String) (window : Option Nat) : App := ⟨some nonce, window⟩

/-- A missing state differs from every state. -/
def App.expects (self : App) (state : Option String) : Bool :=
  match self.oAuth2State, state with
  | some expected, some state => decide (state = expected)
  | _, _ => false

/-- A message requests a credential when it passes all checks and is no error. -/
def App.onDiscordWindowMessage (self : App) (site : Site) (event : MessageEvent) : Option Message :=
  match self.oAuthWindow with
  | none => none
  | some window =>
      if event.source ≠ window then none
      else if event.origin ++ "/" ≠ site.issuerUrl then none
      else if self.expects event.data.state = false then none
      else
        match event.data with
        | .error _ _ => none
        | .success user _ => some user

/-- A redirect handler sends its page, and the new cookie of a session that it has changed. -/
structure RedirectAnswer where
  page : Except StatusCode (List Char)
  session : Option Session
  cookie : Option Nat

/-- The answer of a handler that has ended. -/
def Logins.answer (self : Logins) (loaded : Session) :
    Program DiscordCall (fun _ => DiscordReply) (Except StatusCode (List Char) × Option Session) →
    Option RedirectAnswer
  | .pure (page, none) => some ⟨page, none, none⟩
  | .pure (page, some session) =>
      some ⟨page, some session, if session = loaded then none else some self.cookies.length⟩
  | .call _ _ => none

/-- A window has asked for the redirect page with the state of its address. -/
structure Tab where
  window : Nat
  state : Option String
  answer : Option RedirectAnswer

/-- A message on its way to the page has the session of the login whose page has posted it. -/
structure Delivery where
  event : MessageEvent
  session : Option Session

/-- A request for a credential has the user of its message, and the session of its login. -/
structure CredentialRequest where
  user : Message
  session : Option Session

/-- The browser shows the page of the issuer and its windows. It has one cookie of the service, and
the session of the last login whose answer has arrived. -/
structure Browser where
  logins : Logins
  app : App
  cookie : Option Nat
  lastLogin : Session
  tabs : Nat → Option Tab
  inbox : List Delivery
  requests : List CredentialRequest

def Browser.start : Browser := ⟨.start, ⟨none, none⟩, none, .empty, fun _ => none, [], []⟩

/-- What happens in the browser and at the service. The service also handles the requests of other
browsers, the cookie may expire, and other sites may post messages to the page. -/
inductive BrowserEvent where
  | openDiscordVerification (nonce : String) (window : Option Nat)
  | redirect (handler window : Nat) (state : Option String) (params : Oauth2RedirectParams)
  | service (request : Request)
  | arrive (handler : Nat)
  | close (handler : Nat)
  | forget
  | foreign (event : MessageEvent)
  | message

/-- The handler of a window gets its reply or ends without an answer. -/
def Browser.served (self : Browser) : Request → Nat → Option Tab
  | .reply handler reply =>
      match self.tabs handler, self.logins.redirects handler with
      | some ⟨window, state, none⟩, some ⟨loaded, .call _ next⟩ =>
          Function.update self.tabs handler
            (some ⟨window, state, self.logins.answer loaded (next reply)⟩)
      | _, _ => self.tabs
  | .timeout handler =>
      match self.tabs handler with
      | some ⟨_, _, none⟩ => Function.update self.tabs handler none
      | _ => self.tabs
  | _ => self.tabs

/-- The message of a redirect page. -/
def RedirectAnswer.message (self : RedirectAnswer) : Option Message :=
  match self.page with
  | .error _ => none
  | .ok page => posted page

/-- The script of a redirect page posts its message to both domains. -/
def RedirectAnswer.deliveries (self : RedirectAnswer) (site : Site) (state : AppState)
    (window : Nat) (query : Option String) : List Delivery :=
  self.message.toList.flatMap fun user =>
    ([state.dappDomain, state.verifierDappDomain].filter site.isOpener).map fun _ =>
      ⟨⟨window, site.origin, .success user query⟩, self.session⟩

/-- The browser stores the cookie and runs the page. -/
def Browser.show (self : Browser) (site : Site) (state : AppState) (handler : Nat) (tab : Tab)
    (answer : RedirectAnswer) : Browser :=
  { self with
    tabs := Function.update self.tabs handler none
    cookie := answer.cookie.or self.cookie
    lastLogin := answer.session.getD self.lastLogin
    inbox := self.inbox ++ answer.deliveries site state tab.window tab.state }

def Browser.step (parser : Json) (state : OauthState) (site : Site) (self : Browser) :
    BrowserEvent → Browser
  | .openDiscordVerification nonce window =>
      { self with app := .openDiscordVerification nonce window }
  | .redirect handler window query params =>
      match self.logins.redirects handler with
      | some _ => self
      | none =>
          { self with
            logins := (self.logins.step parser state (.redirect handler self.cookie params)).1
            tabs := Function.update self.tabs handler (some ⟨window, query,
              self.logins.answer (self.logins.load self.cookie)
                (state.handleOauthRedirect parser params)⟩) }
  | .service request =>
      { self with
        logins := (self.logins.step parser state request).1
        tabs := self.served request }
  | .arrive handler =>
      match self.tabs handler with
      | some ⟨window, query, some answer⟩ =>
          self.show site state.toAppState handler ⟨window, query, some answer⟩ answer
      | _ => self
  | .close handler => { self with tabs := Function.update self.tabs handler none }
  | .forget => { self with cookie := none, lastLogin := .empty }
  | .foreign event => { self with inbox := self.inbox ++ [⟨event, none⟩] }
  | .message =>
      match self.inbox with
      | [] => self
      | delivery :: rest =>
          { self with
            inbox := rest
            requests :=
              match self.app.onDiscordWindowMessage site delivery.event with
              | none => self.requests
              | some user => self.requests ++ [⟨user, delivery.session⟩] }

/-- The browser sends its cookie with the request of the page, and the service hands a job on. -/
def Browser.job (parser : Json) (state : OauthState) (self : Browser)
    (credential : CredentialInfo) : Option IssueChannelData :=
  (self.logins.step parser state (.credential self.cookie credential)).2

/-- The browser has at most one login under way, keeps its cookie meanwhile, and other sites have
other origins. -/
inductive Browser.Admits (site : Site) (self : Browser) : BrowserEvent → Prop
  | openDiscordVerification (nonce : String) (window : Option Nat) :
      Browser.Admits site self (.openDiscordVerification nonce window)
  -- A handler that finds its own values in the loaded session sends no cookie: two logins at once
  -- could leave the browser with the cookie of the other one.
  | redirect {handler window : Nat} {state : Option String} {params : Oauth2RedirectParams}
      (alone : ∀ other, self.tabs other = none) :
      Browser.Admits site self (.redirect handler window state params)
  | service (request : Request) : Browser.Admits site self (.service request)
  | arrive (handler : Nat) : Browser.Admits site self (.arrive handler)
  | close (handler : Nat) : Browser.Admits site self (.close handler)
  | forget (alone : ∀ other, self.tabs other = none) : Browser.Admits site self .forget
  | foreign {event : MessageEvent} (elsewhere : event.origin ++ "/" ≠ site.issuerUrl) :
      Browser.Admits site self (.foreign event)
  | message : Browser.Admits site self .message

/-- Every event that the browser admits is a step. -/
inductive Browser.Step (parser : Json) (state : OauthState) (site : Site) :
    Browser → BrowserEvent → Browser → Prop
  | admitted {browser : Browser} {event : BrowserEvent} (admits : browser.Admits site event) :
      Browser.Step parser state site browser event (browser.step parser state site event)

end Web3Id.SomeIssuer.Discord
