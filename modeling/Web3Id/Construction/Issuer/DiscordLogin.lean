import Web3Id.Construction.Issuer.DiscordPage
import Web3Id.Library.ChannelWorker

/-
This file is the login of the Discord issuer: the exchange of a code for a user, the redirect
handler, and the sessions in the cookies of the clients.
-/

namespace Web3Id.SomeIssuer.Discord

open Library

/-- The request to the API fails, or its answer has a status and a text. -/
structure RequestError where
  text : String
  deriving DecidableEq, Repr

structure Response where
  status : Nat
  text : Except RequestError String

def Response.isSuccess (self : Response) : Bool := 200 ≤ self.status ∧ self.status < 300

structure AccessTokenRequestData where
  clientId : String
  clientSecret : String
  grantType : String
  code : String
  redirectUri : String
  deriving DecidableEq, Repr

structure AccessTokenResponse where
  accessToken : String
  tokenType : String
  scope : String
  deriving DecidableEq, Repr

/-- The JSON parser reads the two bodies of the API. -/
structure Json where
  accessToken : String → Except RequestError AccessTokenResponse
  user : String → Except RequestError User

/-- The calls to the API, each with its path below the endpoint. -/
inductive DiscordCall where
  | oauth2Token (data : AccessTokenRequestData)
  | usersMe (accessToken : String)
  deriving DecidableEq, Repr

abbrev DiscordReply := Except RequestError Response

/-- An error of the client library is passed on, and a failed check has a message. -/
inductive UserError where
  | request (error : RequestError)
  | ensure (message : String)
  deriving DecidableEq, Repr

/-- The state of the service with the data for the exchange. -/
structure OauthState extends AppState where
  discordClientId : String
  discordClientSecret : String
  discordRedirectUri : String

/-- A body that cannot be read is an error of the client library. -/
def json {Body : Type} (parse : String → Except RequestError Body) (response : Response) :
    Except UserError Body :=
  match response.text with
  | .error error => .error (.request error)
  | .ok text => (parse text).mapError .request

/-- The text of a failed exchange is read for the message. -/
def authenticationFailed (response : Response) : UserError :=
  match response.text with
  | .error error => .request error
  | .ok text => .ensure s!"user authetication failed: {text}"

/-- The token must be a bearer token for the identity only. -/
def checkToken (response : AccessTokenResponse) : Except UserError String :=
  if ¬ response.tokenType = "Bearer" then
    .error (.ensure s!"expected Bearer token, got '{response.tokenType}'")
  else if ¬ response.scope = "identify" then
    .error (.ensure s!"expected 'idenitfy' scope, got '{response.scope}'")
  else .ok response.accessToken

def readToken (parser : Json) : DiscordReply → Except UserError String
  | .error error => .error (.request error)
  | .ok response =>
      if ¬ response.isSuccess then .error (authenticationFailed response)
      else json parser.accessToken response >>= checkToken

def readUser (parser : Json) : DiscordReply → Except UserError User
  | .error error => .error (.request error)
  | .ok response =>
      if ¬ response.isSuccess then .error (.ensure "Unable to get user information.")
      else json parser.user response

def OauthState.tokenRequest (self : OauthState) (code : String) : AccessTokenRequestData where
  clientId := self.discordClientId
  clientSecret := self.discordClientSecret
  grantType := "authorization_code"
  code := code
  redirectUri := self.discordRedirectUri

/-- The exchange of a code for a user makes at most two calls. -/
def OauthState.getUser (parser : Json) (self : OauthState) (code : String) :
    Program DiscordCall (fun _ => DiscordReply) (Except UserError User) :=
  .call (.oauth2Token (self.tokenRequest code)) fun reply =>
    match readToken parser reply with
    | .error error => .pure (.error error)
    | .ok accessToken => .call (.usersMe accessToken) fun reply => .pure (readUser parser reply)

structure Oauth2RedirectParams where
  code : Option String
  error : Option String
  deriving DecidableEq, Repr

def errorStart : List Char :=
  ("<!doctype html>\n<html>\n  <head>\n    <title>Discord OAuth2 Redirect</title>\n" ++
    "    <script>\n" ++
    "      const query = new URLSearchParams(window.location.search);\n" ++
    "      const state = query.get('state');\n      const message = \x7b\n" ++
    "        type: 'error',\n        error: '").toList

/-- The template takes its branch for an error when the error has a text, and shows missing values
as empty ones otherwise. -/
def oauthError (self : AppState) (error : String) : List Char :=
  let value (text : String) := self.handlebars.escape text.toList ++ ['\'']
  if error = "" then oauth self.handlebars ⟨"", "", self.dappDomain, self.verifierDappDomain⟩
  else
    errorStart ++ (value error ++ (afterUsername ++
      (value self.dappDomain ++ (afterDappDomain ++ (value self.verifierDappDomain ++ pageEnd)))))

/-- The handler returns its page, and the values for the session after a login. -/
def OauthState.handleOauthRedirect (parser : Json) (self : OauthState)
    (params : Oauth2RedirectParams) :
    Program DiscordCall (fun _ => DiscordReply) (Except StatusCode (List Char) × Option Session) :=
  match params.code with
  | some code => do
      match ← self.getUser parser code with
      | .error _ => .pure (.error .badRequest, none)
      | .ok user =>
          let (session, page) := makeOauthRedirectResponse self.toAppState user
          .pure (.ok page, some session)
  | none =>
      match params.error with
      | some error => .pure (.ok (oauthError self.toAppState error), none)
      | none => .pure (.error .badRequest, none)

/-- A client without a valid cookie has a new session. -/
def Session.empty : Session := ⟨none, none⟩

/-- A redirect in progress keeps the session that its cookie held. -/
structure Redirect where
  loaded : Session
  program : Program DiscordCall (fun _ => DiscordReply)
    (Except StatusCode (List Char) × Option Session)

/-- The service has signed the cookies, and runs one redirect handler for each request. The
replies of the API are kept with the handler that received them. -/
structure Logins where
  cookies : List Session
  redirects : Nat → Option Redirect
  replies : List (Worker.Sent DiscordCall DiscordReply)

def Logins.start : Logins := ⟨[], fun _ => none, []⟩

def Logins.record (self : Logins) (sent : Worker.Sent DiscordCall DiscordReply) : Logins :=
  { self with replies := self.replies ++ [sent] }

/-- A cookie that the service has not signed holds no session. -/
def Logins.load (self : Logins) (cookie : Option Nat) : Session :=
  (cookie.bind fun index => self.cookies[index]?).getD .empty

/-- A session is stored in a new cookie when the handler has changed it. -/
def Logins.respond (self : Logins) (loaded : Session) : Option Session → Logins
  | none => self
  | some session =>
      if session = loaded then self else { self with cookies := self.cookies ++ [session] }

/-- The handler waits for its next reply, or responds. -/
def Logins.settle (self : Logins) (handler : Nat) (loaded : Session) :
    Program DiscordCall (fun _ => DiscordReply) (Except StatusCode (List Char) × Option Session) →
    Logins
  | .pure (_, session) =>
      Logins.respond { self with redirects := Function.update self.redirects handler none } loaded
        session
  | program =>
      { self with redirects := Function.update self.redirects handler (some ⟨loaded, program⟩) }

/-- What reaches the service: redirects, replies of the API, timeouts, and requests for credentials.
A redirect and a request for a credential may bring any cookie. -/
inductive Request where
  | redirect (handler : Nat) (cookie : Option Nat) (params : Oauth2RedirectParams)
  | reply (handler : Nat) (reply : DiscordReply)
  | timeout (handler : Nat)
  | credential (cookie : Option Nat) (credential : CredentialInfo)

def Logins.step (parser : Json) (state : OauthState) (self : Logins) :
    Request → Logins × Option IssueChannelData
  | .redirect handler cookie params =>
      match self.redirects handler with
      | none =>
          (self.settle handler (self.load cookie) (state.handleOauthRedirect parser params), none)
      | some _ => (self, none)
  | .reply handler reply =>
      match self.redirects handler with
      | some ⟨loaded, .call call next⟩ =>
          ((self.record ⟨handler, call, reply⟩).settle handler loaded (next reply), none)
      | _ => (self, none)
  | .timeout handler =>
      ({ self with redirects := Function.update self.redirects handler none }, none)
  | .credential cookie credential =>
      (self, (issueDiscordCredential (self.load cookie) credential).firstCall)

end Web3Id.SomeIssuer.Discord
