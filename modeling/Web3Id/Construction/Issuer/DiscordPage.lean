import Web3Id.Construction.Issuer.TelegramHandler
import Web3Id.Library.EscapedLiteral

/-
This file is the login page of the Discord issuer.
-/

namespace Web3Id.SomeIssuer.Discord

open Library Library.StringLiteral

structure User where
  id : String
  username : String
  discriminator : String
  deriving DecidableEq, Repr

/-- The session keeps the values of the last login. -/
structure Session where
  discordId : Option String
  discordUsername : Option String
  deriving DecidableEq, Repr

/-- The template engine escapes what it puts into the page. -/
structure AppState where
  handlebars : Escaper
  dappDomain : String
  verifierDappDomain : String

/-- A user without a unique name has a discriminator. -/
def User.storedUsername (user : User) : String :=
  if user.discriminator = "0" then user.username
  else user.username ++ "#" ++ user.discriminator

structure OauthTemplateParams where
  id : String
  username : String
  dappDomain : String
  verifierDappDomain : String
  deriving DecidableEq, Repr

/-- The fixed text of the template, around its four values. -/
def pageStart : List Char :=
  ("<!doctype html>\n<html>\n  <head>\n    <title>Discord OAuth2 Redirect</title>\n" ++
    "    <script>\n" ++
    "      const query = new URLSearchParams(window.location.search);\n" ++
    "      const state = query.get('state');\n      const message = \x7b\n" ++
    "        type: 'success',\n        userId: '").toList

def afterId : List Char := ",\n        username: '".toList

def afterUsername : List Char :=
  ",\n        state,\n      \x7d;\n      window.opener.postMessage(message, '".toList

def afterDappDomain : List Char :=
  ");\n      window.opener.postMessage(message, '".toList

def pageEnd : List Char :=
  ");\n      window.close();\n    </script>\n  </head>\n  <body></body>\n</html>\n".toList

/-- Without an error, the template shows its branch for a success. -/
def oauth (handlebars : Escaper) (params : OauthTemplateParams) : List Char :=
  let value (text : String) := handlebars.escape text.toList ++ ['\'']
  pageStart ++ (value params.id ++ (afterId ++ (value params.username ++ (afterUsername ++
    (value params.dappDomain ++ (afterDappDomain ++
      (value params.verifierDappDomain ++ pageEnd)))))))

def makeOauthRedirectResponse (self : AppState) (user : User) : Session × List Char :=
  let username := user.storedUsername
  (⟨some user.id, some username⟩,
    oauth self.handlebars ⟨user.id, username, self.dappDomain, self.verifierDappDomain⟩)

/-- The page gives the values to the frontend as strings of JavaScript. -/
structure Message where
  userId : List Nat
  username : List Nat
  deriving DecidableEq, Repr

/-- The text goes on with what is expected. -/
def expect (expected text : List Char) : Option (List Char) :=
  if expected <+: text then some (text.drop expected.length) else none

/-- A script runs only when the whole of it can be read. -/
def posted (page : List Char) : Option Message := do
  let rest ← expect pageStart page
  let (userId, rest) ← read .plain rest
  let rest ← expect afterId rest
  let (username, rest) ← read .plain rest
  let rest ← expect afterUsername rest
  let (_, rest) ← read .plain rest
  let rest ← expect afterDappDomain rest
  let (_, rest) ← read .plain rest
  let _ ← expect pageEnd rest
  return ⟨userId, username⟩

/-- The login data comes from the session. -/
def issueDiscordCredential (session : Session) (credential : CredentialInfo) :
    Program IssueChannelData (fun _ => WorkerReply) (Except StatusCode IssueResponse) :=
  match session.discordId with
  | none => .pure (.error .badRequest)
  | some userId =>
      match session.discordUsername with
      | none => .pure (.error .badRequest)
      | some username => sendTx credential userId username

end Web3Id.SomeIssuer.Discord
