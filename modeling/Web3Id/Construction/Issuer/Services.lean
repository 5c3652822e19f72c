import Web3Id.Construction.Issuer.DiscordLogin
import Web3Id.Construction.Issuer.Node
import Web3Id.Construction.Issuer.TelegramHandler
import Web3Id.Library.Gateway

/-
This file puts the request handlers of the Telegram and Discord issuers in front of their worker.
-/

namespace Web3Id.SomeIssuer

open Library Library.Gateway

/-- The request handlers of an issuer with the worker that they share. -/
abbrev IssuerService (Front : Type) :=
  Service Front IssuerWorker IssueChannelData RegisterCall RegisterReply
    (Except StatusCode IssueResponse)

/-- What happens at an issuer: a request from outside, or a move of its worker and its clients. -/
abbrev IssuerEvent (Request : Type) := ServiceEvent Request Reading IssueChannelData RegisterReply

/-- The handler of the Telegram issuer keeps nothing between its requests. -/
def telegramGateway (digests : Digests) (telegramBotTokens : List String) :
    Gateway Unit TelegramIssueRequest IssueChannelData where
  step _ request := ((), (issueTelegramCredential digests telegramBotTokens request).firstCall)

/-- The handlers of the Discord issuer share the cookies that they have signed. -/
def Discord.gateway (parser : Discord.Json) (state : Discord.OauthState) :
    Gateway Discord.Logins Discord.Request IssueChannelData where
  step := Discord.Logins.step parser state

end Web3Id.SomeIssuer
