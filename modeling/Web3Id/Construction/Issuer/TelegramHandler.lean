import Web3Id.Construction.Issuer.SomeIssuer
import Web3Id.Construction.Issuer.TelegramUser

/-
This file is the request handler of the Telegram issuer.
-/

namespace Web3Id.SomeIssuer

open Library

/-- The worker task may have died before or after it took the job. -/
inductive WorkerReply where
  | closed
  | dropped
  | answered (result : Except StatusCode IssueResponse)

/-- Both issuers hand their jobs to the worker here. -/
def sendTx (credential : CredentialInfo) (userId username : String) :
    Program IssueChannelData (fun _ => WorkerReply) (Except StatusCode IssueResponse) :=
  .call ⟨credential, userId, username⟩ fun
    | .closed => .pure (.error .internalServerError)
    | .answered result => .pure result
    | .dropped => .pure (.error .internalServerError)

/-- The login data comes in the request. -/
structure TelegramIssueRequest where
  credential : CredentialInfo
  telegramUser : User
  deriving DecidableEq, Repr

def issueTelegramCredential (digests : Digests) (telegramBotTokens : List String)
    (request : TelegramIssueRequest) :
    Program IssueChannelData (fun _ => WorkerReply) (Except StatusCode IssueResponse) :=
  if telegramBotTokens.all fun token => !(request.telegramUser.check digests token).isOk then
    .pure (.error .badRequest)
  else
    match request.telegramUser.username with
    | none => .pure (.error .badRequest)
    | some username =>
        sendTx request.credential (toString request.telegramUser.id) username

end Web3Id.SomeIssuer
