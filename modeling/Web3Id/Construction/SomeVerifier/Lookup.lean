import Web3Id.Construction.SomeVerifier.Server

/-
This file is the endpoint of the social media verifier that looks up one user.
-/

namespace Web3Id.SomeVerifier

open Library

structure Account where
  platform : Platform
  username : String
  credStatus : CredentialStatus
  deriving DecidableEq, Repr

structure Verification where
  accounts : List Account
  fullName : Option FullName
  deriving DecidableEq, Repr

def Verification.default : Verification := ⟨[], none⟩

def discordApiEndpoint : String := "https://discord.com/api/v10"

structure DiscordUser where
  username : String
  discriminator : String
  deriving DecidableEq, Repr

/-- Usernames with a discriminator are shown with it, and the others have the discriminator 0. -/
def DiscordUser.display (user : DiscordUser) : String :=
  if user.discriminator = "0" then user.username else s!"{user.username}#{user.discriminator}"

/-- The endpoint asks Discord for a user, and the node for the status of a credential. -/
inductive LookupCall where
  | discordUser (url authorization : String)
  | credentialStatus (query : StatusQuery)
  deriving DecidableEq, Repr

abbrev LookupCall.Reply : LookupCall → Type
  | .discordUser _ _ => Except String DiscordUser
  | .credentialStatus _ => Except QueryError CredentialStatus

inductive LookupError where
  | discord (text : String)
  | credentialStatus (error : StatusError)
  deriving DecidableEq, Repr

abbrev Lookup (A : Type) := Program LookupCall LookupCall.Reply A

/-- The current name of a Discord user is read from Discord. -/
def getUsername (discordBotToken : String) (account : DbAccount) :
    Lookup (Except LookupError String) :=
  match account.platform with
  | .telegram => .pure (.ok account.username)
  | .discord =>
      .call (.discordUser s!"{discordApiEndpoint}/users/{account.id}" s!"Bot {discordBotToken}") fun
        | .error e => .pure (.error (.discord e))
        | .ok user => .pure (.ok user.display)

namespace AppState

/-- An account is shown if both lookups for it succeed. -/
def lookUp (sdk : Sdk) (self : AppState) (discordBotToken : String) (proof : Presentation)
    (account : DbAccount) : Lookup (Except LookupError Account) := do
  match ← getUsername discordBotToken account with
  | .error e => return .error e
  | .ok username =>
      match ← (self.getCredentialStatus sdk account proof).hoist .credentialStatus
          (fun _ reply => reply) with
      | .error e => return .error (.credentialStatus e)
      | .ok credStatus => return .ok ⟨account.platform, username, credStatus⟩

/-- The accounts that cannot be looked up are left out. -/
def getVerification (sdk : Sdk) (self : AppState) (discordBotToken : String) (tables : Tables)
    (platform : Platform) (id : String) : Lookup (Except StatusCode Verification) :=
  match SomeVerifier.getVerification sdk tables id platform with
  | .ok (some verification) => do
      let results ← Program.joinAll
        (verification.accounts.map (self.lookUp sdk discordBotToken verification.presentation))
      return .ok ⟨results.filterMap Except.toOption, verification.fullName⟩
  | .ok none => return .ok .default
  | .error _ => return .error .internalServerError

end AppState

end Web3Id.SomeVerifier
