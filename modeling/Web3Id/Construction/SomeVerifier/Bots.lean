import Web3Id.Construction.SomeVerifier.Lookup

/-
This file is the messages in which the two bots report a verification.
-/

namespace Web3Id.SomeVerifier

def credentialStatusMsg : CredentialStatus → String
  | .active => "Credential active"
  | .revoked => "Credential revoked"
  | .expired => "Credential expired"
  | .notActivated => "Credential not yet active"

def FullName.display (fullName : FullName) : String :=
  s!"{fullName.firstName} {fullName.lastName}"

/-- The bots write the same report, each with the markup of its own platform. -/
structure Markup where
  platform : Platform
  escape : String → String
  bullet : String
  strike : String
  opening : String
  closing : String
  stop : String

namespace Markup

def accountText (markup : Markup) (account : Account) : String :=
  match account.credStatus with
  | .active => s!"{account.platform.display}: {markup.escape account.username}"
  | status =>
      s!"{markup.strike}{account.platform.display}: {markup.escape account.username}" ++
        s!"{markup.strike} {markup.opening}{credentialStatusMsg status}{markup.closing}"

def nameText (markup : Markup) : Option FullName → String
  | some fullName => s!"\n{markup.bullet} Real name: {markup.escape fullName.display}"
  | none => ""

/-- The other accounts are listed for users whose own credential is active. -/
def message (markup : Markup) (mention : String) (verification : Verification) : String :=
  match (verification.accounts.find? fun acc => acc.platform = markup.platform).map
      Account.credStatus with
  | some .active =>
      (verification.accounts.filter fun acc => acc.platform ≠ markup.platform).foldl
        (fun message account => message ++ s!"\n{markup.bullet} " ++ markup.accountText account)
        (s!"{mention} is verified with Concordia{markup.stop}" ++
          markup.nameText verification.fullName)
  | some status =>
      s!"{mention} is not verified with Concordia" ++
        s!" {markup.opening}{credentialStatusMsg status}{markup.closing}{markup.stop}"
  | none => s!"{mention} is not verified with Concordia{markup.stop}"

end Markup

/-- A bot requests the verification of a user from the verifier. -/
structure BotConfig where
  request : Platform → String → Except StatusCode Verification

namespace TelegramBot

/-- The library mentions a user by name, or else links to the user. -/
structure User where
  id : Nat
  mentionOrLink : String

structure Message where
  chatId : Int
  id : Int

/-- The text is formatted as MarkdownV2. -/
structure SendMessage where
  chatId : Int
  text : String
  replyToMessageId : Option Int
  deriving DecidableEq, Repr

/-- The reserved characters of the format are escaped. -/
def markup (escape : String → String) : Markup where
  platform := .telegram
  escape := escape
  bullet := "•"
  strike := "~"
  opening := "\\("
  closing := "\\)"
  stop := "\\."

def mention (escape : String → String) (targetUser : User) : String :=
  if targetUser.mentionOrLink.startsWith '@' then escape targetUser.mentionOrLink
  else targetUser.mentionOrLink

/-- An answer with an error status is no verification. -/
def checkUser (cfg : BotConfig) (escape : String → String) (msg : Message) (targetUser : User) :
    SendMessage :=
  match cfg.request .telegram (toString targetUser.id) with
  | .ok verification =>
      ⟨msg.chatId, (markup escape).message (mention escape targetUser) verification, some msg.id⟩
  | .error _ =>
      ⟨msg.chatId, "_Sorry\\. Unable to check verification\\. Try again later\\._", none⟩

end TelegramBot

namespace DiscordBot

structure User where
  id : Nat
  mention : String

/-- Names are not escaped. -/
def markup : Markup where
  platform := .discord
  escape name := name
  bullet := "-"
  strike := "~~"
  opening := "("
  closing := ")"
  stop := "."

/-- A failed command is reported by the error handler of the framework. -/
def check (cfg : BotConfig) (user : User) : String :=
  match cfg.request .discord (toString user.id) with
  | .ok verification => markup.message user.mention verification
  | .error _ => "An error occured, please try again later."

end DiscordBot

end Web3Id.SomeVerifier
