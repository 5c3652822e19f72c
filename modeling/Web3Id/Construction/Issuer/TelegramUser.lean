import Web3Id.Construction.Chain

/-
This file is the login data of the Telegram issuer.
-/

namespace Web3Id.SomeIssuer

/-- The login widget hands over this object, and Telegram signs all of it but the hash. -/
structure User where
  id : UInt64
  firstName : String
  lastName : Option String
  username : Option String
  photoUrl : Option String
  authDate : UInt64
  hash : String
  deriving DecidableEq, Repr

/-- A field that is present goes on its own line. -/
def User.dataCheckString (self : User) : String :=
  let buf := s!"auth_date={self.authDate}\n"
  let buf := buf ++ s!"first_name={self.firstName}\n"
  let buf := buf ++ s!"id={self.id}"
  let buf := match self.lastName with
    | some lastName => buf ++ s!"\nlast_name={lastName}"
    | none => buf
  let buf := match self.photoUrl with
    | some photoUrl => buf ++ s!"\nphoto_url={photoUrl}"
    | none => buf
  match self.username with
  | some username => buf ++ s!"\nusername={username}"
  | none => buf

/-- The hash functions are given. -/
structure Digests where
  sha256 : Bytes → Bytes
  hmacSha256 : (key message : Bytes) → Bytes

inductive FromHexError where
  | oddLength
  | invalidHexCharacter (c : UInt8) (index : Nat)
  deriving DecidableEq, Repr

inductive CheckError where
  | hex (error : FromHexError)
  /-- The text is "MAC did not match hash.". -/
  | mac
  deriving DecidableEq, Repr

/-- Digits of either letter case stand for the same number. -/
def hexValue (c : UInt8) (index : Nat) : Except FromHexError UInt8 :=
  if 'A'.toUInt8 ≤ c ∧ c ≤ 'F'.toUInt8 then .ok (c - 'A'.toUInt8 + 10)
  else if 'a'.toUInt8 ≤ c ∧ c ≤ 'f'.toUInt8 then .ok (c - 'a'.toUInt8 + 10)
  else if '0'.toUInt8 ≤ c ∧ c ≤ '9'.toUInt8 then .ok (c - '0'.toUInt8)
  else .error (.invalidHexCharacter c index)

/-- The bytes from an index on are decoded pair by pair. -/
def hexPairs (index : Nat) : Bytes → Except FromHexError Bytes
  | high :: low :: rest => do
      let high ← hexValue high index
      let low ← hexValue low (index + 1)
      return (high * 16 + low) :: (← hexPairs (index + 2) rest)
  | _ => .ok []

/-- The length is checked before the digits. -/
def hexDecode (text : String) : Except FromHexError Bytes :=
  let data := text.toUTF8.data.toList
  if data.length % 2 ≠ 0 then .error .oddLength else hexPairs 0 data

/-- The key of the code is the hash of a token of a bot. -/
def User.check (digests : Digests) (self : User) (telegramBotToken : String) :
    Except CheckError Unit := do
  let key := digests.sha256 telegramBotToken.toUTF8.data.toList
  let macBytes := digests.hmacSha256 key self.dataCheckString.toUTF8.data.toList
  let expected ← (hexDecode self.hash).mapError .hex
  if macBytes = expected then .ok () else .error .mac

end Web3Id.SomeIssuer
