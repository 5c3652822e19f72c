import Mathlib.Data.List.Sort
import Mathlib.Data.String.Basic
import Mathlib.Tactic.Common
import Web3Id.Construction.Issuer.TelegramHandler

namespace Web3Id.SomeIssuer

open Library

/-- The fields that are present, in the order of their declaration. -/
def User.presentFields (self : User) : List (String × String) :=
  [("id", toString self.id), ("first_name", self.firstName)] ++
    self.lastName.toList.map (fun lastName => ("last_name", lastName)) ++
    self.username.toList.map (fun username => ("username", username)) ++
    self.photoUrl.toList.map (fun photoUrl => ("photo_url", photoUrl)) ++
    [("auth_date", toString self.authDate)]

/-- The alphabetical order of the keys. -/
def byKey (one other : String × String) : Bool := one.1 ≤ other.1

/-- The login specification sorts the fields by key and joins their lines. -/
def User.loginString (self : User) : String :=
  "\n".intercalate ((self.presentFields.mergeSort byKey).map
    fun field => field.1 ++ "=" ++ field.2)

/-- The fields in the alphabetical order of their keys. -/
def User.sortedFields (self : User) : List (String × String) :=
  [("auth_date", toString self.authDate), ("first_name", self.firstName),
      ("id", toString self.id)] ++
    self.lastName.toList.map (fun lastName => ("last_name", lastName)) ++
    self.photoUrl.toList.map (fun photoUrl => ("photo_url", photoUrl)) ++
    self.username.toList.map (fun username => ("username", username))

theorem User.sortedFields_perm (self : User) : self.sortedFields.Perm self.presentFields := by
  rw [List.perm_iff_count]
  intro field
  simp only [sortedFields, presentFields, List.count_append, List.count_cons, List.count_nil]
  omega

/-- The keys are in alphabetical order. -/
theorem User.sortedFields_sorted (self : User) :
    self.sortedFields.Pairwise fun one other => one.1 < other.1 := by
  have keys : (self.sortedFields.map Prod.fst).Sublist
      ["auth_date", "first_name", "id", "last_name", "photo_url", "username"] := by
    obtain ⟨id, firstName, lastName, username, photoUrl, authDate, hash⟩ := self
    cases lastName <;> cases photoUrl <;> cases username <;> simp [sortedFields]
  have ordered : ["auth_date", "first_name", "id", "last_name", "photo_url", "username"].Pairwise
      (· < ·) := by decide
  exact List.pairwise_map.mp (ordered.sublist keys)

/-- Sorting gives the fields in this order. -/
theorem User.mergeSort_presentFields (self : User) :
    self.presentFields.mergeSort byKey = self.sortedFields := by
  have sorted : (self.presentFields.mergeSort byKey).Pairwise fun one other => byKey one other :=
    List.pairwise_mergeSort (fun _ _ _ => by simpa [byKey] using le_trans)
      (fun one other => by simpa [byKey] using le_total one.1 other.1) _
  have same := (List.mergeSort_perm self.presentFields byKey).trans self.sortedFields_perm.symm
  have keys : (self.sortedFields.map Prod.fst).Nodup :=
    (List.pairwise_map.mpr self.sortedFields_sorted).imp ne_of_lt
  refine same.eq_of_pairwise ?_ (sorted.imp of_decide_eq_true)
    (self.sortedFields_sorted.imp le_of_lt)
  intro one other member listed below above
  exact List.inj_on_of_nodup_map keys (same.mem_iff.mp member) listed (le_antisymm below above)

/-- The string of the code is the string of the specification. -/
theorem User.dataCheckString_eq (self : User) : self.dataCheckString = self.loginString := by
  rw [loginString, mergeSort_presentFields]
  obtain ⟨id, firstName, lastName, username, photoUrl, authDate, hash⟩ := self
  have texts : ∀ text : String, toString text = text := fun _ => rfl
  apply String.toList_inj.mp
  cases lastName <;> cases photoUrl <;> cases username <;>
    simp [sortedFields, dataCheckString, texts]

/-- A digit in lower case. -/
def hexDigit (value : UInt8) : UInt8 :=
  if value < 10 then '0'.toUInt8 + value else 'a'.toUInt8 - 10 + value

/-- Each byte is written with two digits in lower case. -/
def hexEncode (bytes : Bytes) : Bytes :=
  bytes.flatMap fun byte => [hexDigit (byte / 16), hexDigit (byte % 16)]

/-- The letters of the text in lower case. -/
def lowerCase (text : Bytes) : Bytes :=
  text.map fun c => if 'A'.toUInt8 ≤ c ∧ c ≤ 'Z'.toUInt8 then c + 32 else c

/-- A character has a value when its lower case is the digit of that value. -/
theorem hexValue_iff (c value : UInt8) (index : Nat) :
    hexValue c index = .ok value ↔ value < 16 ∧ lowerCase [c] = [hexDigit value] := by
  have letters : 'A'.toUInt8 = 65 ∧ 'F'.toUInt8 = 70 ∧ 'Z'.toUInt8 = 90 ∧ 'a'.toUInt8 = 97 ∧
      'f'.toUInt8 = 102 ∧ '0'.toUInt8 = 48 ∧ '9'.toUInt8 = 57 := by decide
  obtain ⟨A, F, Z, a, f, zero, nine⟩ := letters
  simp only [hexValue, lowerCase, hexDigit, List.map_cons, List.map_nil, List.cons.injEq, and_true,
    A, F, Z, a, f, zero, nine]
  split_ifs <;>
    simp only [Except.ok.injEq, false_iff, ← UInt8.toNat_inj, UInt8.le_iff_toNat_le,
      UInt8.lt_iff_toNat_lt, UInt8.toNat_add, UInt8.toNat_sub, UInt8.toNat_ofNat] at * <;> omega

/-- The two digits of a byte are its halves. -/
theorem byte_digits {high low : UInt8} (one : high < 16) (other : low < 16) :
    (high * 16 + low) / 16 = high ∧ (high * 16 + low) % 16 = low := by
  simp only [← UInt8.toNat_inj, UInt8.lt_iff_toNat_lt, UInt8.toNat_div, UInt8.toNat_mod,
    UInt8.toNat_add, UInt8.toNat_mul, UInt8.toNat_ofNat, Nat.reducePow, Nat.reduceMod] at *
  omega

theorem byte_halves (byte : UInt8) :
    byte / 16 < 16 ∧ byte % 16 < 16 ∧ byte / 16 * 16 + byte % 16 = byte := by
  have bound := byte.toNat_lt
  simp only [← UInt8.toNat_inj, UInt8.lt_iff_toNat_lt, UInt8.toNat_div, UInt8.toNat_mod,
    UInt8.toNat_add, UInt8.toNat_mul, UInt8.toNat_ofNat, Nat.reducePow, Nat.reduceMod] at *
  omega

theorem hexEncode_cons (byte : UInt8) (bytes : Bytes) :
    hexEncode (byte :: bytes) = hexDigit (byte / 16) :: hexDigit (byte % 16) :: hexEncode bytes :=
  rfl

theorem lowerCase_cons (c : UInt8) (text : Bytes) :
    lowerCase (c :: text) = lowerCase [c] ++ lowerCase text := rfl

/-- Pairs of digits decode to the bytes that they write, in either letter case. -/
theorem hexPairs_iff (index : Nat) (data bytes : Bytes) (even : data.length % 2 = 0) :
    hexPairs index data = .ok bytes ↔ lowerCase data = hexEncode bytes := by
  induction index, data using hexPairs.induct generalizing bytes with
  | case1 index high low rest ih =>
      have shorter : rest.length % 2 = 0 := by
        simp only [List.length_cons] at even
        omega
      constructor
      · intro decoded
        cases first : hexValue high index with
        | error error => simp [hexPairs, first, bind, Except.bind] at decoded
        | ok one =>
            cases second : hexValue low (index + 1) with
            | error error => simp [hexPairs, first, second, bind, Except.bind] at decoded
            | ok other =>
                cases more : hexPairs (index + 2) rest with
                | error error =>
                    simp [hexPairs, first, second, more, bind, Except.bind] at decoded
                | ok others =>
                    simp only [hexPairs, first, second, more, bind, Except.bind, pure,
                      Except.pure, Except.ok.injEq] at decoded
                    obtain ⟨small, digit⟩ := (hexValue_iff _ _ _).mp first
                    obtain ⟨little, unit⟩ := (hexValue_iff _ _ _).mp second
                    obtain ⟨half, remainder⟩ := byte_digits small little
                    rw [← decoded, hexEncode_cons, half, remainder, lowerCase_cons,
                      lowerCase_cons low, digit, unit, (ih _ shorter).mp more]
                    rfl
      · intro written
        cases bytes with
        | nil => cases written
        | cons byte bytes =>
            obtain ⟨small, little, whole⟩ := byte_halves byte
            rw [lowerCase_cons, lowerCase_cons low, hexEncode_cons] at written
            have digit : lowerCase [high] = [hexDigit (byte / 16)] :=
              congrArg (fun text => [text]) (List.cons.inj written).1
            have unit : lowerCase [low] = [hexDigit (byte % 16)] :=
              congrArg (fun text => [text]) (List.cons.inj (List.cons.inj written).2).1
            have more := (List.cons.inj (List.cons.inj written).2).2
            have first := (hexValue_iff high _ index).mpr ⟨small, digit⟩
            have second := (hexValue_iff low _ (index + 1)).mpr ⟨little, unit⟩
            have others := (ih _ shorter).mpr more
            simp only [hexPairs, first, second, others, bind, Except.bind, pure, Except.pure, whole]
  | case2 data index short =>
      have empty : data = [] := by
        match data with
        | [] => rfl
        | [_] => cases even
        | high :: low :: rest => exact absurd rfl (short high low rest)
      subst empty
      cases bytes with
      | nil => simp [hexPairs, lowerCase, hexEncode]
      | cons byte bytes => simp [hexPairs, lowerCase, hexEncode]

/-- A text decodes exactly to the bytes whose encoding it is, in either letter case. -/
theorem hexDecode_iff (text : String) (bytes : Bytes) :
    hexDecode text = .ok bytes ↔ lowerCase text.toUTF8.data.toList = hexEncode bytes := by
  unfold hexDecode
  simp only
  split
  · rename_i odd
    constructor
    · intro decoded
      cases decoded
    · intro written
      have length := congrArg List.length written
      simp [lowerCase, hexEncode] at length odd
      omega
  · rename_i even
    exact hexPairs_iff 0 _ bytes (by omega)

/-- The hash field is the code of the login string under the hash of the token. -/
def User.Authentic (digests : Digests) (self : User) (token : String) : Prop :=
  lowerCase self.hash.toUTF8.data.toList =
    hexEncode (digests.hmacSha256 (digests.sha256 token.toUTF8.data.toList)
      self.loginString.toUTF8.data.toList)

theorem User.check_iff (digests : Digests) (self : User) (token : String) :
    (self.check digests token).isOk = true ↔ self.Authentic digests token := by
  rw [Authentic, ← hexDecode_iff, ← dataCheckString_eq]
  cases decoded : hexDecode self.hash with
  | error error => simp [check, decoded, Except.mapError, bind, Except.bind, Except.isOk,
      Except.toBool]
  | ok expected =>
      simp only [check, decoded, Except.mapError, bind, Except.bind, Except.ok.injEq]
      split
      · rename_i same
        simpa [Except.isOk, Except.toBool] using same.symm
      · rename_i different
        simpa [Except.isOk, Except.toBool] using Ne.symm different

/-- A job is handed to the worker exactly for an authentic user with a username, and it carries the
decimal id and the username of that user. -/
theorem issueTelegramCredential_authenticates (digests : Digests) (telegramBotTokens : List String)
    (request : TelegramIssueRequest) (job : IssueChannelData) :
    (issueTelegramCredential digests telegramBotTokens request).firstCall = some job ↔
      (∃ token ∈ telegramBotTokens, request.telegramUser.Authentic digests token) ∧
        request.telegramUser.username = some job.username ∧
        job.userId = toString request.telegramUser.id ∧ job.credential = request.credential := by
  obtain ⟨credential, userId, username⟩ := job
  have tokens : (telegramBotTokens.all fun token =>
      !(request.telegramUser.check digests token).isOk) = false ↔
        ∃ token ∈ telegramBotTokens, request.telegramUser.Authentic digests token := by
    simp [List.all_eq_false, User.check_iff]
  rw [← tokens]
  unfold issueTelegramCredential
  cases all : telegramBotTokens.all fun token =>
      !(request.telegramUser.check digests token).isOk with
  | true => simp [Program.firstCall]
  | false =>
      cases named : request.telegramUser.username with
      | none => simp [Program.firstCall]
      | some present =>
          simp [sendTx, Program.firstCall]
          tauto

end Web3Id.SomeIssuer
