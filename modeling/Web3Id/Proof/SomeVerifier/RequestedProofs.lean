import Web3Id.Construction.SomeVerifier.VerifyPage
import Web3Id.Construction.Issuer.SomeIssuer
import Web3Id.Proof.Issuer.TelegramAuthentication
import Web3Id.Proof.SomeVerifier.IdentityBinding

namespace Web3Id.SomeVerifier

open ProofExplorer (bigInt digits digitValue trim isWhiteSpace)

section Numbers

theorem digitValue_isDigit {c : Char} (digit : c.isDigit = true) :
    digitValue 10 c = some (c.toNat - '0'.toNat) := by
  have range : '0' ≤ c ∧ c ≤ '9' := by
    simpa [Char.isDigit, Char.le_def] using digit
  have small : c.toNat - '0'.toNat < 10 := by
    have above : c.toNat ≤ '9'.toNat := range.2
    change c.toNat - 48 < 10
    change c.toNat ≤ 57 at above
    omega
  simp only [digitValue, range, and_self, if_true]
  exact Option.filter_eq_some_iff.mpr ⟨rfl, decide_eq_true small⟩

/-- Digits are read one after the other. -/
theorem digits_isDigit {text : List Char} (all : ∀ c ∈ text, c.isDigit = true)
    (nonempty : text ≠ []) : digits 10 text = some (Nat.ofDigitChars 10 text 0) := by
  have fold : ∀ start, text.foldlM (fun value c => (digitValue 10 c).map (value * 10 + ·)) start =
      some (Nat.ofDigitChars 10 text start) := by
    clear nonempty
    induction text with
    | nil => intro start; rfl
    | cons c text ih =>
        intro start
        have first := digitValue_isDigit (all c List.mem_cons_self)
        rw [List.foldlM_cons, first, Nat.ofDigitChars_cons, Nat.mul_comm 10]
        exact ih (fun other member => all other (List.mem_cons_of_mem _ member)) _
  rw [digits, if_neg (by simpa using nonempty), fold]

theorem isDigit_toNat {c : Char} (digit : c.isDigit = true) : 48 ≤ c.toNat ∧ c.toNat ≤ 57 := by
  have range : '0' ≤ c ∧ c ≤ '9' := by
    simpa [Char.isDigit, Char.le_def] using digit
  exact range

theorem isWhiteSpace_isDigit {c : Char} (digit : c.isDigit = true) : isWhiteSpace c = false := by
  obtain ⟨low, high⟩ := isDigit_toNat digit
  simp only [isWhiteSpace, Bool.or_eq_false_iff, Bool.and_eq_false_iff, decide_eq_false_iff_not,
    List.contains_eq_mem, List.mem_cons, List.not_mem_nil, or_false]
  omega

/-- Digits have no white space around them. -/
theorem trim_isDigit {text : List Char} (all : ∀ c ∈ text, c.isDigit = true) : trim text = text := by
  have kept : ∀ {other : List Char}, (∀ c ∈ other, c.isDigit = true) →
      other.dropWhile isWhiteSpace = other := by
    intro other digits
    cases other with
    | nil => rfl
    | cons c rest =>
        rw [List.dropWhile_cons_of_neg]
        simp [isWhiteSpace_isDigit (digits c List.mem_cons_self)]
  rw [trim, kept all, kept (fun c member => all c (List.mem_reverse.mp member)), List.reverse_reverse]

/-- A text of digits has neither a sign nor the prefix of another radix. -/
theorem bigInt_isDigit {text : String} (all : ∀ c ∈ text.toList, c.isDigit = true)
    (nonempty : text.toList ≠ []) :
    bigInt text = some (Int.ofNat (Nat.ofDigitChars 10 text.toList 0)) := by
  have decimal := digits_isDigit all nonempty
  unfold bigInt
  rw [trim_isDigit all]
  generalize text.toList = number at all nonempty decimal
  split
  · exact absurd rfl nonempty
  iterate 2
    · exact absurd (all _ List.mem_cons_self) (by decide)
  iterate 6
    · exact absurd (all _ (List.mem_cons_of_mem _ List.mem_cons_self)) (by decide)
  · rw [decimal]
    rfl

/-- A number that is printed is read again. -/
theorem bigInt_toString (number : Nat) : bigInt (toString number) = some (Int.ofNat number) := by
  have shown : (toString number).toList = Nat.toDigits 10 number := by simp
  rw [bigInt_isDigit, shown, Nat.ofDigitChars_ten_toDigits]
  · intro c member
    rw [shown] at member
    exact Nat.isDigit_of_mem_toDigits (by decide) (by decide) member
  · rw [shown]
    exact Nat.toDigits_ne_nil

end Numbers

/-- The digits of a byte are in lower case, and each is one byte of the encoded text. -/
theorem hexByte_utf8 (byte : UInt8) :
    (hexByte byte).flatMap String.utf8EncodeChar = SomeIssuer.hexEncode [byte] ∧
      SomeIssuer.lowerCase (SomeIssuer.hexEncode [byte]) = SomeIssuer.hexEncode [byte] := by
  have all : ∀ value : Fin 256,
      (hexByte (.ofFin value)).flatMap String.utf8EncodeChar =
          SomeIssuer.hexEncode [.ofFin value] ∧
        SomeIssuer.lowerCase (SomeIssuer.hexEncode [.ofFin value]) =
          SomeIssuer.hexEncode [.ofFin value] := by decide +kernel
  exact all byte.toFin

/-- The digest is read back from its digits. -/
theorem hexDecode_hash (digest : String → Bytes) (message : String) :
    SomeIssuer.hexDecode (hash digest message) = .ok (digest message) := by
  rw [SomeIssuer.hexDecode_iff, String.toUTF8_eq_toByteArray, hash, String.toByteArray_ofList,
    List.utf8Encode, List.data_toByteArray]
  induction digest message with
  | nil => rfl
  | cons byte bytes ih =>
      obtain ⟨encoded, lower⟩ := hexByte_utf8 byte
      rw [List.flatMap_cons, List.flatMap_append, encoded]
      change SomeIssuer.lowerCase (SomeIssuer.hexEncode [byte] ++ _) = _
      rw [SomeIssuer.lowerCase, List.map_append]
      exact congrArg₂ (· ++ ·) lower ih

/-- An address that the server prints is the address that the page reads. -/
theorem PageAddress.create_toNat (address : ContractAddress) :
    PageAddress.create (Int.ofNat address.index.toNat) (Int.ofNat address.subindex.toNat) =
      some (pageAddress address) :=
  if_pos ⟨Int.natCast_nonneg _, Int.natCast_nonneg _, Nat.le_of_lt address.index.toNat_lt,
    Nat.le_of_lt address.subindex.toNat_lt⟩

/-- Different contracts have different addresses in the page. -/
theorem pageAddress_injective {first second : ContractAddress}
    (same : pageAddress first = pageAddress second) : first = second := by
  obtain ⟨index, subindex⟩ := PageAddress.mk.inj same
  cases first
  cases second
  exact congrArg₂ ContractAddress.mk (UInt64.toNat_inj.mp index) (UInt64.toNat_inj.mp subindex)

/-- The page asks for a credential of the registry that the server accepts. -/
theorem AppState.frontendConfig_query (self : AppState)
    (telegramIssuerUrl discordIssuerUrl : String) (platform : Platform) (options : ProofOptions) :
    ((self.frontendConfig telegramIssuerUrl discordIssuerUrl).issuers platform).query options =
      some (.verifiable [pageAddress (self.registry platform)] options.attributes) := by
  cases platform <;>
    simp [frontendConfig, registry, IssuerConfig.query, bigInt_toString,
      PageAddress.create_toNat, -Int.ofNat_eq_natCast, -Nat.toString_eq_repr]

section Answers

/-- The proof reveals the value of the attribute in the statement. -/
inductive Opens {Tag : Type} (values : List (Tag × Web3IdAttribute)) :
    AtomicStatement Tag → StatementWithProof Tag → Prop
  | reveal {tag : Tag} {value : Web3IdAttribute} (held : (tag, value) ∈ values) (proof : Bytes) :
      Opens values (.revealAttribute tag) (.revealAttribute tag, .revealAttribute value proof)

/-- The wallet answers with a credential of a listed issuer, and follows the statement. The
attributes of an identity are texts, and those of a registry are as its issuer has signed them. -/
inductive Answers (network : Network) : CredentialQuery → CredentialProof → Prop
  | verifiable {issuers : List PageAddress} {contract : ContractAddress}
      (listed : pageAddress contract ∈ issuers) {statement : List (AtomicStatement String)}
      {proofs : List (StatementWithProof String)} {userId username : String}
      (opens : List.Forall₂ (Opens (SomeIssuer.attributes userId username)) statement proofs)
      (created : DateTime) (holder : CredentialHolderId) (types : List String)
      (commitments : Bytes) :
      Answers network (.verifiable issuers statement)
        (.web3Id created holder network contract types commitments proofs)
  | identity {issuers : List UInt32} {issuer : UInt32} (listed : issuer ∈ issuers)
      {statement : List (AtomicStatement AttributeTag)}
      {proofs : List (StatementWithProof AttributeTag)}
      {values : List (AttributeTag × Web3IdAttribute)}
      (texts : ∀ entry ∈ values, ∃ text, entry.2 = .string text)
      (opens : List.Forall₂ (Opens values) statement proofs) (created : DateTime)
      (credId : Bytes) :
      Answers network (.identity issuers statement) (.account created network credId issuer proofs)

/-- A presentation of the wallet for a challenge and some statements. -/
structure Presents (network : Network) (challenge : String) (queries : List CredentialQuery)
    (proof : Presentation) : Prop where
  context : SomeIssuer.hexDecode challenge = .ok proof.presentationContext
  answers : List.Forall₂ (Answers network) queries proof.verifiableCredential

/-- The credential of the registry reveals both values of the slot, each under its own tag. -/
inductive Discloses (self : AppState) (platform : Platform) :
    CredentialProof → PlatformEntry → Prop
  | web3Id (slot : PlatformEntry) {created : DateTime} {network : Network} {types : List String}
      {commitments : Bytes} {proofs : List (StatementWithProof String)}
      (revealed : AppState.platformAttributes proofs = some (slot.id, slot.username))
      (userId : Reveals proofs "userId" slot.id) (username : Reveals proofs "username" slot.username) :
      Discloses self platform
        (.web3Id created slot.credId network (self.registry platform) types commitments proofs) slot

/-- The account credential reveals the first name and the last name. -/
inductive DisclosesName : CredentialProof → FullName → Prop
  | account (name : FullName) {created : DateTime} {network : Network} {credId : Bytes}
      {issuer : UInt32} {first last : Bytes} :
      DisclosesName (.account created network credId issuer
        [(.revealAttribute .firstName, .revealAttribute (.string name.firstName) first),
          (.revealAttribute .lastName, .revealAttribute (.string name.lastName) last)]) name

variable {self : AppState} {network : Network} {platform : Platform}
  {credential : CredentialProof} {entry : VerificationsEntry}

theorem AppState.getPlatformForContract_self (distinct : self.telegramRegistry ≠ self.discordRegistry)
    (platform : Platform) : self.getPlatformForContract (self.registry platform) = .ok platform := by
  cases platform with
  | telegram => exact if_pos rfl
  | discord => rw [getPlatformForContract, registry, if_neg distinct.symm, if_pos rfl]

/-- The values of a registry credential have the names of their attributes. -/
theorem attributes_mem {userId username tag : String} {value : Web3IdAttribute}
    (held : (tag, value) ∈ SomeIssuer.attributes userId username) :
    (tag = "userId" ∧ value = .string userId) ∨ (tag = "username" ∧ value = .string username) := by
  simpa [SomeIssuer.attributes] using held

/-- The answer for a platform reveals its two values in order. -/
theorem Answers.discloses
    (answers : Answers network (.verifiable [pageAddress (self.registry platform)]
      [.revealAttribute "userId", .revealAttribute "username"]) credential) :
    ∃ slot, Discloses self platform credential slot := by
  cases answers with
  | @verifiable _ contract listed _ proofs userId username opens created holder types commitments =>
      cases pageAddress_injective (List.mem_singleton.mp listed)
      cases opens with
      | cons first rest =>
          cases rest with
          | cons second rest =>
              cases rest
              cases first with
              | reveal held firstProof =>
                  cases second with
                  | reveal holds secondProof =>
                      rcases attributes_mem held with ⟨-, rfl⟩ | ⟨same, -⟩
                      · rcases attributes_mem holds with ⟨same, -⟩ | ⟨-, rfl⟩
                        · exact absurd same (by decide)
                        · exact ⟨_, .web3Id ⟨userId, holder, username⟩ rfl
                            ⟨firstProof, List.mem_cons_self⟩
                            ⟨secondProof, List.mem_cons_of_mem _ List.mem_cons_self⟩⟩
                      · exact absurd same (by decide)

/-- The answer for an identity reveals its two names in order. -/
theorem Answers.disclosesName {issuers : List UInt32}
    (answers : Answers network
      (.identity issuers [.revealAttribute .firstName, .revealAttribute .lastName]) credential) :
    ∃ name, DisclosesName credential name := by
  cases answers with
  | identity listed texts opens created credId =>
      cases opens with
      | cons first rest =>
          cases rest with
          | cons second rest =>
              cases rest
              cases first with
              | reveal held firstProof =>
                  cases second with
                  | reveal holds secondProof =>
                      obtain ⟨firstName, rfl⟩ := texts _ held
                      obtain ⟨lastName, rfl⟩ := texts _ holds
                      exact ⟨_, .account ⟨firstName, lastName⟩⟩

/-- The server fills the empty slot of the platform. -/
theorem Discloses.fills {slot : PlatformEntry} (discloses : Discloses self platform credential slot)
    (distinct : self.telegramRegistry ≠ self.discordRegistry)
    (empty : entry.platformEntry platform = none) :
    self.proofToVerificationsEntry entry credential = .ok (entry.withSlot slot platform) := by
  cases discloses with
  | web3Id slot revealed userId username =>
      simp only [AppState.proofToVerificationsEntry, revealed,
        AppState.getPlatformForContract_self distinct]
      cases platform with
      | telegram =>
          change entry.telegram = none at empty
          simp [AppState.fillPlatform, empty, VerificationsEntry.withSlot]
      | discord =>
          change entry.discord = none at empty
          simp [AppState.fillPlatform, empty, VerificationsEntry.withSlot]

/-- The server fills the empty name. -/
theorem DisclosesName.fills {name : FullName} (discloses : DisclosesName credential name)
    (empty : entry.fullName = none) :
    self.proofToVerificationsEntry entry credential = .ok { entry with fullName := some name } := by
  cases discloses with
  | account name =>
      have differs : AttributeTag.lastName ≠ AttributeTag.firstName := by decide
      simp [AppState.proofToVerificationsEntry, AppState.refusesLength, AppState.readNames, empty,
        differs]

end Answers

section Entries

/-- What the switches ask for is what the entry has, each from a credential of the presentation. -/
structure Verify.Checked.Enters (checked : Verify.Checked) (sdk : Sdk) (self : AppState)
    (proof : Presentation) (entry : VerificationsEntry) : Prop where
  asked : ∀ platform, (entry.platformEntry platform).isSome = checked.platform platform
  disclosed : ∀ platform slot, entry.platformEntry platform = some slot →
    ∃ credential ∈ proof.verifiableCredential, Discloses self platform credential slot
  nameAsked : entry.fullName.isSome = checked.fullName
  nameDisclosed : ∀ name, entry.fullName = some name →
    ∃ credential ∈ proof.verifiableCredential, DisclosesName credential name
  presentation : entry.presentation = sdk.toValue proof

/-- A switch that is off asks for nothing, and one that is on has one answer. -/
theorem answers_switch {network : Network} {isOn : Bool} {query : CredentialQuery}
    {credentials : List CredentialProof}
    (answers : List.Forall₂ (Answers network) (if isOn then [query] else []) credentials) :
    (isOn = false ∧ credentials = []) ∨
      (isOn = true ∧ ∃ credential, credentials = [credential] ∧
        Answers network query credential) := by
  cases isOn with
  | false =>
      cases answers
      exact .inl ⟨rfl, rfl⟩
  | true =>
      cases answers with
      | cons answer rest =>
          cases rest
          exact .inr ⟨rfl, _, rfl, answer⟩

variable {self : AppState} {network : Network} {entry : VerificationsEntry}
  {credentials : List CredentialProof}

/-- The server follows the switch of a platform whose slot is empty. -/
theorem enters_platform (distinct : self.telegramRegistry ≠ self.discordRegistry) {isOn : Bool}
    {platform : Platform}
    (answers : List.Forall₂ (Answers network)
      (if isOn then [.verifiable [pageAddress (self.registry platform)]
        [.revealAttribute "userId", .revealAttribute "username"]] else []) credentials)
    (empty : entry.platformEntry platform = none) :
    ∃ after, credentials.foldlM self.proofToVerificationsEntry entry = .ok after ∧
      (after.platformEntry platform).isSome = isOn ∧
      (∀ slot, after.platformEntry platform = some slot →
        ∃ credential ∈ credentials, Discloses self platform credential slot) ∧
      (∀ other, other ≠ platform → after.platformEntry other = entry.platformEntry other) ∧
      after.fullName = entry.fullName ∧ after.presentation = entry.presentation := by
  rcases answers_switch answers with ⟨rfl, rfl⟩ | ⟨rfl, credential, rfl, answer⟩
  · exact ⟨entry, rfl, by rw [empty]; rfl, by simp [empty], fun _ _ => rfl, rfl, rfl⟩
  · obtain ⟨slot, discloses⟩ := answer.discloses
    have filled := discloses.fills distinct empty
    refine ⟨entry.withSlot slot platform, ?_, by simp, ?_,
      fun other different => entry.withSlot_other slot different, ?_, by simp⟩
    · rw [List.foldlM_cons, filled]
      rfl
    · intro other same
      rw [VerificationsEntry.withSlot_self] at same
      cases same
      exact ⟨credential, List.mem_singleton.mpr rfl, discloses⟩
    · cases platform <;> rfl

/-- The server follows the switch of the full name. -/
theorem enters_name {isOn : Bool}
    (answers : List.Forall₂ (Answers network)
      (if isOn then [.identity [0, 1, 2, 3] [.revealAttribute .firstName, .revealAttribute .lastName]]
        else []) credentials)
    (empty : entry.fullName = none) :
    ∃ after, credentials.foldlM self.proofToVerificationsEntry entry = .ok after ∧
      after.fullName.isSome = isOn ∧
      (∀ name, after.fullName = some name →
        ∃ credential ∈ credentials, DisclosesName credential name) ∧
      (∀ platform, after.platformEntry platform = entry.platformEntry platform) ∧
      after.presentation = entry.presentation := by
  rcases answers_switch answers with ⟨rfl, rfl⟩ | ⟨rfl, credential, rfl, answer⟩
  · exact ⟨entry, rfl, by rw [empty]; rfl, by simp [empty], fun _ => rfl, rfl⟩
  · obtain ⟨name, discloses⟩ := answer.disclosesName
    refine ⟨{ entry with fullName := some name }, ?_, rfl, ?_, ?_, rfl⟩
    · rw [List.foldlM_cons, discloses.fills empty]
      rfl
    · rintro other ⟨⟩
      exact ⟨credential, List.mem_singleton.mpr rfl, discloses⟩
    · intro platform
      cases platform <;> rfl

/-- Answers to two lists of statements are the answers to one and then the other. -/
theorem answers_append {first second : List CredentialQuery}
    (answers : List.Forall₂ (Answers network) (first ++ second) credentials) :
    ∃ before after, credentials = before ++ after ∧
      List.Forall₂ (Answers network) first before ∧
      List.Forall₂ (Answers network) second after := by
  induction first generalizing credentials with
  | nil => exact ⟨[], credentials, rfl, .nil, answers⟩
  | cons query first ih =>
      cases answers with
      | cons answer rest =>
          obtain ⟨before, after, rfl, left, right⟩ := ih rest
          exact ⟨_ :: before, after, rfl, .cons answer left, right⟩

/-- The statements for the switches are in the order of the form. -/
theorem Verify.Checked.queries_eq (checked : Verify.Checked) (self : AppState)
    (telegramIssuerUrl discordIssuerUrl : String) :
    checked.queries (self.frontendConfig telegramIssuerUrl discordIssuerUrl) = some (
      ((if checked.telegram then [.verifiable [pageAddress (self.registry .telegram)]
          [.revealAttribute "userId", .revealAttribute "username"]] else []) ++
        if checked.discord then [.verifiable [pageAddress (self.registry .discord)]
          [.revealAttribute "userId", .revealAttribute "username"]] else []) ++
        if checked.fullName then
          [.identity [0, 1, 2, 3] [.revealAttribute .firstName, .revealAttribute .lastName]]
        else []) := by
  obtain ⟨telegram, discord, fullName⟩ := checked
  have query := self.frontendConfig_query telegramIssuerUrl discordIssuerUrl
  cases telegram <;> cases discord <;>
    simp [queries, requestProof, issuers, query, ProofOptions.attributes]

/-- The server reads the answers to the statements of the switches as these ask for it. -/
theorem Verify.Checked.enters (checked : Verify.Checked) (sdk : Sdk) (self : AppState)
    (telegramIssuerUrl discordIssuerUrl : String)
    (distinct : self.telegramRegistry ≠ self.discordRegistry) {challenge : String}
    {queries : List CredentialQuery} {proof : Presentation}
    (made : checked.queries (self.frontendConfig telegramIssuerUrl discordIssuerUrl) = some queries)
    (presents : Presents network challenge queries proof) :
    ∃ entry, self.proofsToEntry sdk proof = .ok entry ∧ checked.Enters sdk self proof entry := by
  rw [checked.queries_eq] at made
  cases made
  obtain ⟨platforms, names, split, answers, nameAnswers⟩ := answers_append presents.answers
  obtain ⟨telegram, discord, rfl, telegramAnswers, discordAnswers⟩ := answers_append answers
  obtain ⟨first, filled, isTelegram, fromTelegram, kept, noName, presentation⟩ :=
    enters_platform distinct telegramAnswers
      (show (VerificationsEntry.fromPresentation sdk proof).platformEntry .telegram = none from rfl)
  obtain ⟨second, filledToo, isDiscord, fromDiscord, keptToo, noNameToo, presentationToo⟩ :=
    enters_platform distinct discordAnswers (kept .discord (by decide))
  obtain ⟨last, named, isNamed, fromName, keptLast, presentationLast⟩ :=
    enters_name nameAnswers (noNameToo.trans noName)
  have telegramSlot : last.platformEntry .telegram = first.platformEntry .telegram :=
    (keptLast .telegram).trans (keptToo .telegram (by decide))
  have discordSlot : last.platformEntry .discord = second.platformEntry .discord :=
    keptLast .discord
  refine ⟨last, ?_, ?_, ?_, isNamed, ?_, ?_⟩
  · rw [AppState.proofsToEntry, split, List.foldlM_append, List.foldlM_append, filled]
    change (discord.foldlM self.proofToVerificationsEntry first >>= fun entry =>
      names.foldlM self.proofToVerificationsEntry entry) = _
    rw [filledToo]
    exact named
  · intro platform
    cases platform with
    | telegram =>
        rw [telegramSlot]
        exact isTelegram
    | discord =>
        rw [discordSlot]
        exact isDiscord
  · intro platform slot same
    rw [split]
    cases platform with
    | telegram =>
        obtain ⟨credential, listed, discloses⟩ := fromTelegram slot (telegramSlot.symm.trans same)
        exact ⟨credential, by simp [listed], discloses⟩
    | discord =>
        obtain ⟨credential, listed, discloses⟩ := fromDiscord slot (discordSlot.symm.trans same)
        exact ⟨credential, by simp [listed], discloses⟩
  · intro name same
    obtain ⟨credential, listed, discloses⟩ := fromName name same
    rw [split]
    exact ⟨credential, List.mem_append_right _ listed, discloses⟩
  · exact presentationLast.trans (presentationToo.trans presentation)

/-- The switches have as many answers as are on. -/
theorem Verify.Checked.answered (checked : Verify.Checked) (self : AppState)
    (telegramIssuerUrl discordIssuerUrl : String) {queries : List CredentialQuery}
    (made : checked.queries (self.frontendConfig telegramIssuerUrl discordIssuerUrl) =
      some queries) : queries.length = checked.count := by
  rw [checked.queries_eq] at made
  cases made
  obtain ⟨telegram, discord, fullName⟩ := checked
  cases telegram <;> cases discord <;> cases fullName <;> rfl

end Entries

end Web3Id.SomeVerifier
