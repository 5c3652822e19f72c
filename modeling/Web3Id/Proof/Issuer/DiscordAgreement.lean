import Web3Id.Construction.Issuer.DiscordPage

namespace Web3Id.SomeIssuer.Discord

open Library Library.StringLiteral

/-- The page posts the values that the issuer takes from the session. -/
def Agrees (self : AppState) (user : User) (credential : CredentialInfo) : Prop :=
  let (session, page) := makeOauthRedirectResponse self user
  ∃ job : IssueChannelData,
    (issueDiscordCredential session credential).firstCall = some job ∧
      posted page = some ⟨encode job.userId.toList, encode job.username.toList⟩

/-- The string that a value becomes in its literal. -/
def literal (handlebars : Escaper) (text : String) : Option (List Nat) :=
  (read .plain (handlebars.escape text.toList ++ ['\''])).map Prod.fst

/-- A domain of the configuration leaves the script complete. -/
def Readable (handlebars : Escaper) (text : String) : Prop := (literal handlebars text).isSome

instance (handlebars : Escaper) (text : String) : Decidable (Readable handlebars text) :=
  inferInstanceAs (Decidable ((literal handlebars text).isSome = true))

@[simp] theorem expect_append (expected text : List Char) :
    expect expected (expected ++ text) = some text := by
  simp [expect]

@[simp] theorem expect_self (expected : List Char) : expect expected expected = some [] := by
  simp [expect]

/-- The lines that follow a value end in the middle of a literal. -/
theorem afterId_broken (text : List Char) : read .plain (afterId ++ text) = none := rfl

theorem afterUsername_broken (text : List Char) : read .plain (afterUsername ++ text) = none := rfl

theorem afterDappDomain_broken (text : List Char) :
    read .plain (afterDappDomain ++ text) = none := rfl

theorem pageEnd_broken : read .plain pageEnd = none := rfl

section Page

variable {handlebars : Escaper} (html : handlebars.Html)

include html

/-- A value of the page is read up to its own quote. -/
theorem read_value (text : String) {rest : List Char} (broken : read .plain rest = none) :
    read .plain (handlebars.escape text.toList ++ '\'' :: rest) =
      (literal handlebars text).map fun value => (value, rest) := by
  rw [read_quote (html.quote_not_mem text.toList) broken, literal, Option.map_map]
  rfl

/-- Only a clean text becomes itself. -/
theorem literal_eq_iff (text : String) :
    literal handlebars text = some (encode text.toList) ↔ handlebars.Clean text.toList := by
  constructor
  · intro same
    obtain ⟨⟨value, tail⟩, found, equal⟩ := Option.map_eq_some_iff.mp same
    cases equal
    exact html.clean_of_read rfl found
  · intro clean
    rw [literal, clean.escape, clean.read html]
    simp [StringLiteral.read, step, plainStep]

/-- The page posts what its first two values become, when all four are readable. -/
theorem posted_oauth (params : OauthTemplateParams) :
    posted (oauth handlebars params) =
      (literal handlebars params.id).bind fun userId =>
        (literal handlebars params.username).bind fun username =>
          (literal handlebars params.dappDomain).bind fun _ =>
            (literal handlebars params.verifierDappDomain).bind fun _ =>
              some ⟨userId, username⟩ := by
  simp only [posted, oauth, expect_append, Option.bind_some, bind, List.append_assoc,
    List.cons_append, List.nil_append, read_value html _ (afterId_broken _),
    read_value html _ (afterUsername_broken _), read_value html _ (afterDappDomain_broken _),
    read_value html _ pageEnd_broken, Option.bind_map, Function.comp_def, expect_self]
  rfl

/-- The page posts its own values exactly when they are clean and it can be read. -/
theorem posted_iff (params : OauthTemplateParams) :
    posted (oauth handlebars params) =
        some ⟨encode params.id.toList, encode params.username.toList⟩ ↔
      handlebars.Clean params.id.toList ∧ handlebars.Clean params.username.toList ∧
        Readable handlebars params.dappDomain ∧ Readable handlebars params.verifierDappDomain := by
  rw [posted_oauth html, ← literal_eq_iff html, ← literal_eq_iff html, Readable, Readable]
  simp only [Option.bind_eq_some_iff, Option.some.injEq, Message.mk.injEq,
    Option.isSome_iff_exists]
  constructor
  · rintro ⟨userId, first, username, second, dapp, third, verifier, fourth, rfl, rfl⟩
    exact ⟨first, second, ⟨dapp, third⟩, verifier, fourth⟩
  · rintro ⟨first, second, ⟨dapp, third⟩, verifier, fourth⟩
    exact ⟨_, first, _, second, dapp, third, verifier, fourth, rfl, rfl⟩

end Page

/-- The job that the issuer takes from the session carries the values of the page. -/
theorem agrees_iff_posted (self : AppState) (user : User) (credential : CredentialInfo) :
    Agrees self user credential ↔
      posted (makeOauthRedirectResponse self user).2 =
        some ⟨encode user.id.toList, encode user.storedUsername.toList⟩ := by
  constructor
  · rintro ⟨job, call, found⟩
    cases call
    exact found
  · intro found
    exact ⟨_, rfl, found⟩

/-- The page agrees with the session exactly when the id and the stored username have no character
that is escaped, no backslash and no line break, and the domains leave the script complete. -/
theorem discordPage_agrees (self : AppState) (html : self.handlebars.Html) (user : User)
    (credential : CredentialInfo) :
    Agrees self user credential ↔
      self.handlebars.Clean user.id.toList ∧ self.handlebars.Clean user.storedUsername.toList ∧
        Readable self.handlebars self.dappDomain ∧
          Readable self.handlebars self.verifierDappDomain := by
  rw [agrees_iff_posted]
  exact posted_iff html _

/-- The entities of the default escaper. -/
def escapeHtml : Escaper where
  entity
    | '<' => some "&lt;".toList
    | '>' => some "&gt;".toList
    | '"' => some "&quot;".toList
    | '&' => some "&amp;".toList
    | '\'' => some "&#x27;".toList
    | '`' => some "&#x60;".toList
    | '=' => some "&#x3D;".toList
    | _ => none

theorem escapeHtml_html : escapeHtml.Html where
  ampersand := rfl
  quote := rfl
  kept := by simp [escapeHtml]
  ascii c replaced := by
    unfold escapeHtml at replaced
    dsimp only at replaced
    split at replaced <;> first | decide | cases replaced
  named c text replaced := by
    unfold escapeHtml at replaced
    dsimp only at replaced
    split at replaced <;> cases replaced <;>
      exact ⟨_, rfl, by decide, by decide⟩

def sampleState : AppState := ⟨escapeHtml, "https://a.b/", "https://c.d"⟩

def sampleCredential : CredentialInfo := ⟨⟨1⟩, true, ⟨0⟩, none, ⟨"a", none⟩⟩

theorem discordPage_agrees_sample : Agrees sampleState ⟨"7", "ann", "0001"⟩ sampleCredential :=
  (discordPage_agrees sampleState escapeHtml_html ⟨"7", "ann", "0001"⟩ sampleCredential).mpr
    (by decide)

/-- An ampersand arrives as its entity. -/
theorem discordPage_disagrees :
    ¬Agrees sampleState ⟨"7", "a&b", "0"⟩ sampleCredential ∧
      posted (makeOauthRedirectResponse sampleState ⟨"7", "a&b", "0"⟩).2 =
        some ⟨encode "7".toList, encode "a&amp;b".toList⟩ := by
  have found : posted (makeOauthRedirectResponse sampleState ⟨"7", "a&b", "0"⟩).2 =
      some ⟨encode "7".toList, encode "a&amp;b".toList⟩ := by
    have shown : makeOauthRedirectResponse sampleState ⟨"7", "a&b", "0"⟩ =
        (⟨some "7", some "a&b"⟩,
          oauth escapeHtml ⟨"7", "a&b", "https://a.b/", "https://c.d"⟩) := rfl
    rw [shown, posted_oauth escapeHtml_html]
    decide
  refine ⟨?_, found⟩
  rw [agrees_iff_posted, found]
  decide

end Web3Id.SomeIssuer.Discord
