import Web3Id.Construction.SomeVerifier.Server
import Web3Id.Library.Execution

namespace Web3Id.SomeVerifier

open Library

/-- The number of filled slots, the full name included. -/
def VerificationsEntry.filled (entry : VerificationsEntry) : Nat :=
  entry.telegram.isSome.toNat + entry.discord.isSome.toNat + entry.fullName.isSome.toNat

def VerificationsEntry.withSlot (entry : VerificationsEntry) (slot : PlatformEntry) :
    Platform → VerificationsEntry
  | .telegram => { entry with telegram := some slot }
  | .discord => { entry with discord := some slot }

@[simp] theorem VerificationsEntry.withSlot_self (entry : VerificationsEntry)
    (slot : PlatformEntry) (platform : Platform) :
    (entry.withSlot slot platform).platformEntry platform = some slot := by
  cases platform <;> rfl

theorem VerificationsEntry.withSlot_other (entry : VerificationsEntry) (slot : PlatformEntry)
    {platform other : Platform} (distinct : other ≠ platform) :
    (entry.withSlot slot platform).platformEntry other = entry.platformEntry other := by
  cases platform <;> cases other <;> first | rfl | exact absurd rfl distinct

theorem VerificationsEntry.withSlot_filled {entry : VerificationsEntry} (slot : PlatformEntry)
    {platform : Platform} (empty : entry.platformEntry platform = none) :
    (entry.withSlot slot platform).filled = entry.filled + 1 := by
  obtain ⟨telegram, discord, presentation, fullName⟩ := entry
  cases platform with
  | telegram =>
      cases (empty : telegram = none)
      simp only [withSlot, filled, Option.isSome_some, Option.isSome_none, Bool.toNat_true,
        Bool.toNat_false]
      omega
  | discord =>
      cases (empty : discord = none)
      simp only [withSlot, filled, Option.isSome_some, Option.isSome_none, Bool.toNat_true,
        Bool.toNat_false]
      omega

@[simp] theorem VerificationsEntry.withSlot_presentation (entry : VerificationsEntry)
    (slot : PlatformEntry) (platform : Platform) :
    (entry.withSlot slot platform).presentation = entry.presentation := by
  cases platform <;> rfl

namespace AppState

/-- The credential is from the registry of the platform. -/
inductive IssuedFor (self : AppState) (platform : Platform) : CredentialProof → Prop
  | web3Id {created : DateTime} {holder : CredentialHolderId} {network : Network}
      {contract : ContractAddress} {types : List String} {commitments : Bytes}
      {proofs : List (StatementWithProof String)}
      (issued : self.getPlatformForContract contract = .ok platform) :
      IssuedFor self platform (.web3Id created holder network contract types commitments proofs)

/-- The credential is from the registry of the platform, and reveals what the slot holds. -/
inductive Shows (self : AppState) (platform : Platform) : CredentialProof → PlatformEntry → Prop
  | web3Id {created : DateTime} {holder : CredentialHolderId} {network : Network}
      {contract : ContractAddress} {types : List String} {commitments : Bytes}
      {proofs : List (StatementWithProof String)} {id username : String}
      (issued : self.getPlatformForContract contract = .ok platform)
      (revealed : platformAttributes proofs = some (id, username)) :
      Shows self platform (.web3Id created holder network contract types commitments proofs)
        ⟨id, holder, username⟩

/-- A credential fills the empty slot of its platform or the empty full name. -/
inductive Fills (self : AppState) :
    VerificationsEntry → CredentialProof → VerificationsEntry → Prop
  | platform {entry : VerificationsEntry} {credential : CredentialProof} {platform : Platform}
      {slot : PlatformEntry} (shows_ : self.Shows platform credential slot)
      (empty : entry.platformEntry platform = none) :
      Fills self entry credential (entry.withSlot slot platform)
  | fullName {entry : VerificationsEntry} {created : DateTime} {network : Network} {credId : Bytes}
      {issuer : UInt32} {proofs : List (StatementWithProof AttributeTag)} (name : FullName)
      (empty : entry.fullName = none) :
      Fills self entry (.account created network credId issuer proofs)
        { entry with fullName := some name }

variable {self : AppState} {start entry after : VerificationsEntry} {credential : CredentialProof}
  {credentials : List CredentialProof} {platform : Platform} {slot : PlatformEntry}

/-- The registry of the platform is the only contract that is accepted for it. -/
theorem getPlatformForContract_registry {contract : ContractAddress}
    (issued : self.getPlatformForContract contract = .ok platform) :
    contract = self.registry platform := by
  unfold getPlatformForContract at issued
  split at issued
  · cases issued
    assumption
  · split at issued
    · cases issued
      assumption
    · nomatch issued

/-- Each accepted credential fills one empty slot. -/
theorem fills_of_ok (accepted : self.proofToVerificationsEntry entry credential = .ok after) :
    self.Fills entry credential after := by
  cases credential with
  | web3Id created holder network contract types commitments proofs =>
      simp only [proofToVerificationsEntry] at accepted
      cases revealed : platformAttributes proofs with
      | none => simp [revealed] at accepted
      | some pair =>
          cases issued : self.getPlatformForContract contract with
          | error error => simp [revealed, issued] at accepted
          | ok platform =>
              simp only [revealed, issued] at accepted
              have shows_ : self.Shows platform
                  (.web3Id created holder network contract types commitments proofs)
                  ⟨pair.1, holder, pair.2⟩ := .web3Id issued revealed
              cases platform with
              | telegram =>
                  cases empty : entry.telegram with
                  | some slot => simp [fillPlatform, empty] at accepted
                  | none =>
                      simp only [fillPlatform, empty] at accepted
                      cases accepted
                      exact .platform shows_ empty
              | discord =>
                  cases empty : entry.discord with
                  | some slot => simp [fillPlatform, empty] at accepted
                  | none =>
                      simp only [fillPlatform, empty] at accepted
                      cases accepted
                      exact .platform shows_ empty
  | account created network credId issuer proofs =>
      simp only [proofToVerificationsEntry] at accepted
      split at accepted
      · nomatch accepted
      · split at accepted
        · nomatch accepted
        · cases empty : entry.fullName with
          | some name => simp [empty] at accepted
          | none =>
              simp only [empty] at accepted
              cases accepted
              exact .fullName _ empty
        · nomatch accepted

/-- The loop over the credentials fills their slots one after the other. -/
theorem proofsToEntry_execution {sdk : Sdk} {proof : Presentation}
    (entered : self.proofsToEntry sdk proof = .ok entry) :
    Execution self.Fills (.fromPresentation sdk proof) proof.verifiableCredential entry :=
  .of_foldlM (fun _ _ _ => fills_of_ok) entered

/-- The loop fills as many slots as there are credentials. -/
theorem filled_length (run : Execution self.Fills start credentials entry) :
    entry.filled = start.filled + credentials.length := by
  induction run with
  | done state => rfl
  | next head _ ih =>
      rw [ih, List.length_cons]
      cases head with
      | platform _ empty =>
          rw [VerificationsEntry.withSlot_filled _ empty]
          omega
      | fullName name empty =>
          simp only [VerificationsEntry.filled, empty, Option.isSome_some, Option.isSome_none,
            Bool.toNat_true, Bool.toNat_false]
          omega

/-- The loop keeps the presentation. -/
theorem filled_presentation (run : Execution self.Fills start credentials entry) :
    entry.presentation = start.presentation := by
  induction run with
  | done state => rfl
  | next head _ ih =>
      rw [ih]
      cases head <;> simp

/-- A filled slot is kept, and no further credential is for its platform. -/
theorem filled_kept (run : Execution self.Fills start credentials entry)
    (filled : start.platformEntry platform = some slot) :
    entry.platformEntry platform = some slot ∧
      ∀ credential ∈ credentials, ¬ self.IssuedFor platform credential := by
  induction run with
  | done state => exact ⟨filled, by simp⟩
  | next head _ ih =>
      cases head with
      | @platform _ other value shows_ empty =>
          have distinct : platform ≠ other := by
            rintro rfl
            nomatch empty.symm.trans filled
          have rest := ih ((VerificationsEntry.withSlot_other _ _ distinct).trans filled)
          refine ⟨rest.1, List.forall_mem_cons.mpr ⟨?_, rest.2⟩⟩
          cases shows_ with
          | web3Id issued revealed =>
              rintro ⟨same⟩
              exact distinct (Except.ok.inj (same.symm.trans issued))
      | fullName name empty =>
          have rest := ih (by cases platform <;> exact filled)
          exact ⟨rest.1, List.forall_mem_cons.mpr ⟨nofun, rest.2⟩⟩

/-- A slot that the loop fills shows the first credential for its platform. -/
theorem filled_shows (run : Execution self.Fills start credentials entry)
    (empty : start.platformEntry platform = none)
    (filled : entry.platformEntry platform = some slot) :
    ∃ before credential after, credentials = before ++ credential :: after ∧
      self.Shows platform credential slot ∧
      ∀ other ∈ before ++ after, ¬ self.IssuedFor platform other := by
  induction run with
  | done state => nomatch empty.symm.trans filled
  | @next _ _ _ event events head tail ih =>
      cases head with
      | @platform _ other value shows_ free =>
          by_cases same : platform = other
          · subst same
            obtain ⟨kept, others⟩ := filled_kept tail (VerificationsEntry.withSlot_self _ _ _)
            cases kept.symm.trans filled
            exact ⟨[], event, events, rfl, shows_, others⟩
          · obtain ⟨before, credential, after, listed, shown, others⟩ :=
              ih ((VerificationsEntry.withSlot_other _ _ same).trans empty) filled
            refine ⟨event :: before, credential, after, congrArg _ listed, shown, ?_⟩
            refine List.forall_mem_cons.mpr ⟨?_, others⟩
            cases shows_ with
            | web3Id issued revealed =>
                rintro ⟨again⟩
                exact same (Except.ok.inj (again.symm.trans issued))
      | fullName name free =>
          obtain ⟨before, credential, after, listed, shown, others⟩ :=
            ih (by cases platform <;> exact empty) filled
          exact ⟨_ :: before, credential, after, congrArg _ listed, shown,
            List.forall_mem_cons.mpr ⟨nofun, others⟩⟩

/-- Every accepted credential of a registry is for a platform. -/
theorem issued_of_listed (run : Execution self.Fills start credentials entry)
    {created : DateTime} {holder : CredentialHolderId} {network : Network}
    {contract : ContractAddress} {types : List String} {commitments : Bytes}
    {proofs : List (StatementWithProof String)}
    (listed : .web3Id created holder network contract types commitments proofs ∈ credentials) :
    ∃ platform,
      self.IssuedFor platform (.web3Id created holder network contract types commitments proofs) := by
  induction run with
  | done state => nomatch listed
  | next head tail ih =>
      rcases List.mem_cons.mp listed with rfl | later
      · cases head with
        | platform shows_ empty =>
            cases shows_ with
            | web3Id issued revealed => exact ⟨_, .web3Id issued⟩
      · exact ih later

/-- Every credential for a platform is shown by the slot of the platform. -/
theorem shows_of_issued (run : Execution self.Fills start credentials entry)
    (listed : credential ∈ credentials) (issued : self.IssuedFor platform credential) :
    ∃ slot, entry.platformEntry platform = some slot ∧ self.Shows platform credential slot := by
  induction run with
  | done state => nomatch listed
  | next head tail ih =>
      rcases List.mem_cons.mp listed with rfl | later
      · cases head with
        | @platform _ other value shows_ empty =>
            cases shows_ with
            | web3Id routed revealed =>
                cases issued with
                | web3Id again =>
                    cases routed.symm.trans again
                    exact ⟨_, (filled_kept tail (VerificationsEntry.withSlot_self _ _ _)).1,
                      .web3Id routed revealed⟩
        | fullName name empty => nomatch issued
      · exact ih later

/-- The credentials of a presentation have different platforms. -/
theorem issued_unique (run : Execution self.Fills start credentials entry)
    (empty : start.platformEntry platform = none) {other : CredentialProof}
    (listed : credential ∈ credentials) (issued : self.IssuedFor platform credential)
    (too : other ∈ credentials) (again : self.IssuedFor platform other) : credential = other := by
  obtain ⟨slot, filled, -⟩ := shows_of_issued run listed issued
  obtain ⟨before, only, after, split, -, others⟩ := filled_shows run empty filled
  have single : ∀ {candidate : CredentialProof}, candidate ∈ credentials →
      self.IssuedFor platform candidate → candidate = only := by
    intro candidate present routed
    rw [split] at present
    rcases List.mem_append.mp present with early | rest
    · exact absurd routed (others _ (List.mem_append_left _ early))
    · rcases List.mem_cons.mp rest with same | late
      · exact same
      · exact absurd routed (others _ (List.mem_append_right _ late))
  exact (single listed issued).trans (single too again).symm

end AppState

end Web3Id.SomeVerifier
