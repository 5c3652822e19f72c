import Web3Id.Proof.SomeVerifier.ReadBack

namespace Web3Id.SomeVerifier

open Library

/-- The query lists accounts whose rows refer to one verification. -/
structure AccountOf (tables : Tables) (id : Nat) (account : DbAccount) : Prop where
  row : ∃ row ∈ tables.platform account.platform, row.verificationId = some id ∧
    row.id = account.id ∧ row.username = account.username

/-- The SDK lists the metadata of the credentials in their order. -/
def ListsMetadata (sdk : Sdk) : Prop :=
  ∀ presentation : Presentation,
    sdk.metadata presentation = presentation.verifiableCredential.map CredentialProof.metadata

/-- The credential that the stored presentation shows for a row is the credential of the row. -/
def Tables.ShowsCredentials (sdk : Sdk) (self : AppState) (tables : Tables) : Prop :=
  ∀ verification ∈ tables.verifications, ∀ account : DbAccount,
    ∀ row ∈ tables.platform account.platform, row.verificationId = some verification.id →
    ∃ presentation, sdk.fromValue verification.presentation = some presentation ∧
      self.credentialHolder sdk account presentation = some ⟨row.credId⟩

namespace AppState

variable {sdk : Sdk} {self : AppState} {proof : Presentation} {entry : VerificationsEntry}

/-- The first credential of the registry is the one that fills the slot of its platform. -/
theorem credentialHolder_of_slot (lists : ListsMetadata sdk)
    (entered : self.proofsToEntry sdk proof = .ok entry) {account : DbAccount}
    {slot : PlatformEntry} (filled : entry.platformEntry account.platform = some slot) :
    self.credentialHolder sdk account proof = some slot.credId := by
  have empty : (VerificationsEntry.fromPresentation sdk proof).platformEntry account.platform =
      none := by
    cases account.platform <;> rfl
  obtain ⟨before, credential, after, split, shown, others⟩ :=
    filled_shows (proofsToEntry_execution entered) empty filled
  cases shown with
  | web3Id routed revealed =>
      cases getPlatformForContract_registry routed
      rw [credentialHolder, lists, split, List.map_append, List.findSome?_append, List.map_cons,
        List.findSome?_cons]
      have skipped : ∀ cred ∈ before.map CredentialProof.metadata,
          self.registryHolder account.platform cred = none := by
        intro cred listed
        obtain ⟨other, present, rfl⟩ := List.mem_map.mp listed
        have foreign := others other (List.mem_append_left _ present)
        cases other with
        | account => rfl
        | web3Id =>
            refine if_neg ?_
            rintro rfl
            exact foreign (.web3Id routed)
      rw [List.findSome?_eq_none_iff.mpr skipped]
      simp [registryHolder, CredentialProof.metadata]

/-- Every outcome keeps the shown credentials. -/
theorem Outcome.showsCredentials {db : Db} {event : Event}
    {result : Except Error StatusCode × Db} (lists : ListsMetadata sdk)
    (serializes : ∀ request, event.body = .ok request →
      sdk.fromValue (sdk.toValue request.proof) = some request.proof)
    (consistent : db.Consistent) (shown : db.tables.ShowsCredentials sdk self)
    (outcome : self.Outcome sdk db event result) :
    result.2.tables.ShowsCredentials sdk self := by
  cases outcome with
  | refused _ _ tables => exact tables ▸ shown
  | removed =>
      intro verification stored account row present points
      exact shown verification (Tables.mem_erase_verifications.mp stored).1 account row
        (Tables.mem_erase_platform.mp present).1 points
  | @created request _ entry _ _ _ passes _ entered _ =>
      intro verification stored account row present points
      have linked := (consistent.tables.erase (db.tables.overlapping entry.slots)).platforms
        account.platform
      rcases Tables.mem_withEntry_verifications.mp stored with ⟨old, -⟩ | rfl
      · rcases Tables.mem_withEntry_platform.mp present with before | ⟨slot, -, rfl⟩
        · exact shown verification old account row (Tables.mem_erase_platform.mp before).1 points
        · exact absurd (Option.some.inj points).symm (consistent.fresh verification old)
      · obtain ⟨slot, filled, rfl⟩ := consistent.mem_recorded.mp ⟨present, points⟩
        have kept := filled_presentation (proofsToEntry_execution entered)
        refine ⟨request.proof, ?_, credentialHolder_of_slot lists entered filled⟩
        change sdk.fromValue entry.presentation = _
        rw [kept]
        exact serializes request passes.body

/-- The stored presentations show the credentials of the rows after every list of requests. -/
theorem serveAll_showsCredentials (self : AppState) (events : List Event)
    (lists : ListsMetadata sdk)
    (serializes : ∀ event ∈ events, ∀ request, event.body = .ok request →
      sdk.fromValue (sdk.toValue request.proof) = some request.proof) :
    (self.serveAll sdk Db.empty events).tables.ShowsCredentials sdk self := by
  have start : Db.empty.tables.ShowsCredentials sdk self := by
    intro verification stored
    nomatch stored
  exact (self.serveAll_invariant sdk (fun db => db.tables.ShowsCredentials sdk self) start
    Db.empty_consistent events fun event listed _ _ consistent shown outcome =>
      outcome.showsCredentials lists (serializes event listed) consistent shown).2

end AppState

/-- A verification that is found is stored, and all its accounts belong to it. -/
theorem Tables.Consistent.getVerification_found {sdk : Sdk} {self : AppState} {tables : Tables}
    {id : String} {platform : Platform} {verification : DbVerification}
    (consistent : tables.Consistent) (shows : tables.ShowsCredentials sdk self)
    (found : getVerification sdk tables id platform = .ok (some verification)) :
    ∃ row ∈ tables.verifications,
      sdk.fromValue row.presentation = some verification.presentation ∧
      ∀ account ∈ verification.accounts, AccountOf tables row.id account := by
  by_cases known : ∃ row ∈ tables.platform platform, row.id = id
  · obtain ⟨row, present, rfl⟩ := known
    obtain ⟨number, points, target⟩ := (consistent.platforms platform).target row present
    obtain ⟨nameRow, stored, rfl⟩ := List.mem_map.mp target
    obtain ⟨fullName, -, named⟩ := VerificationRow.exists_stores (consistent.names nameRow stored)
    obtain ⟨presentation, read, -⟩ := shows nameRow stored (row.account platform) row present points
    rw [consistent.getVerification_row present stored points named read] at found
    cases found
    refine ⟨nameRow, stored, read, List.forall_mem_cons.mpr ⟨?_, ?_⟩⟩
    · exact ⟨row, present, points, rfl, rfl⟩
    · intro account listed
      obtain ⟨p, -, other, inTable, refers, rfl⟩ := mem_accountsOn.mp listed
      exact ⟨other, inTable, refers, rfl, rfl⟩
  · have absent : ∀ row ∈ tables.platform platform, row.id ≠ id :=
      fun row present same => known ⟨row, present, same⟩
    rw [getVerification_none absent] at found
    cases found

/-- The status of an account is asked for the credential that is picked. -/
theorem AppState.getCredentialStatus_asks {sdk : Sdk} {self : AppState} {account : DbAccount}
    {proof : Presentation} {credId : CredentialHolderId}
    (picked : self.credentialHolder sdk account proof = some credId) :
    ∃ next, self.getCredentialStatus sdk account proof =
      .call ⟨self.registry account.platform, credId, .lastFinal⟩ next := by
  unfold AppState.getCredentialStatus
  rw [picked]
  exact ⟨_, rfl⟩

/-- The status that is shown for an account is the status of the credential in its row. -/
theorem someVerifier_shownStatus (sdk : Sdk) (self : AppState) (events : List Event)
    (lists : ListsMetadata sdk)
    (serializes : ∀ event ∈ events, ∀ request, event.body = .ok request →
      sdk.fromValue (sdk.toValue request.proof) = some request.proof)
    (id : String) (platform : Platform) (verification : DbVerification)
    (found : getVerification sdk (self.serveAll sdk Db.empty events).tables id platform =
      .ok (some verification)) :
    ∀ account ∈ verification.accounts,
      ∃ row ∈ (self.serveAll sdk Db.empty events).tables.platform account.platform,
        row.id = account.id ∧
        self.credentialHolder sdk account verification.presentation = some ⟨row.credId⟩ ∧
        ∃ next, self.getCredentialStatus sdk account verification.presentation =
          .call ⟨self.registry account.platform, ⟨row.credId⟩, .lastFinal⟩ next := by
  have shown := self.serveAll_showsCredentials events lists serializes
  obtain ⟨nameRow, stored, read, accounts⟩ :=
    (self.serveAll_consistent sdk events).tables.getVerification_found shown found
  intro account listed
  obtain ⟨row, present, points, same, -⟩ := (accounts account listed).row
  obtain ⟨presentation, again, holder⟩ := shown nameRow stored account row present points
  cases again.symm.trans read
  exact ⟨row, present, same, holder, AppState.getCredentialStatus_asks holder⟩

/-- The sample SDK reads back the presentation that it stores. -/
theorem samplePost_serializes : ∀ event ∈ [samplePost "userId" "username"], ∀ request,
    event.body = .ok request →
    (sampleSdk (samplePresentation (sampleProofs "userId" "username"))).fromValue
      ((sampleSdk (samplePresentation (sampleProofs "userId" "username"))).toValue
        request.proof) = some request.proof := by
  intro event listed request body
  cases List.mem_singleton.mp listed
  cases body
  rfl

/-- The sample account shows the credential of its row. -/
theorem someVerifier_shownStatus_sample :
    sampleState.credentialHolder
        (sampleSdk (samplePresentation (sampleProofs "userId" "username")))
        ⟨.telegram, "42", "43"⟩ (samplePresentation (sampleProofs "userId" "username")) =
      some ⟨7⟩ := by
  obtain ⟨row, present, -, holder, -⟩ := someVerifier_shownStatus
    (sampleSdk (samplePresentation (sampleProofs "userId" "username"))) sampleState
    [samplePost "userId" "username"] (fun _ => rfl) samplePost_serializes "42" .telegram
    ⟨[⟨.telegram, "42", "43"⟩], some ⟨"First", "Last"⟩,
      samplePresentation (sampleProofs "userId" "username")⟩ rfl
    ⟨.telegram, "42", "43"⟩ (List.mem_singleton.mpr rfl)
  cases List.mem_singleton.mp present
  exact holder

end Web3Id.SomeVerifier
