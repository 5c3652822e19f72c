import Web3Id.Proof.SomeVerifier.IdentityBinding

namespace Web3Id.SomeVerifier

open Library

/-- The presentation has a credential of the platform's registry with this holder. -/
def AppState.Presents (self : AppState) (presentation : Presentation) (platform : Platform)
    (credId : BitVec 256) : Prop :=
  ∃ created holder network types commitments proofs,
    .web3Id created holder network (self.registry platform) types commitments proofs ∈
      presentation.verifiableCredential ∧ holder.publicKey = credId

/-- The verification and its rows are as they were. -/
structure Kept (before after : Tables) (verification : VerificationRow) : Prop where
  stored : verification ∈ after.verifications
  platforms : ∀ platform row, row.verificationId = some verification.id →
    (row ∈ after.platform platform ↔ row ∈ before.platform platform)

/-- The verification and its rows have disappeared. -/
structure Gone (after : Tables) (verification : VerificationRow) : Prop where
  removed : ∀ other ∈ after.verifications, other.id ≠ verification.id
  platforms : ∀ platform, ∀ row ∈ after.platform platform,
    row.verificationId ≠ some verification.id

/-- A verified request presents the credential that the verification has on one platform. -/
def AppState.Authorizes (sdk : Sdk) (self : AppState) (before : Tables) (event : Event)
    (verification : VerificationRow) : Prop :=
  ∃ request verified, self.Passes sdk event request verified ∧
    ∃ platform, ∃ row ∈ before.platform platform,
      row.verificationId = some verification.id ∧
      self.Presents request.proof platform row.credId

/-- The same request meets a database without faults. -/
def Event.faultless (event : Event) : Event := { event with faults := [] }

/-- The verified request states the credentials of the presentation in their order. -/
def StatesCredentials (sdk : Sdk) : Prop :=
  ∀ params presentation inputs verified,
    sdk.verify params presentation inputs = .ok verified →
    verified.credentialStatements =
      presentation.verifiableCredential.map CredentialProof.statement

/-- A deletion keeps the other verifications. -/
theorem Kept.erase {tables : Tables} {verification : VerificationRow} {ids : List Nat}
    (stored : verification ∈ tables.verifications) (other : verification.id ∉ ids) :
    Kept tables (tables.erase ids) verification where
  stored := Tables.mem_erase_verifications.mpr ⟨stored, other⟩
  platforms platform row points := by
    rw [Tables.mem_erase_platform, points]
    exact ⟨fun both => both.1, fun present => ⟨present, by rintro id ⟨⟩; exact other⟩⟩

/-- A deletion removes a verification with all its rows. -/
theorem Gone.erase (tables : Tables) {verification : VerificationRow} {ids : List Nat}
    (deleted : verification.id ∈ ids) : Gone (tables.erase ids) verification where
  removed _ present same :=
    (Tables.mem_erase_verifications.mp present).2 (same ▸ deleted)
  platforms _ _ present points :=
    (Tables.mem_erase_platform.mp present).2 _ points deleted

section Entry

variable {tables : Tables} {entry : VerificationsEntry} {id : Nat} {verification : VerificationRow}

/-- A new verification keeps what its deletion has kept. -/
theorem Kept.withEntry (distinct : verification.id ≠ id)
    (kept : Kept tables (tables.erase (tables.overlapping entry.slots)) verification) :
    Kept tables (tables.withEntry entry id) verification where
  stored := Tables.mem_withEntry_verifications.mpr
    (.inl (Tables.mem_erase_verifications.mp kept.stored))
  platforms platform row points := by
    rw [Tables.mem_withEntry_platform, ← kept.platforms platform row points]
    constructor
    · rintro (before | ⟨slot, -, rfl⟩)
      · exact before
      · exact absurd (Option.some.inj points).symm distinct
    · exact .inl

/-- A new verification does not restore what its deletion has removed. -/
theorem Gone.withEntry (distinct : verification.id ≠ id)
    (gone : Gone (tables.erase (tables.overlapping entry.slots)) verification) :
    Gone (tables.withEntry entry id) verification where
  removed other present := by
    rcases Tables.mem_withEntry_verifications.mp present with before | rfl
    · exact gone.removed other (Tables.mem_erase_verifications.mpr before)
    · exact distinct.symm
  platforms platform row present := by
    rcases Tables.mem_withEntry_platform.mp present with before | ⟨slot, -, rfl⟩
    · exact gone.platforms platform row before
    · exact fun same => distinct (Option.some.inj same).symm

end Entry

namespace AppState

variable {sdk : Sdk} {self : AppState} {proof : Presentation}

/-- The credential of a filled slot is presented. -/
theorem presents_of_slot {entry : VerificationsEntry}
    (entered : self.proofsToEntry sdk proof = .ok entry) {slot : Slot}
    (listed : slot ∈ entry.slots) : self.Presents proof slot.1 slot.credId := by
  have empty : (VerificationsEntry.fromPresentation sdk proof).platformEntry slot.1 = none := by
    cases slot.1 <;> rfl
  obtain ⟨before, credential, after, split, shown, -⟩ :=
    filled_shows (proofsToEntry_execution entered) empty (entry.mem_slots.mp listed)
  have present : credential ∈ proof.verifiableCredential := by
    rw [split]
    exact List.mem_append_right _ List.mem_cons_self
  obtain ⟨platform, value⟩ := slot
  cases shown with
  | web3Id routed revealed =>
      cases getPlatformForContract_registry routed
      exact ⟨_, _, _, _, _, _, present, rfl⟩

/-- The single stated credential is presented. -/
theorem presents_of_statement (states : StatesCredentials sdk) {params : Bytes}
    {inputs : List CredentialsInputs} {verified : Web3IdSdk.Request} {types : List String}
    {network : Network} {contract : ContractAddress} {credential : CredentialHolderId}
    {statement : List (AtomicStatement String)} {platform : Platform}
    (accepted : sdk.verify params proof inputs = .ok verified)
    (single : verified.credentialStatements =
      [.web3Id types network contract credential statement])
    (issued : self.getPlatformForContract contract = .ok platform) :
    self.Presents proof platform credential.publicKey := by
  have listed : (.web3Id types network contract credential statement : CredentialStatement) ∈
      proof.verifiableCredential.map CredentialProof.statement := by
    rw [← states _ _ _ _ accepted, single]
    exact List.mem_singleton.mpr rfl
  obtain ⟨presented, member, same⟩ := List.mem_map.mp listed
  cases getPlatformForContract_registry issued
  cases presented with
  | account => nomatch same
  | web3Id =>
      cases same
      exact ⟨_, _, _, _, _, _, member, rfl⟩

/-- Every outcome keeps a verification, or removes it with the authority of its credential. -/
theorem Outcome.keeps_or_removes {db : Db} {event : Event}
    {result : Except Error StatusCode × Db} (states : StatesCredentials sdk)
    (consistent : db.Consistent) (outcome : self.Outcome sdk db event result)
    {verification : VerificationRow} (stored : verification ∈ db.tables.verifications) :
    Kept db.tables result.2.tables verification ∨
      (Gone result.2.tables verification ∧
        self.Authorizes sdk db.tables event verification) := by
  cases outcome with
  | refused _ _ tables =>
      rw [tables]
      exact .inl ⟨stored, fun _ _ _ => Iff.rfl⟩
  | @created _ _ entry _ _ _ passes _ entered free =>
      have distinct := consistent.fresh verification stored
      by_cases overlaps : verification.id ∈ db.tables.overlapping entry.slots
      · refine .inr ⟨(Gone.erase _ overlaps).withEntry distinct, _, _, passes, ?_⟩
        obtain ⟨slot, listed, row, present, same, points⟩ :=
          consistent.tables.mem_overlapping.mp overlaps
        exact ⟨slot.1, row, present, points, same ▸ presents_of_slot entered listed⟩
      · exact .inl ((Kept.erase stored overlaps).withEntry distinct)
  | @removed _ _ _ _ _ credential _ platform _ _ _ passes single issued _ =>
      by_cases selected : verification.id ∈ db.tables.selected platform credential.publicKey
      · refine .inr ⟨Gone.erase _ selected, _, _, passes, ?_⟩
        obtain ⟨inputs, accepted⟩ := passes.verifies
        obtain ⟨row, present, same, points⟩ := consistent.tables.mem_selected.mp selected
        exact ⟨platform, row, present, points,
          same ▸ presents_of_statement states accepted single issued⟩
      · exact .inl (Kept.erase stored selected)

/-- The verification of a request does not use the faults of the database. -/
theorem Passes.faultless {event : Event} {request : Request} {verified : Web3IdSdk.Request}
    (passes : self.Passes sdk event request verified) :
    self.Passes sdk event.faultless request verified where
  body := passes.body
  verified := by
    have checks := verifyRequest_ok.mp passes.verified
    exact verifyRequest_ok.mpr checks

/-- Without faults, a request that changes the tables has a positive answer. -/
theorem Outcome.faultless {db : Db} {event : Event} {result : Except Error StatusCode × Db}
    (consistent : db.Consistent) (outcome : self.Outcome sdk db event result) :
    result.2.tables = db.tables ∨
      ∃ code, (code = .created ∨ code = .ok) ∧ Answered event code result.1 ∧
        self.serve sdk db event.faultless = (.ok code, result.2) := by
  cases outcome with
  | refused _ _ tables => exact .inl tables
  | @created _ _ entry _ answered posted passes enough entered free =>
      refine .inr ⟨.created, .inl rfl, answered, ?_⟩
      have accepted : db.tables.added entry db.sequence =
          (none, db.tables.withEntry entry db.sequence) := by
        rcases db.tables.added_cases entry db.sequence with ⟨userId, clashes, -⟩ | ⟨-, accepted⟩
        · nomatch free.symm.trans clashes
        · exact accepted
      have posted : event.faultless.endpoint = .post := posted
      have none_ : event.faultless.faults = [] := rfl
      rw [serve_post posted passes.faultless.body (passes.faultless.run db) enough entered, none_,
        consistent.tables.run_addVerification consistent.fresh, accepted]
      rfl
  | @removed _ _ _ _ _ credential _ platform _ answered patched passes single issued some_ =>
      refine .inr ⟨.ok, .inr rfl, answered, ?_⟩
      have patched : event.faultless.endpoint = .patch := patched
      have none_ : event.faultless.faults = [] := rfl
      rw [serve_patch patched passes.faultless.body (passes.faultless.run db) single issued, none_,
        consistent.tables.run_removeVerification, Tables.removed,
        List.isEmpty_eq_false_iff.mpr some_]
      rfl

end AppState

/-- The request was carried out and its positive answer did not reach the client: the database had
performed a statement whose answer was lost, or the handler was dropped when its time expired. -/
structure Unheard (sdk : Sdk) (self : AppState) (before : Db) (event : Event) (expired : Bool)
    (response : StatusCode × Db) : Prop where
  cause : (expired = true ∧ response.1 = .requestTimeout) ∨
    (response.1 = .internalServerError ∧
      ∃ fault, some fault ∈ event.faults ∧ fault.performed = true)
  effect : ∃ code, (code = .created ∨ code = .ok) ∧
    self.serve sdk before event.faultless = (.ok code, response.2)

/-- A response without a positive status leaves the tables, or the positive one is unheard. -/
theorem AppState.respond_unchanged {sdk : Sdk} {self : AppState} {db : Db} {event : Event}
    (consistent : db.Consistent) (sqlErrorText : SqlError → String) (expired : Bool) :
    let response := self.respond sdk sqlErrorText db event expired
    response.1 ≠ .created → response.1 ≠ .ok →
      response.2.tables = db.tables ∨ Unheard sdk self db event expired response := by
  intro response created ok
  rcases (self.serve_outcome sdk consistent event).faultless consistent with
    unchanged | ⟨code, positive, answered, effect⟩
  · exact .inl unchanged
  · refine .inr ⟨?_, code, positive, effect⟩
    cases expired with
    | true => exact .inl ⟨rfl, rfl⟩
    | false =>
        have shown : response.1 = statusCode sdk sqlErrorText (self.serve sdk db event).1 := rfl
        rw [shown] at created ok ⊢
        generalize (self.serve sdk db event).1 = answer at answered created ok
        cases answered with
        | heard =>
            rcases positive with rfl | rfl
            · exact absurd rfl created
            · exact absurd rfl ok
        | lost listed performed => exact .inr ⟨rfl, _, listed, performed⟩

/--
A request removes a verification only if it presents its credential on one of its platforms, and
keeps every other verification; a request without a positive answer changes nothing, unless it was
carried out and its answer did not reach the client.
-/
theorem someVerifier_deletionAuthority (sdk : Sdk) (sqlErrorText : SqlError → String)
    (self : AppState) (states : StatesCredentials sdk) (events : List Event) (event : Event)
    (expired : Bool) :
    let before := self.serveAll sdk Db.empty events
    let response := self.respond sdk sqlErrorText before event expired
    (∀ verification ∈ before.tables.verifications,
      Kept before.tables response.2.tables verification ∨
        (Gone response.2.tables verification ∧
          self.Authorizes sdk before.tables event verification)) ∧
    (response.1 ≠ .created → response.1 ≠ .ok →
      response.2.tables = before.tables ∨ Unheard sdk self before event expired response) := by
  intro before response
  have consistent : before.Consistent := self.serveAll_consistent sdk events
  have outcome := self.serve_outcome sdk consistent event
  exact ⟨fun verification stored => outcome.keeps_or_removes states consistent stored,
    AppState.respond_unchanged consistent sqlErrorText expired⟩

/-- The sample request to remove presents the Telegram credential only. -/
def samplePatch : Presentation where
  presentationContext := [2]
  verifiableCredential := [.web3Id ⟨0⟩ ⟨7⟩ .testnet ⟨1, 0⟩ [] [] []]
  linkingProof := [1]

theorem sampleSdk_states (presentation : Presentation) :
    StatesCredentials (sampleSdk presentation) := by
  intro params presented inputs verified accepted
  simp only [sampleSdk, Web3IdVerifier.sampleSdk] at accepted
  split at accepted
  · cases accepted
    rfl
  · nomatch accepted

/-- The sample verification is removed with the authority of its Telegram credential. -/
theorem someVerifier_deletionAuthority_sample :
    sampleState.Authorizes (sampleSdk samplePatch)
      (sampleState.serveAll (sampleSdk samplePatch) Db.empty
        [samplePost "userId" "username"]).tables
      (sampleEvent .patch samplePatch) ⟨1, [0], some "First", some "Last"⟩ := by
  have removes := (someVerifier_deletionAuthority (sampleSdk samplePatch) (fun _ => "") sampleState
    (sampleSdk_states samplePatch) [samplePost "userId" "username"]
    (sampleEvent .patch samplePatch) false).1 ⟨1, [0], some "First", some "Last"⟩
    (List.mem_singleton.mpr rfl)
  rcases removes with kept | ⟨-, authorized⟩
  · nomatch kept.stored
  · exact authorized

/-- The database commits the sample verification, and the connection fails before it answers. -/
def sampleLost : Event :=
  { samplePost "userId" "username" with
    faults := [none, none, none, none, none, some ⟨.connection, true⟩] }

/-- A request that is answered with an error of the server, or with a timeout, has entered its
verification. -/
theorem someVerifier_unheardCommit :
    ¬ ∀ (sdk : Sdk) (sqlErrorText : SqlError → String) (self : AppState), StatesCredentials sdk →
      ∀ (events : List Event) (event : Event) (expired : Bool),
        let before := self.serveAll sdk Db.empty events
        let response := self.respond sdk sqlErrorText before event expired
        response.1 ≠ .created → response.1 ≠ .ok → response.2.tables = before.tables := by
  intro always
  have unchanged := always (sampleSdk (samplePresentation (sampleProofs "userId" "username")))
    (fun _ => "") sampleState (sampleSdk_states _) [] sampleLost false (by decide) (by decide)
  have entered : (sampleState.respond
      (sampleSdk (samplePresentation (sampleProofs "userId" "username"))) (fun _ => "") Db.empty
      sampleLost false).2.tables.telegram = [⟨"42", 7, some 1, "43"⟩] := rfl
  nomatch (congrArg Tables.telegram unchanged).symm.trans entered

end Web3Id.SomeVerifier
