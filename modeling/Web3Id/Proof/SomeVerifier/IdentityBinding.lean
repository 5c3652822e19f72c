import Web3Id.Proof.SomeVerifier.EntrySlots
import Web3Id.Proof.SomeVerifier.ServerOutcome
import Web3Id.Proof.Verifier.PinnedBlock

namespace Web3Id.SomeVerifier

open Library

/-- The proofs reveal this value for the attribute with this tag. -/
def Reveals (proofs : List (StatementWithProof String)) (tag value : String) : Prop :=
  ∃ proof, (.revealAttribute tag, .revealAttribute (.string value) proof) ∈ proofs

/-- The statements name the user id first and the username second, or the two values are equal. -/
def Tagged : List (StatementWithProof String) → Prop
  | [(.revealAttribute one, .revealAttribute (.string id) _),
      (.revealAttribute two, .revealAttribute (.string username) _)] =>
      (one = "userId" ∧ two = "username") ∨ (one = "username" ∧ two = "userId" ∧ id = username)
  | _ => False

/-- Every registry credential of the presentation has its statements in order. -/
def TagsInOrder (presentation : Presentation) : Prop :=
  ∀ created holder network contract types commitments proofs,
    .web3Id created holder network contract types commitments proofs ∈
      presentation.verifiableCredential → Tagged proofs

/-- The row holds what the credential of the platform reveals for the tags of the issuer. -/
def AppState.Binds (self : AppState) (presentation : Presentation) (platform : Platform)
    (row : PlatformRow) : Prop :=
  ∃ created holder network types commitments proofs,
    .web3Id created holder network (self.registry platform) types commitments proofs ∈
      presentation.verifiableCredential ∧
    holder.publicKey = row.credId ∧ Reveals proofs "userId" row.id ∧
    Reveals proofs "username" row.username

/-- The two values are revealed for their tags if and only if the statements are in order. -/
theorem tagged_iff {proofs : List (StatementWithProof String)} {id username : String}
    (revealed : AppState.platformAttributes proofs = some (id, username)) :
    Tagged proofs ↔ Reveals proofs "userId" id ∧ Reveals proofs "username" username := by
  unfold AppState.platformAttributes at revealed
  split at revealed
  · rename_i first value firstProof second name secondProof
    cases revealed
    cases first with
    | revealAttribute one =>
        cases second with
        | revealAttribute two =>
            simp only [Tagged, Reveals, List.mem_cons, List.not_mem_nil, or_false, Prod.mk.injEq,
              AtomicStatement.revealAttribute.injEq, AtomicProof.revealAttribute.injEq,
              Web3IdAttribute.string.injEq]
            constructor
            · rintro (⟨rfl, rfl⟩ | ⟨rfl, rfl, rfl⟩)
              · exact ⟨⟨firstProof, by simp⟩, ⟨secondProof, by simp⟩⟩
              · exact ⟨⟨secondProof, by simp⟩, ⟨firstProof, by simp⟩⟩
            · rintro ⟨⟨_, ⟨rfl, -, -⟩ | ⟨rfl, same, -⟩⟩, ⟨_, ⟨other, -, -⟩ | ⟨other, -, -⟩⟩⟩
              · exact absurd other (by decide)
              · exact .inl ⟨rfl, other.symm⟩
              · exact .inr ⟨other.symm, rfl, same⟩
              · exact absurd other (by decide)
        | _ =>
            simp only [Tagged, Reveals, List.mem_cons, List.not_mem_nil, or_false, Prod.mk.injEq,
              AtomicStatement.revealAttribute.injEq, reduceCtorEq, false_and, false_iff, not_and]
            rintro ⟨_, rfl, -⟩ ⟨_, other, -⟩
            exact absurd other (by decide)
    | _ =>
        simp only [Tagged, Reveals, List.mem_cons, List.not_mem_nil, or_false, Prod.mk.injEq,
          reduceCtorEq, false_and, false_or, false_iff, not_and]
        rintro ⟨_, same, -⟩ ⟨_, other, -⟩
        rw [← same] at other
        exact absurd (AtomicStatement.revealAttribute.inj other) (by decide)
  · nomatch revealed

namespace AppState

variable {sdk : Sdk} {self : AppState} {proof : Presentation} {entry : VerificationsEntry}

/-- The slots hold what their credentials reveal if and only if all statements are in order. -/
theorem binds_iff (entered : self.proofsToEntry sdk proof = .ok entry) (id : Nat) :
    (∀ platform slot, entry.platformEntry platform = some slot →
      self.Binds proof platform (slot.row id)) ↔ TagsInOrder proof := by
  have run := proofsToEntry_execution entered
  have empty : ∀ platform, (VerificationsEntry.fromPresentation sdk proof).platformEntry platform =
      none := by
    intro platform
    cases platform <;> rfl
  constructor
  · intro binds created holder network contract types commitments proofs listed
    obtain ⟨platform, issued⟩ := issued_of_listed run listed
    obtain ⟨slot, filled, shown⟩ := shows_of_issued run listed issued
    obtain ⟨_, _, _, _, _, _, other, -, userId, username⟩ := binds platform slot filled
    cases shown with
    | web3Id routed revealed =>
        cases getPlatformForContract_registry routed
        cases issued_unique run (empty platform) listed issued other (.web3Id routed)
        exact (tagged_iff revealed).mpr ⟨userId, username⟩
  · intro inOrder platform slot filled
    obtain ⟨before, credential, after, split, shown, -⟩ :=
      filled_shows run (empty platform) filled
    have listed : credential ∈ proof.verifiableCredential := by
      rw [split]
      exact List.mem_append_right _ List.mem_cons_self
    cases shown with
    | web3Id routed revealed =>
        cases getPlatformForContract_registry routed
        have tagged := inOrder _ _ _ _ _ _ _ listed
        obtain ⟨userId, username⟩ := (tagged_iff revealed).mp tagged
        exact ⟨_, _, _, _, _, _, listed, rfl, userId, username⟩

end AppState

/-- The rows of the new verification are the rows of the slots. -/
theorem Db.Consistent.mem_recorded {db : Db} (consistent : db.Consistent)
    {entry : VerificationsEntry} {platform : Platform} {row : PlatformRow} :
    (row ∈ (db.tables.withEntry entry db.sequence).platform platform ∧
      row.verificationId = some db.sequence) ↔
    ∃ slot, entry.platformEntry platform = some slot ∧ row = slot.row db.sequence := by
  rw [Tables.mem_withEntry_platform]
  constructor
  · rintro ⟨before | added, points⟩
    · obtain ⟨id, target, stored⟩ := ((consistent.tables.erase _).platforms platform).target row
        before
      obtain ⟨verification, present, rfl⟩ := List.mem_map.mp stored
      have old := (Tables.mem_erase_verifications.mp present).1
      exact absurd (Option.some.inj (target.symm.trans points)) (consistent.fresh _ old)
    · exact added
  · rintro ⟨slot, filled, rfl⟩
    exact ⟨.inr ⟨slot, filled, rfl⟩, rfl⟩

section Passes

variable {sdk : Sdk} {self : AppState} {event : Event} {request : Request}
  {verified : Web3IdSdk.Request}

/-- A verified request has proofs that the SDK accepts. -/
theorem AppState.Passes.verifies (passes : self.Passes sdk event request verified) :
    ∃ inputs, sdk.verify self.cryptoParams request.proof inputs = .ok verified := by
  obtain ⟨-, -, publicData, -, -, checked⟩ := AppState.verifyRequest_ok.mp passes.verified
  exact ⟨_, checked⟩

/-- The SDK accepts them against the answer of the node to this request. -/
theorem AppState.Passes.accepts (passes : self.Passes sdk event request verified) :
    ∃ publicData, self.Accepts sdk event request.proof publicData := by
  obtain ⟨-, -, publicData, answered, -, checked⟩ := AppState.verifyRequest_ok.mp passes.verified
  exact ⟨publicData, answered, verified, checked⟩

end Passes

/-- The row belongs to the verification that the request has added. -/
def Recorded (before after : Db) (platform : Platform) (row : PlatformRow) : Prop :=
  row ∈ after.tables.platform platform ∧ row.verificationId = some before.sequence

/-- Against the keys that the node answers, the SDK accepts only values that the issuer of the
credential has attested for their tags. -/
def AttestedBy (sdk : Sdk) (self : AppState) (event : Event) (presentation : Presentation)
    (attested : ContractAddress → CredentialHolderId → String → Web3IdAttribute → Prop) : Prop :=
  ∀ publicData, self.Accepts sdk event presentation publicData →
    ∀ created holder network contract types commitments proofs,
      .web3Id created holder network contract types commitments proofs ∈
        presentation.verifiableCredential →
      ∀ tag value proof, (.revealAttribute tag, .revealAttribute value proof) ∈ proofs →
        attested contract holder tag value

/--
An accepted request records what the credentials reveal for the tags of the issuer if and only if
their statements are in order, and then the issuer has attested every recorded user id.
-/
theorem someVerifier_identityBinding (sdk : Sdk) (self : AppState) (events : List Event)
    (event : Event) (request : Request) (body : event.body = .ok request)
    (created : (self.serve sdk (self.serveAll sdk Db.empty events) event).1 = .ok .created) :
    let before := self.serveAll sdk Db.empty events
    let after := (self.serve sdk before event).2
    ((∀ platform row, Recorded before after platform row →
      self.Binds request.proof platform row) ↔ TagsInOrder request.proof) ∧
    ∀ attested, AttestedBy sdk self event request.proof attested → TagsInOrder request.proof →
      ∀ platform row, Recorded before after platform row →
        attested (self.registry platform) ⟨row.credId⟩ "userId" (.string row.id) := by
  intro before after
  have consistent : before.Consistent := self.serveAll_consistent sdk events
  have outcome := self.serve_outcome sdk consistent event
  change (self.serve sdk before event).1 = .ok .created at created
  generalize served : self.serve sdk before event = result at outcome created
  cases outcome with
  | refused notCreated => exact absurd created notCreated
  | removed answered => nomatch answered.code created
  | @created _ verified entry _ answered _ passes _ entered _ =>
      cases Except.ok.inj (passes.body.symm.trans body)
      have recorded : ∀ platform row, Recorded before after platform row ↔
          ∃ slot, entry.platformEntry platform = some slot ∧ row = slot.row before.sequence := by
        intro platform row
        change row ∈ (self.serve sdk before event).2.tables.platform platform ∧ _ ↔ _
        rw [served]
        exact consistent.mem_recorded
      have binds : (∀ platform row, Recorded before after platform row →
          self.Binds request.proof platform row) ↔ TagsInOrder request.proof := by
        rw [← AppState.binds_iff entered before.sequence]
        constructor
        · intro all platform slot filled
          exact all platform _ ((recorded platform _).mpr ⟨slot, filled, rfl⟩)
        · intro all platform row present
          obtain ⟨slot, filled, rfl⟩ := (recorded platform row).mp present
          exact all platform slot filled
      refine ⟨binds, ?_⟩
      intro attested law inOrder platform row present
      obtain ⟨publicData, accepts⟩ := passes.accepts
      obtain ⟨_, holder, _, _, _, _, listed, same, ⟨proof, userId⟩, -⟩ :=
        binds.mpr inOrder platform row present
      rw [← same]
      exact law publicData accepts _ _ _ _ _ _ _ listed _ _ _ userId

/-- The sample SDK stores and hashes one presentation. -/
def sampleSdk (presentation : Presentation) : Sdk where
  toPresentationSdk := Web3IdVerifier.sampleSdk
  toValue stored := if stored = presentation then [1] else [0]
  fromValue value := if value = [1] then some presentation else none
  toRfc3339Millis _ := "2023-10-01T12:00:00.000Z"
  sha256 _ := [2]

def sampleState : AppState := ⟨⟨1, 0⟩, ⟨2, 0⟩, .testnet, []⟩

/-- The sample presentation has a Telegram credential and an account credential. -/
def samplePresentation (proofs : List (StatementWithProof String)) : Presentation where
  presentationContext := [2]
  verifiableCredential :=
    [.web3Id ⟨0⟩ ⟨7⟩ .testnet ⟨1, 0⟩ [] [] proofs,
      .account ⟨0⟩ .testnet [3] 0
        [(.revealAttribute .firstName, .revealAttribute (.string "First") []),
          (.revealAttribute .lastName, .revealAttribute (.string "Last") [])]]
  linkingProof := [1]

def sampleProofs (first second : String) : List (StatementWithProof String) :=
  [(.revealAttribute first, .revealAttribute (.string "42") []),
    (.revealAttribute second, .revealAttribute (.string "43") [])]

/-- The sample request arrives in time, and every credential is active. -/
def sampleEvent (endpoint : Endpoint) (presentation : Presentation) : Event where
  endpoint := endpoint
  body := .ok ⟨presentation, ⟨0⟩⟩
  now := ⟨0⟩
  node query :=
    match query with
    | .getBlockInfo _ => .error ⟨""⟩
    | .getPublicData _ presentation _ =>
        .ok (presentation.verifiableCredential.map fun _ => ⟨.web3 9, .active⟩)
  faults := []

def samplePost (first second : String) : Event :=
  sampleEvent .post (samplePresentation (sampleProofs first second))

def sampleServed (first second : String) : Except Error StatusCode × Db :=
  sampleState.serve (sampleSdk (samplePresentation (sampleProofs first second))) Db.empty
    (samplePost first second)

/-- The sample request is accepted with its statements in either order. -/
theorem samplePost_created (first second : String) :
    (sampleServed first second).1 = .ok .created := rfl

/-- The sample request records its first value as the user id. -/
theorem samplePost_recorded (first second : String) :
    Recorded Db.empty (sampleServed first second).2 .telegram ⟨"42", 7, some 1, "43"⟩ :=
  ⟨List.mem_singleton.mpr rfl, rfl⟩

/-- The sample with its statements in order is recorded as it was attested. -/
theorem someVerifier_identityBinding_sample :
    sampleState.Binds (samplePresentation (sampleProofs "userId" "username")) .telegram
      ⟨"42", 7, some 1, "43"⟩ := by
  have inOrder : TagsInOrder (samplePresentation (sampleProofs "userId" "username")) := by
    intro created holder network contract types commitments proofs listed
    rcases List.mem_cons.mp listed with same | other
    · cases same
      exact .inl ⟨rfl, rfl⟩
    · simp at other
  exact (someVerifier_identityBinding _ sampleState [] (samplePost "userId" "username") _ rfl
    (samplePost_created "userId" "username")).1.mpr inOrder _ _
      (samplePost_recorded "userId" "username")

/-- With its statements swapped the sample is recorded under the username as its user id. -/
theorem someVerifier_recordsUsername :
    ¬ ∀ sdk self events event request, event.body = .ok request →
      (AppState.serve sdk self (self.serveAll sdk Db.empty events) event).1 = .ok .created →
      ∀ platform row,
        Recorded (self.serveAll sdk Db.empty events)
          (AppState.serve sdk self (self.serveAll sdk Db.empty events) event).2 platform row →
        self.Binds request.proof platform row := by
  intro always
  obtain ⟨_, _, _, _, _, _, listed, -, ⟨_, userId⟩, -⟩ :=
    always _ sampleState [] (samplePost "username" "userId") _ rfl
      (samplePost_created "username" "userId") _ _ (samplePost_recorded "username" "userId")
  rcases List.mem_cons.mp listed with same | other
  · cases same
    simp [sampleProofs] at userId
  · simp at other

end Web3Id.SomeVerifier
