import Web3Id.Proof.SomeVerifier.DeletionAuthority
import Web3Id.Proof.SomeVerifier.NameExtraction
import Web3Id.Proof.SomeVerifier.ReadBack

namespace Web3Id.SomeVerifier

open Library

/-- The proofs reveal both parts of a name, each for its attribute. -/
structure RevealsFullName (proofs : List (StatementWithProof AttributeTag)) (name : FullName) :
    Prop where
  first : ∃ pair ∈ proofs, AppState.RevealsName .firstName pair name.firstName
  last : ∃ pair ∈ proofs, AppState.RevealsName .lastName pair name.lastName

/-- An account credential of the presentation reveals the name. -/
def PresentsName (presentation : Presentation) (name : FullName) : Prop :=
  ∃ created network credId issuer proofs,
    .account created network credId issuer proofs ∈ presentation.verifiableCredential ∧
      RevealsFullName proofs name

/-- The request has the presentation, and the SDK accepts it against the public data that the node
answers for it. -/
def AppState.AcceptsRequest (sdk : Sdk) (self : AppState) (event : Event)
    (presentation : Presentation) : Prop :=
  ∃ request publicData, event.body = .ok request ∧ request.proof = presentation ∧
    self.Accepts sdk event presentation publicData

/-- A presentation that was accepted in a request shows the name and every row of the
verification. -/
structure Tables.Backs (sdk : Sdk) (state : AppState) (received : Event → Prop) (tables : Tables)
    (verification : VerificationRow) (presentation : Presentation) : Prop where
  accepted : ∃ event, received event ∧ state.AcceptsRequest sdk event presentation
  named : ∀ name, verification.Stores (some name) → PresentsName presentation name
  rows : ∀ platform, ∀ row ∈ tables.platform platform,
    row.verificationId = some verification.id → state.Presents presentation platform row.credId

/-- There is such a presentation for every verification. -/
def Tables.Presented (sdk : Sdk) (self : AppState) (received : Event → Prop) (tables : Tables) :
    Prop :=
  ∀ verification ∈ tables.verifications, ∃ presentation,
    tables.Backs sdk self received verification presentation

namespace AppState

variable {sdk : Sdk} {self : AppState} {proof : Presentation} {entry : VerificationsEntry}
  {received : Event → Prop}

/-- A name that the loop ends with was there before, or a pair of the list reveals it. -/
def ComesFrom (tag : AttributeTag) (proofs : List (StatementWithProof AttributeTag))
    (before after : Option String) : Prop :=
  ∀ name, after = some name → before = some name ∨ ∃ pair ∈ proofs, RevealsName tag pair name

theorem ComesFrom.skip {tag : AttributeTag} {proofs : List (StatementWithProof AttributeTag)}
    {before after : Option String} (rest : ComesFrom tag proofs before after)
    (pair : StatementWithProof AttributeTag) : ComesFrom tag (pair :: proofs) before after := by
  intro name found
  rcases rest name found with old | ⟨other, listed, reveals⟩
  · exact .inl old
  · exact .inr ⟨other, List.mem_cons_of_mem _ listed, reveals⟩

theorem ComesFrom.take {tag : AttributeTag} {proofs : List (StatementWithProof AttributeTag)}
    {after : Option String} {shown : String} (rest : ComesFrom tag proofs (some shown) after)
    {pair : StatementWithProof AttributeTag} (reveals : RevealsName tag pair shown)
    (before : Option String) : ComesFrom tag (pair :: proofs) before after := by
  intro name found
  rcases rest name found with now | ⟨other, listed, later⟩
  · cases now
    exact .inr ⟨pair, List.mem_cons_self, reveals⟩
  · exact .inr ⟨other, List.mem_cons_of_mem _ listed, later⟩

/-- The names that the loop finds are revealed by a pair of the list, or were found before. -/
theorem readNames_reveals {proofs : List (StatementWithProof AttributeTag)}
    {names found : Option String × Option String} (read : readNames proofs names = .ok found) :
    ComesFrom .firstName proofs names.1 found.1 ∧ ComesFrom .lastName proofs names.2 found.2 := by
  induction proofs generalizing names with
  | nil =>
      cases read
      exact ⟨fun _ => .inl, fun _ => .inl⟩
  | cons pair proofs ih =>
      rcases readNames_cons pair proofs names with
        ⟨name, shown, run⟩ | ⟨name, shown, run⟩ | ⟨-, run⟩
      · obtain ⟨first, last⟩ := ih (run.symm.trans read)
        exact ⟨first.take shown names.1, last.skip pair⟩
      · obtain ⟨first, last⟩ := ih (run.symm.trans read)
        exact ⟨first.skip pair, last.take shown names.2⟩
      · nomatch run.symm.trans read

/-- A name of the entry was there at the start, or one of the credentials reveals it. -/
theorem named_of_execution {start : VerificationsEntry} {credentials : List CredentialProof}
    (run : Execution (fun before credential after =>
      self.proofToVerificationsEntry before credential = .ok after) start credentials entry)
    {name : FullName} (named : entry.fullName = some name) :
    start.fullName = some name ∨ ∃ created network credId issuer proofs,
      .account created network credId issuer proofs ∈ credentials ∧
        RevealsFullName proofs name := by
  induction run with
  | done state => exact .inl named
  | @next _ _ _ credential credentials head _ ih =>
      rcases ih named with before | ⟨created, network, credId, issuer, proofs, listed, reveals⟩
      · cases credential with
        | web3Id =>
            cases fills_of_ok head with
            | @platform _ platform slot shown empty =>
                refine .inl (Eq.trans ?_ before)
                cases platform <;> rfl
        | account created network credId issuer proofs =>
            obtain ⟨-, -, firstName, lastName, read, rfl⟩ :=
              (account_accepted created network credId issuer proofs).mp head
            cases before
            obtain ⟨first, last⟩ := readNames_reveals read
            refine .inr ⟨created, network, credId, issuer, proofs, List.mem_cons_self, ?_, ?_⟩
            · exact (first firstName rfl).resolve_left nofun
            · exact (last lastName rfl).resolve_left nofun
      · exact .inr ⟨created, network, credId, issuer, proofs, List.mem_cons_of_mem _ listed,
          reveals⟩

/-- The presentation of an entry reveals its name. -/
theorem presentsName_of_named (entered : self.proofsToEntry sdk proof = .ok entry) {name : FullName}
    (named : entry.fullName = some name) : PresentsName proof name := by
  have run : Execution (fun before credential after =>
      self.proofToVerificationsEntry before credential = .ok after)
      (.fromPresentation sdk proof) proof.verifiableCredential entry :=
    .of_foldlM (fun _ _ _ => id) entered
  exact (named_of_execution run named).resolve_left nofun

/-- Rows that go away leave the other ones with their presentations. -/
theorem presented_erase {tables : Tables} (presented : tables.Presented sdk self received)
    (ids : List Nat) : (tables.erase ids).Presented sdk self received := by
  intro verification stored
  obtain ⟨presentation, backs⟩ :=
    presented verification (Tables.mem_erase_verifications.mp stored).1
  refine ⟨presentation, backs.accepted, backs.named, ?_⟩
  intro platform row present points
  exact backs.rows platform row (Tables.mem_erase_platform.mp present).1 points

/-- Every outcome keeps the presentations of the verifications. -/
theorem Outcome.presented {db : Db} {event : Event} {result : Except Error StatusCode × Db}
    (consistent : db.Consistent) (listed : received event)
    (before : db.tables.Presented sdk self received) (outcome : self.Outcome sdk db event result) :
    result.2.tables.Presented sdk self received := by
  cases outcome with
  | refused _ _ tables => exact tables ▸ before
  | removed => exact presented_erase before _
  | @created request _ entry _ _ _ passes _ entered _ =>
      intro verification stored
      rcases Tables.mem_withEntry_verifications.mp stored with ⟨old, -⟩ | rfl
      · obtain ⟨presentation, backs⟩ := before verification old
        refine ⟨presentation, backs.accepted, backs.named, ?_⟩
        intro platform row present points
        rcases Tables.mem_withEntry_platform.mp present with kept | ⟨slot, -, rfl⟩
        · exact backs.rows platform row (Tables.mem_erase_platform.mp kept).1 points
        -- The id of the new verification is fresh, so no old one gets a row of it.
        · exact absurd (Option.some.inj points).symm (consistent.fresh verification old)
      · obtain ⟨publicData, accepts⟩ := passes.accepts
        refine ⟨request.proof, ⟨event, listed, request, publicData, passes.body, rfl, accepts⟩,
          ?_, ?_⟩
        · rintro name ⟨first, last⟩
          cases named : entry.fullName with
          | none => simp [VerificationsEntry.row, named] at first
          | some shown =>
              simp only [VerificationsEntry.row, named, Option.map_some,
                Option.some.injEq] at first last
              have same : shown = name := by
                obtain ⟨firstName, lastName⟩ := shown
                exact congrArg₂ FullName.mk first last
              exact presentsName_of_named entered (same ▸ named)
        · intro platform row present points
          obtain ⟨slot, filled, rfl⟩ := consistent.mem_recorded.mp ⟨present, points⟩
          have shown : (platform, slot) ∈ entry.slots := VerificationsEntry.mem_slots.mpr filled
          exact presents_of_slot entered shown

end AppState

end Web3Id.SomeVerifier
