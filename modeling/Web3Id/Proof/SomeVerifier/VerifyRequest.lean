import Web3Id.Construction.Verifier.Ledger
import Web3Id.Proof.SomeVerifier.IdentityBinding

namespace Web3Id.SomeVerifier

open Library

/-- The difference is rounded towards zero, so that the check lets ten minutes and a part pass. -/
theorem numMinutes_le (now timestamp : DateTime) :
    (numMinutes now timestamp).natAbs ≤ 10 ↔
      (now.nanos - timestamp.nanos).natAbs < 11 * 60 * 1000000000 := by
  rw [numMinutes, Int.natAbs_tdiv, Int.natAbs_tdiv]
  change (now.nanos - timestamp.nanos).natAbs / 1000000000 / 60 ≤ 10 ↔ _
  omega

namespace AppState

/-- The checks of a request other than the time window pass on these public data. -/
structure Vouched (sdk : Sdk) (state : AppState)
    (valid : Bytes → Presentation → List CredentialsInputs → Prop) (request : Request)
    (publicData : List CredentialWithMetadata) : Prop where
  challenge : request.proof.presentationContext = sdk.sha256 (sdk.toRfc3339Millis request.timestamp)
  active : ∀ cm ∈ publicData, cm.status = .active
  proofs : valid state.cryptoParams request.proof (publicData.map CredentialWithMetadata.inputs)

/-- The credentials are registered on the network, and the timestamp is at most ten minutes off. -/
structure Documented (sdk : Sdk) (state : AppState)
    (valid : Bytes → Presentation → List CredentialsInputs → Prop) (ledger : Ledger)
    (block : BlockHash) (now : DateTime) (request : Request) : Prop where
  credentials : ∃ publicData, ledger.Reads state.network block request.proof publicData ∧
    state.Vouched sdk valid request publicData
  present : (now.nanos - request.timestamp.nanos).natAbs ≤ 10 * 60 * 1000000000

variable {sdk : Sdk} {self : AppState} {event : Event} {db : Db} {request : Request}
  {valid : Bytes → Presentation → List CredentialsInputs → Prop}

/-- A request passes when the window and all other checks pass on the answer of the node. -/
theorem verifyRequest_passes
    (verifies : ∀ params presentation inputs,
      (∃ verified, sdk.verify params presentation inputs = .ok verified) ↔
        valid params presentation inputs) :
    (∃ verified, ((self.verifyRequest sdk event.now request).run event.answer db).1 =
        .ok verified) ↔
      (event.now.nanos - request.timestamp.nanos).natAbs < 11 * 60 * 1000000000 ∧
      ∃ publicData,
        event.node (.getPublicData self.network request.proof .lastFinal) = .ok publicData ∧
        self.Vouched sdk valid request publicData := by
  simp only [verifyRequest_ok, numMinutes_le]
  constructor
  · intro passed
    obtain ⟨verified, early, challenge, publicData, answered, active, checked⟩ := passed
    exact ⟨early, publicData, answered, challenge, allActive_iff.mp active,
      (verifies _ _ _).mp ⟨verified, checked⟩⟩
  · intro holds
    obtain ⟨early, publicData, answered, vouched⟩ := holds
    obtain ⟨verified, checked⟩ := (verifies _ _ _).mpr vouched.proofs
    exact ⟨verified, early, vouched.challenge, publicData, answered,
      allActive_iff.mpr vouched.active, checked⟩

/-- A verified request is as documented, and one that is not is answered with an error. -/
def EnforcesDocumented (sdk : Sdk) (self : AppState)
    (valid : Bytes → Presentation → List CredentialsInputs → Prop) (ledger : Ledger)
    (block : BlockHash) (event : Event) (db : Db) (request : Request) : Prop :=
  (∀ verified, ((self.verifyRequest sdk event.now request).run event.answer db).1 = .ok verified →
    self.Documented sdk valid ledger block event.now request) ∧
  (¬ self.Documented sdk valid ledger block event.now request →
    ∃ error, ((self.verifyRequest sdk event.now request).run event.answer db).1 = .error error)

/-- The documented conditions are enforced, unless a request that passes all other checks is more
than ten and less than eleven minutes off. -/
theorem verifyRequest_documented (sdk : Sdk) (self : AppState)
    (valid : Bytes → Presentation → List CredentialsInputs → Prop)
    (verifies : ∀ params presentation inputs,
      (∃ verified, sdk.verify params presentation inputs = .ok verified) ↔
        valid params presentation inputs)
    (ledger : Ledger) (block : BlockHash) (event : Event) (db : Db) (request : Request)
    (reads : ∀ publicData,
      event.node (.getPublicData self.network request.proof .lastFinal) = .ok publicData →
      ledger.Reads self.network block request.proof publicData) :
    self.EnforcesDocumented sdk valid ledger block event db request ↔
      ¬ (10 * 60 * 1000000000 < (event.now.nanos - request.timestamp.nanos).natAbs ∧
        (event.now.nanos - request.timestamp.nanos).natAbs < 11 * 60 * 1000000000 ∧
        ∃ publicData,
          event.node (.getPublicData self.network request.proof .lastFinal) = .ok publicData ∧
          self.Vouched sdk valid request publicData) := by
  have passes : (∃ verified, ((self.verifyRequest sdk event.now request).run event.answer db).1 =
      .ok verified) ↔ _ := verifyRequest_passes verifies
  have sound : self.EnforcesDocumented sdk valid ledger block event db request ↔
      ((∃ verified, ((self.verifyRequest sdk event.now request).run event.answer db).1 =
        .ok verified) → self.Documented sdk valid ledger block event.now request) := by
    constructor
    · rintro ⟨accepted, -⟩ ⟨verified, ok⟩
      exact accepted verified ok
    · intro accepted
      refine ⟨fun verified ok => accepted ⟨verified, ok⟩, fun undocumented => ?_⟩
      cases answer : ((self.verifyRequest sdk event.now request).run event.answer db).1 with
      | error error => exact ⟨error, rfl⟩
      | ok verified => exact absurd (accepted ⟨verified, answer⟩) undocumented
  rw [sound, passes]
  constructor
  · rintro documented ⟨late, early, vouched⟩
    exact absurd (documented ⟨early, vouched⟩).present (Nat.not_le.mpr late)
  · rintro outside ⟨early, publicData, answered, vouched⟩
    refine ⟨⟨publicData, reads publicData answered, vouched⟩, ?_⟩
    by_contra late
    exact outside ⟨Nat.not_le.mp late, early, publicData, answered, vouched⟩

end AppState

/-- Every credential of the sample chain is active. -/
def sampleLedger : Ledger where
  slotTime _ := ⟨0⟩
  credential _ _ := some ⟨.web3 9, .active⟩

def sampleRequest : Request := ⟨samplePresentation (sampleProofs "userId" "username"), ⟨0⟩⟩

/-- The sample request arrives some nanoseconds after its timestamp. -/
def sampleArrival (nanos : Int) : Event :=
  { samplePost "userId" "username" with now := ⟨nanos⟩ }

theorem sampleArrival_reads (nanos : Int) : ∀ publicData,
    (sampleArrival nanos).node (.getPublicData sampleState.network sampleRequest.proof .lastFinal) =
      .ok publicData →
    sampleLedger.Reads sampleState.network ⟨5⟩ sampleRequest.proof publicData := by
  rintro publicData ⟨⟩
  exact .cons ⟨rfl, rfl⟩ (.cons ⟨rfl, rfl⟩ .nil)

/-- The sample request is verified as documented when it arrives on time. -/
theorem verifyRequest_documented_sample :
    sampleState.EnforcesDocumented (sampleSdk sampleRequest.proof)
      (fun params presentation inputs => ∃ verified,
        (sampleSdk sampleRequest.proof).verify params presentation inputs = .ok verified)
      sampleLedger ⟨5⟩ (sampleArrival 0) Db.empty sampleRequest :=
  (AppState.verifyRequest_documented (sampleSdk sampleRequest.proof) sampleState _
    (fun _ _ _ => Iff.rfl) sampleLedger ⟨5⟩ (sampleArrival 0) Db.empty sampleRequest
    (sampleArrival_reads 0)).mpr fun late => absurd late.1 (by decide)

/-- Ten and a half minutes late, the sample request is still verified. -/
theorem verifyRequest_acceptsLate :
    ¬ ∀ (sdk : Sdk) (self : AppState)
      (valid : Bytes → Presentation → List CredentialsInputs → Prop),
      (∀ params presentation inputs,
        (∃ verified, sdk.verify params presentation inputs = .ok verified) ↔
          valid params presentation inputs) →
      ∀ (ledger : Ledger) (block : BlockHash) (event : Event) (db : Db) (request : Request),
      (∀ publicData,
        event.node (.getPublicData self.network request.proof .lastFinal) = .ok publicData →
        ledger.Reads self.network block request.proof publicData) →
      self.EnforcesDocumented sdk valid ledger block event db request := by
  intro always
  have enforces := always (sampleSdk sampleRequest.proof) sampleState _ (fun _ _ _ => Iff.rfl)
    sampleLedger ⟨5⟩ (sampleArrival 630000000000) Db.empty sampleRequest
    (sampleArrival_reads 630000000000)
  have documented := enforces.1 _ rfl
  exact absurd documented.present (by decide)

end Web3Id.SomeVerifier
