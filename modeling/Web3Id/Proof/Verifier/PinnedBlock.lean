import Web3Id.Construction.Verifier.Ledger
import Web3Id.Construction.Verifier.Web3IdVerifier

namespace Web3Id.Web3IdVerifier

open Library

/-- This is what a positive answer at a block says about a presentation. -/
structure Verified (ledger : Ledger) (valid : Bytes → Presentation → List CredentialsInputs → Prop)
    (state : State) (presentation : Presentation) (block : BlockHash)
    (publicData : List CredentialWithMetadata) : Prop where
  registered : ledger.Reads state.network block presentation publicData
  active : ∀ cm ∈ publicData, cm.status = .active
  proofs : valid state.params presentation (publicData.map CredentialWithMetadata.inputs)

/-- A run that returns a response has read one block and passed both checks. -/
theorem verifyPresentation_ok {sdk : PresentationSdk} {state : State} {ledger : Ledger}
    {reliable : Bool} {body : Except JsonRejection Presentation} {first last : BlockHash}
    {response : Response}
    (run : Program.Answered (ledger.Answers reliable) first (verifyPresentation sdk state body) last
      (.ok response)) :
    ∃ presentation publicData, body = .ok presentation ∧
      ledger.Reads state.network response.block presentation publicData ∧
      (∀ cm ∈ publicData, cm.status = .active) ∧
      sdk.verify state.params presentation (publicData.map CredentialWithMetadata.inputs) =
        .ok response.request := by
  cases body with
  | error rejection => nomatch run.of_pure.2
  | ok presentation =>
      obtain ⟨info, second, blockInfo, run⟩ := run.of_call
      cases blockInfo with
      | blockInfoFails => nomatch run.of_pure.2
      | blockInfo =>
          obtain ⟨reply, third, answered, run⟩ := run.of_call
          cases answered with
          | credentialMissing => nomatch run.of_pure.2
          | publicDataFails => nomatch run.of_pure.2
          | @publicData _ _ _ publicData _ _ reads =>
              cases active : allActive publicData with
              | false =>
                  simp only [active, Bool.not_false, if_true] at run
                  nomatch run.of_pure.2
              | true =>
                  simp only [active, Bool.not_true, Bool.false_eq_true, if_false] at run
                  cases verified : sdk.verify state.params presentation
                      (publicData.map CredentialWithMetadata.inputs) with
                  | error e =>
                      simp only [verified] at run
                      nomatch run.of_pure.2
                  | ok request =>
                      simp only [verified] at run
                      cases run.of_pure.2
                      exact ⟨presentation, publicData, rfl, reads, allActive_iff.mp active,
                        verified⟩

/-- A reliable node lets a run pass at the block that it names first. -/
theorem verifyPresentation_reliable {sdk : PresentationSdk} {state : State} {ledger : Ledger}
    {presentation : Presentation} {first last : BlockHash} {result : Except Error Response}
    {publicData : List CredentialWithMetadata} {request : Web3IdSdk.Request}
    (run : Program.Answered (ledger.Answers true) first
      (verifyPresentation sdk state (.ok presentation)) last result)
    (reads : ledger.Reads state.network first presentation publicData)
    (active : ∀ cm ∈ publicData, cm.status = .active)
    (verified : sdk.verify state.params presentation
      (publicData.map CredentialWithMetadata.inputs) = .ok request) :
    result = .ok ⟨first, ledger.slotTime first, request⟩ := by
  obtain ⟨info, second, blockInfo, run⟩ := run.of_call
  cases blockInfo with
  | blockInfoFails _ _ _ _ fails => nomatch fails
  | blockInfo =>
      obtain ⟨reply, third, answered, run⟩ := run.of_call
      cases answered with
      | credentialMissing _ _ _ missing => exact absurd reads (missing publicData)
      | publicDataFails _ _ _ fails => nomatch fails
      | publicData _ _ read =>
          cases read.unique reads
          simp only [allActive_iff.mpr active, Bool.not_true, Bool.false_eq_true, if_false,
            verified] at run
          exact run.of_pure.2.symm

/-- A reliable node answers both queries of such a run. -/
theorem verifyPresentation_runs {sdk : PresentationSdk} {state : State} {ledger : Ledger}
    {presentation : Presentation} {publicData : List CredentialWithMetadata}
    {request : Web3IdSdk.Request} (first : BlockHash)
    (reads : ledger.Reads state.network first presentation publicData)
    (active : ∀ cm ∈ publicData, cm.status = .active)
    (verified : sdk.verify state.params presentation
      (publicData.map CredentialWithMetadata.inputs) = .ok request) :
    Program.Answered (ledger.Answers true) first (verifyPresentation sdk state (.ok presentation))
      first (.ok ⟨first, ledger.slotTime first, request⟩) := by
  apply Program.Answered.call (.blockInfo first first)
  apply Program.Answered.call (.publicData first first reads)
  simp only [allActive_iff.mpr active, Bool.not_true, Bool.false_eq_true, if_false, verified]
  exact .pure _ _

/--
A 200 answer names a block in whose state every credential is registered and active and the proofs
are valid; a reliable node makes this a sufficient condition as well.
-/
theorem web3IdVerifier_pinnedBlock (sdk : PresentationSdk) (state : State) (ledger : Ledger)
    (valid : Bytes → Presentation → List CredentialsInputs → Prop)
    (verifies : ∀ params presentation inputs,
      (∃ request, sdk.verify params presentation inputs = .ok request) ↔
        valid params presentation inputs) :
    (∀ reliable body first last result response,
      Program.Answered (ledger.Answers reliable) first (verifyPresentation sdk state body) last
        result →
      answer sdk result = (.ok, .inr response) →
      ∃ presentation publicData, body = .ok presentation ∧
        Verified ledger valid state presentation response.block publicData ∧
        sdk.verify state.params presentation (publicData.map CredentialWithMetadata.inputs) =
          .ok response.request) ∧
    (∀ presentation first publicData,
      Verified ledger valid state presentation first publicData →
      (∃ last result, Program.Answered (ledger.Answers true) first
        (verifyPresentation sdk state (.ok presentation)) last result) ∧
      ∀ last result, Program.Answered (ledger.Answers true) first
        (verifyPresentation sdk state (.ok presentation)) last result →
      ∃ request,
        sdk.verify state.params presentation (publicData.map CredentialWithMetadata.inputs) =
          .ok request ∧
        answer sdk result = (.ok, .inr ⟨first, ledger.slotTime first, request⟩)) := by
  constructor
  · intro reliable body first last result response run positive
    cases result with
    | error e => nomatch (Prod.mk.inj positive).2
    | ok named =>
        cases positive
        obtain ⟨presentation, publicData, parsed, reads, active, verified⟩ :=
          verifyPresentation_ok run
        exact ⟨presentation, publicData, parsed,
          ⟨reads, active, (verifies _ _ _).mp ⟨_, verified⟩⟩, verified⟩
  · intro presentation first publicData holds
    obtain ⟨request, verified⟩ := (verifies _ _ _).mpr holds.proofs
    refine ⟨⟨_, _, verifyPresentation_runs first holds.registered holds.active verified⟩, ?_⟩
    intro last result run
    have passed := verifyPresentation_reliable run holds.registered holds.active verified
    exact ⟨request, verified, by rw [passed]; rfl⟩

/-- The sample SDK accepts one linking proof, and returns the statements of the credentials. -/
def sampleSdk : PresentationSdk where
  verify _ presentation inputs :=
    if presentation.linkingProof = [1] ∧
        inputs.length = presentation.verifiableCredential.length then
      .ok ⟨presentation.presentationContext,
        presentation.verifiableCredential.map CredentialProof.statement⟩
    else .error ⟨"The proofs are not valid."⟩
  metadata presentation := presentation.verifiableCredential.map CredentialProof.metadata
  lookupErrorText _ := "The credential was not found."

def sampleState : State := ⟨.testnet, []⟩

/-- Every block of the sample chain holds one active credential of one issuer. -/
def sampleLedger : Ledger where
  slotTime _ := ⟨0⟩
  credential _ metadata :=
    if metadata = .web3Id ⟨3, 0⟩ ⟨7⟩ then some ⟨.web3 9, .active⟩ else none

def samplePresentation : Presentation where
  presentationContext := []
  verifiableCredential := [.web3Id ⟨0⟩ ⟨7⟩ .testnet ⟨3, 0⟩ [] [] []]
  linkingProof := [1]

theorem sampleLedger_reads (block : BlockHash) :
    sampleLedger.Reads .testnet block samplePresentation [⟨.web3 9, .active⟩] :=
  .cons ⟨rfl, rfl⟩ .nil

/-- The sample presentation is verified at the block that the node names. -/
theorem web3IdVerifier_pinnedBlock_sample :
    ∃ last result request, Program.Answered (sampleLedger.Answers true) ⟨5⟩
        (verifyPresentation sampleSdk sampleState (.ok samplePresentation)) last result ∧
      answer sampleSdk result = (.ok, .inr ⟨⟨5⟩, ⟨0⟩, request⟩) := by
  have verified : Verified sampleLedger
      (fun params presentation inputs =>
        ∃ request, sampleSdk.verify params presentation inputs = .ok request)
      sampleState samplePresentation ⟨5⟩ [⟨.web3 9, .active⟩] :=
    ⟨sampleLedger_reads ⟨5⟩, by decide, _, rfl⟩
  obtain ⟨⟨last, result, run⟩, named⟩ := (web3IdVerifier_pinnedBlock sampleSdk sampleState
    sampleLedger _ fun _ _ _ => Iff.rfl).2 _ _ _ verified
  obtain ⟨request, -, positive⟩ := named last result run
  exact ⟨last, result, request, run, positive⟩

end Web3Id.Web3IdVerifier
