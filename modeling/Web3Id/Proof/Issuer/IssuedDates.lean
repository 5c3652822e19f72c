import Mathlib.Tactic.Common
import Web3Id.Construction.Issuer.IssueCredential

namespace Web3Id.Web3IdIssuer

open Library

/-- A converted timestamp has the milliseconds of its date-time. -/
theorem timestampOf_ok {millis : Int} {timestamp : Timestamp}
    (converts : timestampOf millis = .ok timestamp) : (timestamp.millis.toNat : Int) = millis := by
  unfold timestampOf at converts
  split at converts
  · rename_i range
    cases converts
    rw [UInt64.toNat_ofNat_of_lt' range.2]
    exact Int.toNat_of_nonneg range.1
  · cases converts

/-- The registered credential has the holder of the request, the whole milliseconds of its times,
and ordered times. -/
structure Registers (request : IssueRequest) (info : CredentialInfo) : Prop where
  holder : request.credentialSubject.id.ty.extractPublicKey = some info.holderId.publicKey
  start : (info.validFrom.millis.toNat : Int) = request.validFrom.timestampMillis
  expiry : info.validUntil.map (fun last => (last.millis.toNat : Int)) =
    request.validUntil.map DateTime.timestampMillis
  ordered : ∀ last ∈ info.validUntil, info.validFrom.millis ≤ last.millis

/-- Every request that passes the checks is registered so. -/
theorem credentialInfo_registers {state : State} {request : IssueRequest} {info : CredentialInfo}
    (passes : credentialInfo state request = .ok info) : Registers request info := by
  unfold credentialInfo at passes
  split at passes
  case h_2 => cases passes
  case h_1 key found =>
    simp only at passes
    split at passes
    · cases passes
    cases from' : timestampOf request.validFrom.timestampMillis with
    | error error =>
        rw [from'] at passes
        cases passes
    | ok validFrom =>
        have start := timestampOf_ok from'
        rw [from'] at passes
        cases ends : request.validUntil with
        | none =>
            rw [ends] at passes
            cases passes
            exact ⟨found, start, by rw [ends]; rfl, by simp⟩
        | some time =>
            cases until' : timestampOf time.timestampMillis with
            | error error =>
                rw [ends, Option.mapM_some, until'] at passes
                cases passes
            | ok last =>
                have expiry := timestampOf_ok until'
                rw [ends, Option.mapM_some, until'] at passes
                change (if last.millis < validFrom.millis then _ else _) = _ at passes
                split at passes
                · cases passes
                · rename_i later
                  cases passes
                  refine ⟨found, start, ?_, ?_⟩
                  · rw [ends, Option.map_some, Option.map_some, expiry]
                  · simpa using later

/-- The SDK signs whenever values and randomness have the same keys. -/
def Sdk.Signs (sdk : Sdk) : Prop :=
  ∀ params values randomness holderId issuerKey contract,
    values.map Prod.fst = randomness.map Prod.fst →
      ∃ signature, sdk.fromSecrets params values randomness holderId issuerKey contract =
        some signature

/-- An issued credential takes its holder from the registration and its times from the request. -/
structure Issued (request : IssueRequest) (info : CredentialInfo)
    (credential : SomeIssuer.Web3IdCredential) : Prop where
  holder : credential.holderId = info.holderId
  start : credential.validFrom = request.validFrom
  expiry : credential.validUntil = request.validUntil
  keys : credential.randomness.map Prod.fst = request.credentialSubject.attributes.map Prod.fst

theorem makeSecrets_issued {sdk : Sdk} (signs : sdk.Signs) (state : State)
    (randomness : String → Bytes) (info : CredentialInfo) (request : IssueRequest) :
    ∃ credential, makeSecrets sdk state randomness info.holderId request = .ok credential ∧
      Issued request info credential := by
  obtain ⟨signature, signed⟩ := signs state.cryptoParams request.credentialSubject.attributes
    (request.credentialSubject.attributes.map fun value => (value.1, randomness value.1))
    info.holderId state.issuerKey state.contract (by simp)
  simp only [makeSecrets, signed]
  exact ⟨_, rfl, rfl, rfl, rfl, by simp⟩

section Handler

variable {sdk : Sdk} {state : State} {randomness : String → Bytes}
  {worker : IssueChannelData → WorkerReply} {request : IssueRequest}

/-- A submitted transaction is answered with an issued credential. -/
theorem issueCredential_submitted (randomness : String → Bytes) (signs : sdk.Signs)
    {info : CredentialInfo} {txHash : TransactionHash}
    (passes : credentialInfo state request = .ok info)
    (submitted : worker ⟨info⟩ = .answered (.ok txHash)) :
    ∃ credential,
      (issueCredential sdk state randomness (.ok request)).answeredBy worker =
        .ok ⟨txHash, credential⟩ ∧ Issued request info credential := by
  obtain ⟨credential, made, issued⟩ := makeSecrets_issued signs state randomness info request
  refine ⟨credential, ?_, issued⟩
  simp only [issueCredential, passes, Program.answeredBy_call, submitted, Program.answeredBy_pure,
    made]
  rfl

/-- Only a submitted transaction is answered with a credential. -/
theorem issueCredential_ok {response : IssueResponse}
    (answered : (issueCredential sdk state randomness (.ok request)).answeredBy worker =
      .ok response) :
    ∃ info txHash, credentialInfo state request = .ok info ∧
      worker ⟨info⟩ = .answered (.ok txHash) := by
  cases passes : credentialInfo state request with
  | error error => simp [issueCredential, passes] at answered
  | ok info =>
      simp only [issueCredential, passes, Program.answeredBy_call] at answered
      refine ⟨info, ?_⟩
      split at answered
      · cases answered
      · rename_i txHash replied
        exact ⟨txHash, rfl, replied⟩
      · cases answered
      · cases answered

/-- The job of a request is the credential that it registers. -/
theorem issueCredential_firstCall {job : IssueChannelData} :
    (issueCredential sdk state randomness (.ok request)).firstCall = some job ↔
      credentialInfo state request = .ok job.credential := by
  obtain ⟨credential⟩ := job
  cases passes : credentialInfo state request with
  | error error => simp [issueCredential, passes, Program.firstCall]
  | ok info => simp [issueCredential, passes, Program.firstCall]

end Handler

/-- Two descriptions of a credential denote the same holder and instants, in the right order. -/
structure Denote (info : CredentialInfo) (credential : SomeIssuer.Web3IdCredential) : Prop where
  holder : credential.holderId = info.holderId
  start : credential.validFrom.nanos = info.validFrom.millis.toNat * 1000000
  expiry : credential.validUntil.map DateTime.nanos =
    info.validUntil.map fun last => (last.millis.toNat : Int) * 1000000
  orderedInfo : ∀ last ∈ info.validUntil, info.validFrom.millis ≤ last.millis
  orderedCredential : ∀ last ∈ credential.validUntil, credential.validFrom.nanos ≤ last.nanos

/-- A request is issued in agreement when an answered credential denotes what was handed to the
worker, and every submitted transaction is answered with randomness for the requested attributes. -/
structure IssuedInAgreement (sdk : Sdk) (state : State) (randomness : String → Bytes)
    (worker : IssueChannelData → WorkerReply) (request : IssueRequest) : Prop where
  agrees : ∀ response,
    (issueCredential sdk state randomness (.ok request)).answeredBy worker = .ok response →
      ∃ job, (issueCredential sdk state randomness (.ok request)).firstCall = some job ∧
        Denote job.credential response.credential
  answers : ∀ job txHash,
    (issueCredential sdk state randomness (.ok request)).firstCall = some job →
    worker job = .answered (.ok txHash) →
      ∃ credential,
        (issueCredential sdk state randomness (.ok request)).answeredBy worker =
          .ok ⟨txHash, credential⟩ ∧
        credential.randomness.map Prod.fst = request.credentialSubject.attributes.map Prod.fst

/-- The times of a request have no fraction of a millisecond. -/
def IssueRequest.WholeMillis (request : IssueRequest) : Prop :=
  1000000 ∣ request.validFrom.nanos ∧ ∀ last ∈ request.validUntil, 1000000 ∣ last.nanos

/-- The registered times are those of the credential exactly when they are whole milliseconds. -/
theorem Issued.denote_iff {request : IssueRequest} {info : CredentialInfo}
    {credential : SomeIssuer.Web3IdCredential} (issued : Issued request info credential)
    (registers : Registers request info) : Denote info credential ↔ request.WholeMillis := by
  have start := registers.start
  have expiry := registers.expiry
  have ordered := registers.ordered
  constructor
  · intro denote
    have first := denote.start
    have last := denote.expiry
    rw [issued.start] at first
    rw [issued.expiry] at last
    constructor
    · unfold DateTime.timestampMillis at start
      omega
    · intro time member
      rw [Option.mem_def.mp member] at expiry last
      obtain ⟨registered, found, equal⟩ := Option.map_eq_some_iff.mp expiry
      rw [found, Option.map_some, Option.map_some, Option.some.injEq] at last
      unfold DateTime.timestampMillis at equal
      omega
  · intro ⟨whole, wholeLast⟩
    have first : request.validFrom.nanos = info.validFrom.millis.toNat * 1000000 := by
      unfold DateTime.timestampMillis at start
      omega
    have last : ∀ time ∈ request.validUntil, ∃ registered, info.validUntil = some registered ∧
        time.nanos = registered.millis.toNat * 1000000 := by
      intro time member
      have divides := wholeLast time member
      rw [Option.mem_def.mp member] at expiry
      obtain ⟨registered, found, equal⟩ := Option.map_eq_some_iff.mp expiry
      unfold DateTime.timestampMillis at equal
      exact ⟨registered, found, by omega⟩
    refine ⟨issued.holder, by rw [issued.start, first], ?_, ordered, ?_⟩
    · rw [issued.expiry]
      cases ends : request.validUntil with
      | none =>
          rw [ends] at expiry
          rw [Option.map_eq_none_iff.mp expiry]
          rfl
      | some time =>
          obtain ⟨registered, found, equal⟩ := last time ends
          rw [found, Option.map_some, Option.map_some, equal]
    · intro time member
      rw [issued.expiry] at member
      obtain ⟨registered, found, equal⟩ := last time member
      have later := UInt64.le_iff_toNat_le.mp (ordered registered found)
      rw [issued.start, first, equal]
      omega

/-- A request is issued in agreement exactly when the times of what it registers are whole
milliseconds. -/
theorem issueCredential_agrees (sdk : Sdk) (signs : sdk.Signs) (state : State)
    (randomness : String → Bytes) (worker : IssueChannelData → WorkerReply)
    (request : IssueRequest) :
    IssuedInAgreement sdk state randomness worker request ↔
      ∀ info txHash, credentialInfo state request = .ok info →
        worker ⟨info⟩ = .answered (.ok txHash) → request.WholeMillis := by
  constructor
  · intro agreement info txHash passes submitted
    obtain ⟨credential, answered, issued⟩ := issueCredential_submitted randomness signs passes
      submitted
    obtain ⟨job, first, denote⟩ := agreement.agrees _ answered
    have same : job.credential = info := by
      rw [issueCredential_firstCall, passes] at first
      exact (Except.ok.inj first).symm
    rw [same] at denote
    exact (issued.denote_iff (credentialInfo_registers passes)).mp denote
  · intro whole
    constructor
    · intro response answered
      obtain ⟨info, txHash, passes, submitted⟩ := issueCredential_ok answered
      obtain ⟨credential, again, issued⟩ := issueCredential_submitted randomness signs passes
        submitted
      rw [answered, Except.ok.injEq] at again
      refine ⟨⟨info⟩, issueCredential_firstCall.mpr passes, ?_⟩
      rw [again]
      exact (issued.denote_iff (credentialInfo_registers passes)).mpr
        (whole info txHash passes submitted)
    · intro job txHash first submitted
      obtain ⟨credential, answered, issued⟩ := issueCredential_submitted randomness signs
        (issueCredential_firstCall.mp first) submitted
      exact ⟨credential, answered, issued.keys⟩

/-- This SDK signs matching commitments. -/
def sampleSdk : Sdk where
  fromSecrets _ values randomness _ _ _ :=
    if values.map Prod.fst = randomness.map Prod.fst then some [1] else none

theorem sampleSdk_signs : sampleSdk.Signs :=
  fun _ _ _ _ _ _ same => ⟨[1], if_pos same⟩

def sampleState : State where
  cryptoParams := []
  contract := ⟨4718, 0⟩
  issuerKey := []
  issuerPublicKey := 2
  network := .testnet
  credentialSchema := "https://issuer.example/schema"
  credentialType := {"VerifiableCredential"}

/-- The credential starts a millisecond after the epoch and ends a millisecond later. -/
def sampleRequest : IssueRequest where
  validFrom := ⟨1000000⟩
  validUntil := some ⟨2000000⟩
  holderRevocable := true
  credentialSubject := ⟨⟨.testnet, .publicKey 7⟩, [("degree", .string "Bachelor")]⟩
  metadataUrl := ⟨"https://issuer.example/metadata", none⟩

def submittingWorker : IssueChannelData → WorkerReply := fun _ => .answered (.ok ⟨9⟩)

theorem issueCredential_agrees_sample :
    IssuedInAgreement sampleSdk sampleState (fun _ => [3]) submittingWorker sampleRequest :=
  (issueCredential_agrees sampleSdk sampleSdk_signs sampleState (fun _ => [3]) submittingWorker
    sampleRequest).mpr fun _ _ _ _ =>
      ⟨by decide, fun last member => by
        cases member
        decide⟩

/-- The credential starts half a millisecond after it ends. -/
def fractionRequest : IssueRequest :=
  { sampleRequest with validFrom := ⟨1600000⟩, validUntil := some ⟨1100000⟩ }

theorem issueCredential_disagrees :
    (∃ response, (issueCredential sampleSdk sampleState (fun _ => [3])
        (.ok fractionRequest)).answeredBy submittingWorker = .ok response ∧
      response.credential.validFrom = ⟨1600000⟩ ∧
      response.credential.validUntil = some ⟨1100000⟩) ∧
    ¬ IssuedInAgreement sampleSdk sampleState (fun _ => [3]) submittingWorker fractionRequest := by
  have passes : ∃ info, credentialInfo sampleState fractionRequest = .ok info := ⟨_, rfl⟩
  obtain ⟨info, passes⟩ := passes
  have submitted : submittingWorker ⟨info⟩ = .answered (.ok ⟨9⟩) := rfl
  obtain ⟨credential, answered, issued⟩ := issueCredential_submitted (fun _ => [3])
    sampleSdk_signs passes submitted
  refine ⟨⟨_, answered, issued.start, issued.expiry⟩, fun agreement => ?_⟩
  obtain ⟨job, first, denote⟩ := agreement.agrees _ answered
  have start := denote.start
  rw [issued.start] at start
  change (1600000 : Int) = _ at start
  omega

end Web3Id.Web3IdIssuer
