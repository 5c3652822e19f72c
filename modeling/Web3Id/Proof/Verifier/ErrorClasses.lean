import Web3Id.Proof.Verifier.ServiceOutcome
import Web3Id.Proof.Verifier.VerifierAgreement

namespace Web3Id

open Library

/-- The status codes that a cause is to be answered with. -/
def Cause.Covers : Cause → Nat → Prop
  | .request, status => 400 ≤ status ∧ status < 500
  | .node, status => 500 ≤ status ∧ status < 600
  | .both, status => 400 ≤ status ∧ status < 600

instance (cause : Cause) (status : Nat) : Decidable (cause.Covers status) := by
  cases cause <;> exact inferInstanceAs (Decidable (_ ∧ _))

namespace Web3IdVerifier

variable (sdk : PresentationSdk) (fromSlice : Bytes → Except JsonRejection Presentation)
  (state : State) (node : (query : NodeQuery) → query.Reply) (ledger : Ledger) (failed : Bool)
  (body : HttpBody)

/-- Every refusal is answered with a status code of its cause. -/
def Classifies : Prop :=
  ∀ cause, Refuses sdk fromSlice state node ledger failed body cause →
    cause.Covers ((serve sdk fromSlice state body).answeredBy node).status

/-- No query fails for a presentation, except that credentials are not found because they are not
registered. -/
structure NodeAnswers : Prop where
  block : ∀ presentation, Parses fromSlice body presentation →
    ∃ info, node (.getBlockInfo .lastFinal) = .ok info
  lookup : ∀ presentation info, Parses fromSlice body presentation →
    node (.getBlockInfo .lastFinal) = .ok info →
    ledger.Registers state.network info.blockHash presentation →
    ∃ found, node (.getPublicData state.network presentation (.given info.blockHash)) = .ok found

variable {sdk fromSlice state node ledger failed body}

/-- The status of a refusal covers every cause but the node. -/
theorem covers_iff {cause : Cause}
    (refuses : Refuses sdk fromSlice state node ledger failed body cause) :
    cause.Covers ((serve sdk fromSlice state body).answeredBy node).status ↔ cause ≠ .node := by
  have decided : ∀ cause : Cause, ∀ status ∈ [400, 404, 413],
      cause.Covers status ↔ cause ≠ .node := by
    intro cause
    cases cause <;> decide
  exact decided cause _ refuses.status

/-- A refusal is due to the node alone if and only if a query fails. -/
theorem refuses_node_iff : Refuses sdk fromSlice state node ledger failed body .node ↔
    ¬ NodeAnswers fromSlice state node ledger body := by
  constructor
  · intro refuses answers
    cases refuses with
    | blockFails parses block =>
        obtain ⟨info, ok⟩ := answers.block _ parses
        cases block.symm.trans ok
    | lookupFails parses block found fails =>
        cases fails with
        | node registers =>
            obtain ⟨publicData, ok⟩ := answers.lookup _ _ parses block registers
            cases found.symm.trans ok
  · intro silent
    by_contra served
    apply silent
    constructor
    · intro presentation parses
      cases block : node (.getBlockInfo .lastFinal) with
      | ok info => exact ⟨info, rfl⟩
      | error e => exact absurd (.blockFails parses block) served
    · intro presentation info parses block registers
      cases found : node (.getPublicData state.network presentation (.given info.blockHash)) with
      | ok publicData => exact ⟨publicData, rfl⟩
      | error e => exact absurd (.lookupFails parses block found (.node registers)) served

/-- The Rust service gives a failure of the node the status of a refused request. -/
theorem classifies_iff : Classifies sdk fromSlice state node ledger failed body ↔
    NodeAnswers fromSlice state node ledger body := by
  rw [← not_not (a := NodeAnswers fromSlice state node ledger body), ← refuses_node_iff]
  constructor
  · intro classifies refuses
    exact (covers_iff refuses).mp (classifies .node refuses) rfl
  · intro served cause refuses
    rw [covers_iff refuses]
    intro due
    exact served (due ▸ refuses)

end Web3IdVerifier

namespace Web3IdVerifierTs

variable (sdk : Sdk) (network : Network) (grpc : (query : GrpcQuery) → query.Reply)
  (ledger : Ledger) (failed : Bool) (body : HttpBody)

/-- Every refusal is answered with a status code of its cause. -/
def Classifies : Prop :=
  ∀ cause, Refuses sdk network grpc ledger failed body cause →
    cause.Covers ((serve sdk network body).answeredBy grpc).status

/-- The parser reads a body within the limit, and the class of an error that is thrown for its value
tells whether a query failed or there are no registered credentials. -/
structure ErrorsTell : Prop where
  parses : body.bytes.length ≤ bodyParserLimit → ∃ vp, Parses sdk body vp
  rpcError : ∀ vp info message, Parses sdk body vp → grpc .getBlockInfo = .ok info →
    grpc (.getPublicData network vp info.blockHash) = .error (.rpcError message) →
    failed = true ∨ vp.Registered ledger network info.blockHash
  js : ∀ vp info thrown, Parses sdk body vp → grpc .getBlockInfo = .ok info →
    grpc (.getPublicData network vp info.blockHash) = .error (.js thrown) →
    ¬ vp.Registered ledger network info.blockHash

variable {sdk network grpc ledger failed body}

/-- A failed query has a status of the server, also for a value that is no presentation. -/
theorem failure_covers (vp : VerifiablePresentation) : vp.failure.Covers 500 := by
  cases vp with
  | presentation | other => exact ⟨by decide, by decide⟩

theorem ErrorsTell.classifies (tell : ErrorsTell sdk network grpc ledger failed body) :
    Classifies sdk network grpc ledger failed body := by
  intro cause refuses
  cases refuses with
  | tooLong long =>
      rw [tooLong_status long]
      decide
  | unread fits parsed =>
      obtain ⟨vp, -, read⟩ := tell.parses fits
      cases parsed.symm.trans read
  | blockFails parses block =>
      rw [blockFails_status parses block]
      exact failure_covers _
  | @lookupFails vp info e _ parses block found fails =>
      rw [lookupFails_status parses block found]
      cases e with
      | rpcError message =>
          cases fails with
          | request answered missing =>
              rcases tell.rpcError _ _ _ parses block found with fails | registers
              · cases answered.symm.trans fails
              · exact absurd registers missing
          | both | node => simp [Cause.Covers, Thrown.status]
      | js thrown =>
          cases fails with
          | node registers => exact absurd registers (tell.js _ _ _ parses block found)
          | request | both => simp [Cause.Covers, Thrown.status]
  | inactive finds active =>
      rw [inactive_status finds active]
      decide
  | parametersFail finds active parameters =>
      rw [parametersFail_status finds active parameters]
      exact failure_covers _
  | invalidProof finds active parameters verified =>
      rw [invalidProof_status finds active parameters verified]
      decide

theorem Classifies.errorsTell (classifies : Classifies sdk network grpc ledger failed body) :
    ErrorsTell sdk network grpc ledger failed body where
  parses fits := by
    cases parsed : sdk.fromString (bufferToString body.bytes) with
    | ok vp => exact ⟨vp, fits, parsed⟩
    | error e =>
        have covers := classifies _ (.unread fits parsed)
        rw [unread_status fits parsed] at covers
        exact absurd covers (by decide)
  rpcError vp info message parses block found := by
    by_contra neither
    obtain ⟨answered, missing⟩ := not_or.mp neither
    have covers := classifies _ (.lookupFails parses block found
      (.request (eq_false_of_ne_true answered) missing))
    rw [lookupFails_status parses block found] at covers
    exact absurd covers (by simp [Cause.Covers, Thrown.status])
  js vp info thrown parses block found registers := by
    have covers := classifies _ (.lookupFails parses block found (.node registers))
    rw [lookupFails_status parses block found] at covers
    exact absurd covers (by simp [Cause.Covers, Thrown.status])

end Web3IdVerifierTs

/-- The Rust service answers as documented unless a query to the node fails, and the TypeScript
service unless its parser cannot read the body or the class of an error is misleading. -/
theorem verifiers_classify (sdk : PresentationSdk)
    (fromSlice : Bytes → Except JsonRejection Presentation) (ts : Web3IdVerifierTs.Sdk)
    (state : Web3IdVerifier.State) (network : Network) (node : (query : NodeQuery) → query.Reply)
    (grpc : (query : Web3IdVerifierTs.GrpcQuery) → query.Reply) (ledger : Ledger) (failed : Bool)
    (body : HttpBody) :
    (Web3IdVerifier.Classifies sdk fromSlice state node ledger failed body ↔
      Web3IdVerifier.NodeAnswers fromSlice state node ledger body) ∧
    (Web3IdVerifierTs.Classifies ts network grpc ledger failed body ↔
      Web3IdVerifierTs.ErrorsTell ts network grpc ledger failed body) :=
  ⟨Web3IdVerifier.classifies_iff, Web3IdVerifierTs.Classifies.errorsTell,
    Web3IdVerifierTs.ErrorsTell.classifies⟩

/-- No connection to the node is possible. -/
def silentNode : (query : NodeQuery) → query.Reply
  | .getBlockInfo _ => .error ⟨"connection refused"⟩
  | .getPublicData _ _ _ => .error (.queryError ⟨"connection refused"⟩)

theorem parseSample_empty : parseSample "" = none := by
  have opening : ∀ fields : String, ("\x7b" ++ fields).toList ≠ [] := by
    intro fields empty
    rw [String.toList_append] at empty
    exact absurd (List.append_eq_nil_iff.mp empty).1 (by decide)
  have dropped : "".toList.dropWhile (· = ' ') = [] := rfl
  rw [parseSample, dropped, if_neg]
  rw [List.mem_cons, List.mem_singleton, not_or]
  exact ⟨(opening emptyFields).symm, (opening _).symm⟩

/-- The sample presentation is answered with 404 when the node is silent. -/
theorem silentNode_misclassified {count : Nat} (few : count ≤ 1000) :
    ¬ Web3IdVerifier.Classifies sampleRust sampleFromSlice ⟨.testnet, []⟩ silentNode .empty true
        ⟨utf8 (paddedText count), true⟩ ∧
      ((Web3IdVerifier.serve sampleRust sampleFromSlice ⟨.testnet, []⟩
        ⟨utf8 (paddedText count), true⟩).answeredBy silentNode).status = 404 := by
  have fits : (utf8 (paddedText count)).length ≤ 100000 :=
    Nat.le_trans (paddedText_le count) (by omega)
  have parses : Web3IdVerifier.Parses sampleFromSlice ⟨utf8 (paddedText count), true⟩
      emptyPresentation := ⟨fits, by simp [sampleFromSlice, parseSample_padded]⟩
  have status : ((Web3IdVerifier.serve sampleRust sampleFromSlice ⟨.testnet, []⟩
      ⟨utf8 (paddedText count), true⟩).answeredBy silentNode).status = 404 :=
    Web3IdVerifier.blockFails_status parses rfl
  refine ⟨fun classifies => ?_, status⟩
  have covers := classifies .node (.blockFails parses rfl)
  rw [status] at covers
  exact absurd covers (by decide)

/-- A text that the parser cannot read is answered with 500. -/
theorem unread_misclassified {text : String} (fits : (utf8 text).length ≤ 102400)
    (unread : parseSample text = none) :
    ¬ Web3IdVerifierTs.Classifies sampleTs .testnet sampleGrpc .empty false ⟨utf8 text, true⟩ ∧
      ((Web3IdVerifierTs.serve sampleTs .testnet ⟨utf8 text, true⟩).answeredBy sampleGrpc).status =
        500 := by
  have parsed : sampleTs.fromString (Web3IdVerifierTs.bufferToString (utf8 text)) =
      .error (.error "Unexpected token") := by
    rw [bufferToString_utf8]
    simp [sampleTs, unread]
  have status : ((Web3IdVerifierTs.serve sampleTs .testnet ⟨utf8 text, true⟩).answeredBy
      sampleGrpc).status = 500 :=
    Web3IdVerifierTs.unread_status fits parsed
  refine ⟨fun classifies => ?_, status⟩
  have covers := classifies .request (.unread fits parsed)
  rw [status] at covers
  exact absurd covers (by decide)

/-- The Rust service answers a presentation with 404 when the node is silent, and the TypeScript
service answers an empty body with 500. -/
theorem verifiers_misclassify :
    (¬ Web3IdVerifier.Classifies sampleRust sampleFromSlice ⟨.testnet, []⟩ silentNode .empty true
        ⟨utf8 (paddedText 0), true⟩ ∧
      ((Web3IdVerifier.serve sampleRust sampleFromSlice ⟨.testnet, []⟩
        ⟨utf8 (paddedText 0), true⟩).answeredBy silentNode).status = 404) ∧
    (¬ Web3IdVerifierTs.Classifies sampleTs .testnet sampleGrpc .empty false ⟨utf8 "", true⟩ ∧
      ((Web3IdVerifierTs.serve sampleTs .testnet ⟨utf8 "", true⟩).answeredBy sampleGrpc).status =
        500) :=
  ⟨silentNode_misclassified (Nat.zero_le _), unread_misclassified (by decide) parseSample_empty⟩

end Web3Id
