import Web3Id.Proof.Verifier.ServiceOutcome

namespace Web3Id

open Library

/-- The bytes of a text. -/
def utf8 (text : String) : Bytes := text.toUTF8.data.toList

theorem toByteArray_utf8 (text : String) : (utf8 text).toByteArray = text.toByteArray := by
  apply ByteArray.ext
  rw [List.data_toByteArray, utf8, Array.toArray_toList, String.toUTF8_eq_toByteArray]

@[simp] theorem fromUTF8?_utf8 (text : String) :
    String.fromUTF8? (utf8 text).toByteArray = some text := by
  rw [toByteArray_utf8]
  simp only [String.fromUTF8?, dif_pos text.isValidUTF8]
  rfl

/-- Only the bytes of a text are decoded without a replacement. -/
theorem utf8_of_fromUTF8? {bytes : Bytes} {text : String}
    (decoded : String.fromUTF8? bytes.toByteArray = some text) : utf8 text = bytes := by
  unfold String.fromUTF8? at decoded
  split at decoded
  · cases decoded
    change bytes.toByteArray.data.toList = bytes
    rw [List.data_toByteArray, List.toList_toArray]
  · nomatch decoded

@[simp] theorem bufferToString_utf8 (text : String) :
    Web3IdVerifierTs.bufferToString (utf8 text) = text := by
  rw [Web3IdVerifierTs.bufferToString, fromUTF8?_utf8]

/-- The two SDKs agree, and both services read the same last finalized block of a node that answers
their queries, with the chain parameters that the Rust service has read at its start. -/
structure Alike (sdk : PresentationSdk) (fromSlice : Bytes → Except JsonRejection Presentation)
    (ts : Web3IdVerifierTs.Sdk) (state : Web3IdVerifier.State)
    (node : (query : NodeQuery) → query.Reply)
    (grpc : (query : Web3IdVerifierTs.GrpcQuery) → query.Reply) : Prop where
  parsers : ∀ text presentation,
    fromSlice (utf8 text) = .ok presentation ↔ ts.fromString text = .ok (.presentation presentation)
  -- the Rust parser reads a text, which is UTF-8
  texts : ∀ bytes presentation, fromSlice bytes = .ok presentation → ∃ text, utf8 text = bytes
  block : ∃ info, node (.getBlockInfo .lastFinal) = .ok info ∧ grpc .getBlockInfo = .ok info
  lookups : ∀ presentation block publicData,
    node (.getPublicData state.network presentation (.given block)) = .ok publicData ↔
      grpc (.getPublicData state.network (.presentation presentation) block) = .ok publicData
  parameters : ∀ block, grpc (.getCryptographicParameters block) = .ok state.params
  -- the TypeScript verifier reads its value again as a presentation
  verifiers : ∀ vp params inputs request, ts.verifyPresentation vp params inputs = .ok request ↔
    ∃ presentation, vp = .presentation presentation ∧
      sdk.verify params presentation inputs = .ok request

/-- Both services accept the body, and return the same request. -/
def SameRequest (rust : HttpResponse Web3IdVerifier.Response)
    (ts : HttpResponse Web3IdVerifierTs.Response) : Prop :=
  ∃ one other, rust = ⟨200, .inr one⟩ ∧ ts = ⟨200, .inr other⟩ ∧
    one.request = other.verifiedRequest

section Agreement

variable {sdk : PresentationSdk} {fromSlice : Bytes → Except JsonRejection Presentation}
  {ts : Web3IdVerifierTs.Sdk} {state : Web3IdVerifier.State}
  {node : (query : NodeQuery) → query.Reply}
  {grpc : (query : Web3IdVerifierTs.GrpcQuery) → query.Reply} {body : HttpBody}

/-- A body that the Rust service accepts is a short text that the TypeScript service accepts. -/
theorem Alike.of_rust (alike : Alike sdk fromSlice ts state node grpc)
    (accepted : ((Web3IdVerifier.serve sdk fromSlice state body).answeredBy node).status = 200) :
    SameRequest ((Web3IdVerifier.serve sdk fromSlice state body).answeredBy node)
        ((Web3IdVerifierTs.serve ts state.network body).answeredBy grpc) ∧
      body.bytes.length ≤ Web3IdVerifier.requestBodyLimit ∧ ∃ text, utf8 text = body.bytes := by
  obtain ⟨info, request, accepts⟩ := Web3IdVerifier.accepts_of_status accepted
  have served := accepts.serves
  obtain ⟨presentation, publicData, ⟨⟨fits, parsed⟩, block, found⟩, active, verified⟩ := accepts
  obtain ⟨text, same⟩ := alike.texts _ _ parsed
  obtain ⟨named, reads, too⟩ := alike.block
  cases block.symm.trans reads
  have other : Web3IdVerifierTs.Accepts ts state.network grpc body info request := by
    refine ⟨.presentation presentation, publicData, state.params, ⟨⟨?_, ?_⟩, too, ?_⟩, active,
      alike.parameters _, (alike.verifiers _ _ _ _).mpr ⟨presentation, rfl, verified⟩⟩
    · exact Nat.le_trans fits (by decide)
    · rw [← same, bufferToString_utf8]
      exact (alike.parsers text presentation).mp (same ▸ parsed)
    · exact (alike.lookups _ _ _).mp found
  exact ⟨⟨_, _, served, other.serves, rfl⟩, fits, text, same⟩

/-- A short text that the TypeScript service accepts is accepted by the Rust service. -/
theorem Alike.of_ts (alike : Alike sdk fromSlice ts state node grpc)
    (accepted : ((Web3IdVerifierTs.serve ts state.network body).answeredBy grpc).status = 200)
    (fits : body.bytes.length ≤ Web3IdVerifier.requestBodyLimit) {text : String}
    (same : utf8 text = body.bytes) :
    ((Web3IdVerifier.serve sdk fromSlice state body).answeredBy node).status = 200 := by
  obtain ⟨info, request, accepts⟩ := Web3IdVerifierTs.accepts_of_status accepted
  obtain ⟨vp, publicData, params, ⟨⟨-, parsed⟩, block, found⟩, active, parameters, accepted⟩ :=
    accepts
  obtain ⟨presentation, rfl, verified⟩ := (alike.verifiers _ _ _ _).mp accepted
  obtain ⟨named, reads, too⟩ := alike.block
  cases block.symm.trans too
  cases (alike.parameters info.blockHash).symm.trans parameters
  rw [← same, bufferToString_utf8] at parsed
  have other : Web3IdVerifier.Accepts sdk fromSlice state node body info request :=
    ⟨presentation, publicData,
      ⟨⟨fits, same ▸ (alike.parsers text presentation).mpr parsed⟩, reads,
        (alike.lookups _ _ _).mpr found⟩,
      active, verified⟩
  rw [other.serves]

end Agreement

/-- The Rust service accepts what the TypeScript service accepts, as long as the body is UTF-8 and
has at most 100000 bytes, and both return the same request. -/
theorem verifiers_agree (sdk : PresentationSdk)
    (fromSlice : Bytes → Except JsonRejection Presentation) (ts : Web3IdVerifierTs.Sdk)
    (state : Web3IdVerifier.State) (node : (query : NodeQuery) → query.Reply)
    (grpc : (query : Web3IdVerifierTs.GrpcQuery) → query.Reply)
    (alike : Alike sdk fromSlice ts state node grpc) (body : HttpBody) :
    (((Web3IdVerifier.serve sdk fromSlice state body).answeredBy node).status = 200 ↔
      ((Web3IdVerifierTs.serve ts state.network body).answeredBy grpc).status = 200 ∧
        body.bytes.length ≤ 100000 ∧ ∃ text, utf8 text = body.bytes) ∧
    (((Web3IdVerifier.serve sdk fromSlice state body).answeredBy node).status = 200 →
      SameRequest ((Web3IdVerifier.serve sdk fromSlice state body).answeredBy node)
        ((Web3IdVerifierTs.serve ts state.network body).answeredBy grpc)) := by
  refine ⟨⟨?_, ?_⟩, fun accepted => (alike.of_rust accepted).1⟩
  · intro accepted
    obtain ⟨⟨_, _, -, answer, -⟩, fits, text⟩ := alike.of_rust accepted
    exact ⟨by rw [answer], fits, text⟩
  · intro both
    obtain ⟨accepted, fits, text, same⟩ := both
    exact alike.of_ts accepted fits same

/-- A presentation without credentials, as JSON without its opening brace. -/
def emptyFields : String :=
  "\"type\":\"VerifiablePresentation\",\"presentationContext\":\"00000000000000000000000000000000" ++
  "00000000000000000000000000000000\",\"verifiableCredential\":[],\"proof\":\x7b\"created\":" ++
  "\"2023-09-21T00:00:00Z\",\"proofValue\":[],\"type\":\"ConcordiumWeakLinkingProofV1\"\x7d\x7d"

def emptyText : String := "\x7b" ++ emptyFields

/-- A field that is not part of a presentation has a replacement character as its value. -/
def notedText : String := "\x7b" ++ ("\"note\":\"\uFFFD\"," ++ emptyFields)

/-- Spaces come before the presentation. -/
def paddedText (count : Nat) : String :=
  String.ofList (List.replicate count ' ' ++ emptyText.toList)

def emptyPresentation : Presentation := ⟨List.replicate 32 0, [], []⟩

/-- The parsers read these texts, with any spaces before them. -/
def parseSample (text : String) : Option Presentation :=
  if text.toList.dropWhile (· = ' ') ∈ [emptyText.toList, notedText.toList] then
    some emptyPresentation
  else none

def sampleFromSlice (bytes : Bytes) : Except JsonRejection Presentation :=
  match (String.fromUTF8? bytes.toByteArray).bind parseSample with
  | some presentation => .ok presentation
  | none => .error ⟨"Failed to parse the request body as JSON"⟩

def sampleVerify (presentation : Presentation) (inputs : List CredentialsInputs) :
    Option Web3IdSdk.Request :=
  if presentation = emptyPresentation ∧ inputs = [] then some ⟨presentation.presentationContext, []⟩
  else none

def sampleRust : PresentationSdk where
  verify _ presentation inputs :=
    match sampleVerify presentation inputs with
    | some request => .ok request
    | none => .error ⟨"The proofs are not valid."⟩
  metadata presentation := presentation.verifiableCredential.map CredentialProof.metadata
  lookupErrorText _ := "The credential was not found."

def sampleTs : Web3IdVerifierTs.Sdk where
  fromString text :=
    match parseSample text with
    | some presentation => .ok (.presentation presentation)
    | none => .error (.error "Unexpected token")
  verifyPresentation vp _ inputs :=
    match vp with
    | .presentation presentation =>
        match sampleVerify presentation inputs with
        | some request => .ok request
        | none => .error (.error "The proofs are not valid.")
    | .other _ => .error (.error "The value is no presentation.")
  errorPage _ _ := "Error"

/-- The sample chain has no credentials. -/
def sampleNode : (query : NodeQuery) → query.Reply
  | .getBlockInfo _ => .ok ⟨⟨5⟩, ⟨0⟩⟩
  | .getPublicData _ presentation _ =>
      if presentation.verifiableCredential = [] then .ok []
      else .error (.invalidResponse "The credential was not found.")

def sampleGrpc : (query : Web3IdVerifierTs.GrpcQuery) → query.Reply
  | .getBlockInfo => .ok ⟨⟨5⟩, ⟨0⟩⟩
  | .getPublicData _ (.presentation presentation) _ =>
      if presentation.verifiableCredential = [] then .ok []
      else .error (.js (.error "The credential was not found."))
  | .getPublicData _ (.other _) _ => .error (.js (.error "The value is no presentation."))
  | .getCryptographicParameters _ => .ok []

theorem sampleAlike : Alike sampleRust sampleFromSlice sampleTs ⟨.testnet, []⟩ sampleNode
    sampleGrpc where
  parsers text presentation := by
    simp only [sampleFromSlice, sampleTs, fromUTF8?_utf8, Option.bind_some]
    cases parseSample text <;> simp
  texts bytes presentation parsed := by
    unfold sampleFromSlice at parsed
    cases decoded : String.fromUTF8? bytes.toByteArray with
    | none => simp [decoded] at parsed
    | some text => exact ⟨text, utf8_of_fromUTF8? decoded⟩
  block := ⟨_, rfl, rfl⟩
  lookups presentation block publicData := by
    by_cases empty : presentation.verifiableCredential = [] <;>
      simp [sampleNode, sampleGrpc, empty]
  parameters block := rfl
  verifiers vp params inputs request := by
    cases vp with
    | presentation presentation =>
        simp only [sampleRust, sampleTs]
        cases same : sampleVerify presentation inputs <;> simp [same]
    | other json => simp [sampleTs]

/-- The parsers skip the spaces before an opening brace. -/
theorem dropWhile_spaces (count : Nat) (fields : String) :
    (List.replicate count ' ' ++ ("\x7b" ++ fields).toList).dropWhile (· = ' ') =
      ("\x7b" ++ fields).toList := by
  have opening : ("\x7b" ++ fields).toList = '\x7b' :: fields.toList := by
    rw [String.toList_append]
    rfl
  rw [opening, List.dropWhile_append_of_pos, List.dropWhile_cons_of_neg (by decide)]
  intro char listed
  exact decide_eq_true (List.eq_of_mem_replicate listed)

theorem parseSample_padded (count : Nat) :
    parseSample (paddedText count) = some emptyPresentation := by
  rw [parseSample, paddedText, String.toList_ofList, emptyText, dropWhile_spaces,
    if_pos List.mem_cons_self]

theorem parseSample_noted : parseSample notedText = some emptyPresentation := by
  have dropped := dropWhile_spaces 0 ("\"note\":\"\uFFFD\"," ++ emptyFields)
  rw [List.replicate_zero, List.nil_append] at dropped
  rw [parseSample, notedText, dropped, if_pos (List.mem_cons_of_mem _ List.mem_cons_self)]

/-- Every space is one byte of the text. -/
theorem paddedText_length (count : Nat) :
    (utf8 (paddedText count)).length = count + (utf8 emptyText).length := by
  have size : ∀ text, (utf8 text).length = text.toByteArray.size := fun text => by
    rw [utf8, Array.length_toList, String.toUTF8_eq_toByteArray]
    rfl
  have spaces : (List.replicate count ' ').utf8Encode.size = count := by
    induction count with
    | zero => rfl
    | succ count ih =>
        rw [List.replicate_succ, List.utf8Encode_cons, ByteArray.size_append, ih]
        exact Nat.add_comm 1 count
  rw [size, size, paddedText, String.toByteArray_ofList, List.utf8Encode_append,
    ByteArray.size_append, spaces, ← String.toByteArray_ofList, String.ofList_toList]

/-- The TypeScript service accepts a sample text of at most 100kb. -/
theorem sampleTs_accepts {body : HttpBody} (fits : body.bytes.length ≤ 102400)
    (parsed : parseSample (Web3IdVerifierTs.bufferToString body.bytes) = some emptyPresentation) :
    ((Web3IdVerifierTs.serve sampleTs .testnet body).answeredBy sampleGrpc).status = 200 := by
  have verified : sampleTs.verifyPresentation (.presentation emptyPresentation) [] [] =
      .ok ⟨emptyPresentation.presentationContext, []⟩ := by
    simp [sampleTs, sampleVerify]
  have accepts : Web3IdVerifierTs.Accepts sampleTs .testnet sampleGrpc body ⟨⟨5⟩, ⟨0⟩⟩
      ⟨emptyPresentation.presentationContext, []⟩ :=
    ⟨.presentation emptyPresentation, [], [], ⟨⟨fits, by simp [sampleTs, parsed]⟩, rfl, rfl⟩, rfl, rfl,
      verified⟩
  rw [accepts.serves]

/-- The Rust service refuses a short body that it cannot parse. -/
theorem sampleRust_refuses {body : HttpBody} {rejection : JsonRejection}
    (fits : body.bytes.length ≤ 100000) (parsed : sampleFromSlice body.bytes = .error rejection) :
    ((Web3IdVerifier.serve sampleRust sampleFromSlice ⟨.testnet, []⟩ body).answeredBy
      sampleNode).status = 400 := by
  rw [Web3IdVerifier.serve_fits fits, parsed]
  rfl

theorem emptyText_length : (utf8 emptyText).length ≤ 1000 ∧ 1 ≤ (utf8 emptyText).length := by
  decide +kernel

theorem paddedText_le (count : Nat) : (utf8 (paddedText count)).length ≤ count + 1000 := by
  rw [paddedText_length]
  exact Nat.add_le_add_left emptyText_length.1 count

/-- The TypeScript service accepts the sample presentation behind at most 100000 spaces. -/
theorem paddedText_accepted {count : Nat} (few : count ≤ 100000) :
    ((Web3IdVerifierTs.serve sampleTs .testnet ⟨utf8 (paddedText count), true⟩).answeredBy
      sampleGrpc).status = 200 := by
  apply sampleTs_accepts
  · change (utf8 (paddedText count)).length ≤ 102400
    exact Nat.le_trans (paddedText_le count) (by omega)
  · rw [bufferToString_utf8, parseSample_padded]

/-- The sample presentation is accepted by both services. -/
theorem verifiers_agree_sample :
    SameRequest
      ((Web3IdVerifier.serve sampleRust sampleFromSlice ⟨.testnet, []⟩
        ⟨utf8 (paddedText 0), true⟩).answeredBy sampleNode)
      ((Web3IdVerifierTs.serve sampleTs .testnet ⟨utf8 (paddedText 0), true⟩).answeredBy
        sampleGrpc) := by
  have agree : ∀ count, count ≤ 1000 → SameRequest
      ((Web3IdVerifier.serve sampleRust sampleFromSlice ⟨.testnet, []⟩
        ⟨utf8 (paddedText count), true⟩).answeredBy sampleNode)
      ((Web3IdVerifierTs.serve sampleTs .testnet ⟨utf8 (paddedText count), true⟩).answeredBy
        sampleGrpc) := by
    intro count few
    have fits : (utf8 (paddedText count)).length ≤ 100000 :=
      Nat.le_trans (paddedText_le count) (by omega)
    have both := verifiers_agree sampleRust sampleFromSlice sampleTs ⟨.testnet, []⟩ sampleNode
      sampleGrpc sampleAlike ⟨utf8 (paddedText count), true⟩
    exact both.2 (both.1.mpr
      ⟨paddedText_accepted (Nat.le_trans few (by decide)), fits, paddedText count, rfl⟩)
  exact agree 0 (by decide)

/-- A byte that is not UTF-8 is the value of a field that is not part of a presentation. -/
def notedBytes : Bytes := utf8 "\x7b\"note\":\"" ++ 0xFF :: utf8 ("\"," ++ emptyFields)

theorem notedBytes_illFormed : String.fromUTF8? notedBytes.toByteArray = none := by
  decide +kernel

theorem notedBytes_length : notedBytes.length ≤ 100000 := by decide +kernel

/-- A body of more than 100000 bytes, or one that is not UTF-8, is accepted by the TypeScript
service only. -/
theorem verifiers_disagree :
    (¬ ∀ (sdk : PresentationSdk) (fromSlice : Bytes → Except JsonRejection Presentation)
      (ts : Web3IdVerifierTs.Sdk) (state : Web3IdVerifier.State)
      (node : (query : NodeQuery) → query.Reply)
      (grpc : (query : Web3IdVerifierTs.GrpcQuery) → query.Reply),
      Alike sdk fromSlice ts state node grpc → ∀ body : HttpBody,
      ((Web3IdVerifier.serve sdk fromSlice state body).answeredBy node).status = 200 ↔
        ((Web3IdVerifierTs.serve ts state.network body).answeredBy grpc).status = 200) ∧
    ((Web3IdVerifierTs.serve sampleTs .testnet ⟨notedBytes, true⟩).answeredBy sampleGrpc).status =
        200 ∧
      ((Web3IdVerifier.serve sampleRust sampleFromSlice ⟨.testnet, []⟩
        ⟨notedBytes, true⟩).answeredBy sampleNode).status = 400 := by
  refine ⟨fun always => ?_, ?_, ?_⟩
  · have refused : ∀ count, 100000 ≤ count → ¬ count ≤ 100000 := by
      intro count many few
      have rust := (always sampleRust sampleFromSlice sampleTs ⟨.testnet, []⟩ sampleNode sampleGrpc
        sampleAlike ⟨utf8 (paddedText count), true⟩).mpr (paddedText_accepted few)
      have fits : (utf8 (paddedText count)).length ≤ 100000 := (sampleAlike.of_rust rust).2.1
      have length := paddedText_length count
      have long := emptyText_length.2
      omega
    exact refused 100000 (Nat.le_refl _) (Nat.le_refl _)
  · have replaced : String.ofList (Web3IdVerifierTs.decodeReplacing none notedBytes) =
        notedText := by
      decide +kernel
    have decoded : Web3IdVerifierTs.bufferToString notedBytes = notedText := by
      rw [Web3IdVerifierTs.bufferToString, notedBytes_illFormed, replaced]
    exact sampleTs_accepts (Nat.le_trans notedBytes_length (by decide))
      (by rw [decoded, parseSample_noted])
  · exact sampleRust_refuses notedBytes_length
      (by rw [sampleFromSlice, notedBytes_illFormed, Option.bind_none])

end Web3Id
