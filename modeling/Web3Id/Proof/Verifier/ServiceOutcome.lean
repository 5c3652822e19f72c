import Web3Id.Construction.Verifier.Ledger
import Web3Id.Construction.Verifier.Web3IdVerifier
import Web3Id.Construction.Verifier.Web3IdVerifierTs

namespace Web3Id

open Library

/-- A refusal lies in the request alone, or its only cause is a failed query to the node, or there
are both reasons for it. -/
inductive Cause where
  | request
  | node
  | both
  deriving DecidableEq, Repr

/-- Every credential of the presentation is registered at the block. -/
def Ledger.Registers (ledger : Ledger) (network : Network) (block : BlockHash)
    (presentation : Presentation) : Prop :=
  ∃ publicData, ledger.Reads network block presentation publicData

/-- A lookup fails because its credentials are not registered, or because a query to the node
failed. -/
inductive LookupFails (failed : Bool) (registered : Prop) : Cause → Prop
  | request (answered : failed = false) (missing : ¬ registered) :
      LookupFails failed registered .request
  | both (fails : failed = true) (missing : ¬ registered) : LookupFails failed registered .both
  | node (registers : registered) : LookupFails failed registered .node

/-- A lookup that fails has a cause. -/
theorem exists_lookupFails (failed : Bool) (registered : Prop) :
    ∃ cause, LookupFails failed registered cause := by
  by_cases registers : registered
  · exact ⟨.node, .node registers⟩
  · cases answered : failed with
    | false => exact ⟨.request, .request rfl registers⟩
    | true => exact ⟨.both, .both rfl registers⟩

namespace Web3IdVerifier

variable (sdk : PresentationSdk) (fromSlice : Bytes → Except JsonRejection Presentation)
  (state : State) (node : (query : NodeQuery) → query.Reply) (ledger : Ledger) (failed : Bool)
  (body : HttpBody)

/-- The body is within the limit, and is a presentation. -/
structure Parses (presentation : Presentation) : Prop where
  fits : body.bytes.length ≤ requestBodyLimit
  parsed : fromSlice body.bytes = .ok presentation

/-- The node names a block, and answers with the public data at it. -/
structure Finds (presentation : Presentation) (info : BlockInfo)
    (publicData : List CredentialWithMetadata) : Prop where
  parses : Parses fromSlice body presentation
  block : node (.getBlockInfo .lastFinal) = .ok info
  found : node (.getPublicData state.network presentation (.given info.blockHash)) = .ok publicData

/-- The service refuses the body for this cause. -/
inductive Refuses : Cause → Prop
  | tooLong (long : requestBodyLimit < body.bytes.length) : Refuses .request
  | notPresentation {rejection : JsonRejection} (fits : body.bytes.length ≤ requestBodyLimit)
      (parsed : fromSlice body.bytes = .error rejection) : Refuses .request
  | blockFails {presentation : Presentation} {e : QueryError}
      (parses : Parses fromSlice body presentation)
      (block : node (.getBlockInfo .lastFinal) = .error e) : Refuses .node
  | lookupFails {presentation : Presentation} {info : BlockInfo} {e : CredentialLookupError}
      {cause : Cause} (parses : Parses fromSlice body presentation)
      (block : node (.getBlockInfo .lastFinal) = .ok info)
      (found : node (.getPublicData state.network presentation (.given info.blockHash)) =
        .error e)
      (fails : LookupFails failed (ledger.Registers state.network info.blockHash presentation)
        cause) : Refuses cause
  | inactive {presentation : Presentation} {info : BlockInfo}
      {publicData : List CredentialWithMetadata}
      (finds : Finds fromSlice state node body presentation info publicData)
      (active : allActive publicData = false) : Refuses .request
  | invalidProof {presentation : Presentation} {info : BlockInfo}
      {publicData : List CredentialWithMetadata} {e : PresentationVerificationError}
      (finds : Finds fromSlice state node body presentation info publicData)
      (active : allActive publicData = true)
      (verified : sdk.verify state.params presentation
        (publicData.map CredentialWithMetadata.inputs) = .error e) : Refuses .request

/-- The body is a presentation that passes every check for the request. -/
structure Accepts (info : BlockInfo) (request : Web3IdSdk.Request) : Prop where
  checks : ∃ presentation publicData,
    Finds fromSlice state node body presentation info publicData ∧ allActive publicData = true ∧
      sdk.verify state.params presentation (publicData.map CredentialWithMetadata.inputs) =
        .ok request

/-- The Rust service refuses a body or accepts it. -/
theorem refuses_or_accepts : (∃ cause, Refuses sdk fromSlice state node ledger failed body cause) ∨
    ∃ info request, Accepts sdk fromSlice state node body info request := by
  by_cases long : requestBodyLimit < body.bytes.length
  · exact .inl ⟨_, .tooLong long⟩
  · have fits := Nat.not_lt.mp long
    cases parsed : fromSlice body.bytes with
    | error rejection => exact .inl ⟨_, .notPresentation fits parsed⟩
    | ok presentation =>
        cases block : node (.getBlockInfo .lastFinal) with
        | error e => exact .inl ⟨_, .blockFails ⟨fits, parsed⟩ block⟩
        | ok info =>
            cases found : node (.getPublicData state.network presentation
                (.given info.blockHash)) with
            | error e =>
                obtain ⟨cause, fails⟩ := exists_lookupFails failed
                  (ledger.Registers state.network info.blockHash presentation)
                exact .inl ⟨cause, .lookupFails ⟨fits, parsed⟩ block found fails⟩
            | ok publicData =>
                have finds : Finds fromSlice state node body presentation info publicData :=
                  ⟨⟨fits, parsed⟩, block, found⟩
                cases active : allActive publicData with
                | false => exact .inl ⟨_, .inactive finds active⟩
                | true =>
                    cases verified : sdk.verify state.params presentation
                        (publicData.map CredentialWithMetadata.inputs) with
                    | error e => exact .inl ⟨_, .invalidProof finds active verified⟩
                    | ok request =>
                        exact .inr ⟨info, request, presentation, publicData, finds, active,
                          verified⟩

variable {sdk fromSlice state node ledger failed body}

/-- A body within the limit is answered with the result of the endpoint. -/
theorem serve_fits (fits : body.bytes.length ≤ requestBodyLimit) :
    (serve sdk fromSlice state body).answeredBy node =
      ⟨(answer sdk ((verifyPresentation sdk state (fromSlice body.bytes)).answeredBy node)).1.code,
        (answer sdk ((verifyPresentation sdk state (fromSlice body.bytes)).answeredBy node)).2⟩ := by
  simp [serve, readBody, Nat.not_lt.mpr fits]

/-- A body that is accepted is answered with its request. -/
theorem Accepts.serves {info : BlockInfo} {request : Web3IdSdk.Request}
    (accepts : Accepts sdk fromSlice state node body info request) :
    (serve sdk fromSlice state body).answeredBy node =
      ⟨200, .inr ⟨info.blockHash, info.blockSlotTime, request⟩⟩ := by
  obtain ⟨presentation, publicData, ⟨⟨fits, parsed⟩, block, found⟩, active, verified⟩ := accepts
  rw [serve_fits fits, parsed]
  simp [verifyPresentation, block, found, active, verified, answer, StatusCode.code]

/-- A failed query for the block has the status 404. -/
theorem blockFails_status {presentation : Presentation} {e : QueryError}
    (parses : Parses fromSlice body presentation)
    (block : node (.getBlockInfo .lastFinal) = .error e) :
    ((serve sdk fromSlice state body).answeredBy node).status = 404 := by
  rw [serve_fits parses.fits, parses.parsed]
  simp [verifyPresentation, block, answer, Error.intoResponse, StatusCode.code]

/-- A lookup that fails has the status 404, whatever its error is. -/
theorem lookupFails_status {presentation : Presentation} {info : BlockInfo}
    {e : CredentialLookupError} (parses : Parses fromSlice body presentation)
    (block : node (.getBlockInfo .lastFinal) = .ok info)
    (found : node (.getPublicData state.network presentation (.given info.blockHash)) = .error e) :
    ((serve sdk fromSlice state body).answeredBy node).status = 404 := by
  rw [serve_fits parses.fits, parses.parsed]
  simp [verifyPresentation, block, found, answer, Error.intoResponse, StatusCode.code]

/-- A refusal has the status 400, 404 or 413, also when it is due to the node. -/
theorem Refuses.status {cause : Cause}
    (refuses : Refuses sdk fromSlice state node ledger failed body cause) :
    ((serve sdk fromSlice state body).answeredBy node).status ∈ [400, 404, 413] := by
  cases refuses with
  | tooLong long =>
      cases declared : body.declared <;>
        simp [serve, declared, long, readBody, verifyPresentation, answer, Error.intoResponse,
          StatusCode.code]
  | notPresentation fits parsed =>
      rw [serve_fits fits, parsed]
      simp [verifyPresentation, answer, Error.intoResponse, StatusCode.code]
  | blockFails parses block =>
      rw [blockFails_status parses block]
      decide
  | lookupFails parses block found fails =>
      rw [lookupFails_status parses block found]
      decide
  | inactive finds active =>
      obtain ⟨⟨fits, parsed⟩, block, found⟩ := finds
      rw [serve_fits fits, parsed]
      simp [verifyPresentation, block, found, active, answer, Error.intoResponse, StatusCode.code]
  | invalidProof finds active verified =>
      obtain ⟨⟨fits, parsed⟩, block, found⟩ := finds
      rw [serve_fits fits, parsed]
      simp [verifyPresentation, block, found, active, verified, answer, Error.intoResponse,
        StatusCode.code]

/-- The status 200 is only for bodies that are accepted. -/
theorem accepts_of_status
    (ok : ((serve sdk fromSlice state body).answeredBy node).status = 200) :
    ∃ info request, Accepts sdk fromSlice state node body info request := by
  rcases refuses_or_accepts sdk fromSlice state node .empty false body with
    ⟨cause, refuses⟩ | accepts
  · have status := refuses.status
    simp [ok] at status
  · exact accepts

end Web3IdVerifier

namespace Web3IdVerifierTs

/-- The value is a presentation whose credentials are all registered at the block. -/
def VerifiablePresentation.Registered (ledger : Ledger) (network : Network) (block : BlockHash) :
    VerifiablePresentation → Prop
  | .presentation vp => ledger.Registers network block vp
  | .other _ => False

/-- A query that fails is the only cause for a presentation, and one of two for another value. -/
def VerifiablePresentation.failure : VerifiablePresentation → Cause
  | .presentation _ => .node
  | .other _ => .both

variable (sdk : Sdk) (network : Network) (grpc : (query : GrpcQuery) → query.Reply)
  (ledger : Ledger) (failed : Bool) (body : HttpBody)

/-- The body is within the limit of the parser, and has this value after it is decoded. -/
structure Parses (vp : VerifiablePresentation) : Prop where
  fits : body.bytes.length ≤ bodyParserLimit
  parsed : sdk.fromString (bufferToString body.bytes) = .ok vp

/-- The node names a block, and answers with the public data at it. -/
structure Finds (vp : VerifiablePresentation) (info : BlockInfo)
    (publicData : List CredentialWithMetadata) : Prop where
  parses : Parses sdk body vp
  block : grpc .getBlockInfo = .ok info
  found : grpc (.getPublicData network vp info.blockHash) = .ok publicData

/-- An error from the node has the status 500, and any other error the status 400. -/
def Thrown.status : Thrown → Nat
  | .rpcError _ => 500
  | .js _ => 400

/-- The service refuses the body for this cause. -/
inductive Refuses : Cause → Prop
  | tooLong (long : bodyParserLimit < body.bytes.length) : Refuses .request
  | unread {e : JsThrown} (fits : body.bytes.length ≤ bodyParserLimit)
      (parsed : sdk.fromString (bufferToString body.bytes) = .error e) : Refuses .request
  | blockFails {vp : VerifiablePresentation} {message : String}
      (parses : Parses sdk body vp) (block : grpc .getBlockInfo = .error message) :
      Refuses vp.failure
  | lookupFails {vp : VerifiablePresentation} {info : BlockInfo} {e : Thrown} {cause : Cause}
      (parses : Parses sdk body vp) (block : grpc .getBlockInfo = .ok info)
      (found : grpc (.getPublicData network vp info.blockHash) = .error e)
      (fails : LookupFails failed (vp.Registered ledger network info.blockHash) cause) :
      Refuses cause
  | inactive {vp : VerifiablePresentation} {info : BlockInfo}
      {publicData : List CredentialWithMetadata}
      (finds : Finds sdk network grpc body vp info publicData)
      (active : allActive publicData = false) : Refuses .request
  | parametersFail {vp : VerifiablePresentation} {info : BlockInfo}
      {publicData : List CredentialWithMetadata} {message : String}
      (finds : Finds sdk network grpc body vp info publicData)
      (active : allActive publicData = true)
      (parameters : grpc (.getCryptographicParameters info.blockHash) = .error message) :
      Refuses vp.failure
  | invalidProof {vp : VerifiablePresentation} {info : BlockInfo}
      {publicData : List CredentialWithMetadata} {params : Bytes} {e : JsThrown}
      (finds : Finds sdk network grpc body vp info publicData)
      (active : allActive publicData = true)
      (parameters : grpc (.getCryptographicParameters info.blockHash) = .ok params)
      (verified : sdk.verifyPresentation vp params
        (publicData.map CredentialWithMetadata.inputs) = .error e) : Refuses .request

/-- The body has a value that passes every check for the request. -/
structure Accepts (info : BlockInfo) (request : Web3IdSdk.Request) : Prop where
  checks : ∃ vp publicData params,
    Finds sdk network grpc body vp info publicData ∧ allActive publicData = true ∧
      grpc (.getCryptographicParameters info.blockHash) = .ok params ∧
      sdk.verifyPresentation vp params
        (publicData.map CredentialWithMetadata.inputs) = .ok request

/-- The TypeScript service refuses a body or accepts it. -/
theorem refuses_or_accepts : (∃ cause, Refuses sdk network grpc ledger failed body cause) ∨
    ∃ info request, Accepts sdk network grpc body info request := by
  by_cases long : bodyParserLimit < body.bytes.length
  · exact .inl ⟨_, .tooLong long⟩
  · have fits := Nat.not_lt.mp long
    cases parsed : sdk.fromString (bufferToString body.bytes) with
    | error e => exact .inl ⟨_, .unread fits parsed⟩
    | ok vp =>
        cases block : grpc .getBlockInfo with
        | error message => exact .inl ⟨_, .blockFails ⟨fits, parsed⟩ block⟩
        | ok info =>
            cases found : grpc (.getPublicData network vp info.blockHash) with
            | error e =>
                obtain ⟨cause, fails⟩ :=
                  exists_lookupFails failed (vp.Registered ledger network info.blockHash)
                exact .inl ⟨cause, .lookupFails ⟨fits, parsed⟩ block found fails⟩
            | ok publicData =>
                have finds : Finds sdk network grpc body vp info publicData :=
                  ⟨⟨fits, parsed⟩, block, found⟩
                cases active : allActive publicData with
                | false => exact .inl ⟨_, .inactive finds active⟩
                | true =>
                    cases parameters : grpc (.getCryptographicParameters info.blockHash) with
                    | error message => exact .inl ⟨_, .parametersFail finds active parameters⟩
                    | ok params =>
                        cases verified : sdk.verifyPresentation vp params
                            (publicData.map CredentialWithMetadata.inputs) with
                        | error e => exact .inl ⟨_, .invalidProof finds active parameters verified⟩
                        | ok request =>
                            exact .inr ⟨info, request, vp, publicData, params, finds,
                              active, parameters, verified⟩

variable {sdk network grpc ledger failed body}

/-- A body within the limit is answered with the result of the handler. -/
theorem serve_fits (fits : body.bytes.length ≤ bodyParserLimit) :
    (serve sdk network body).answeredBy grpc =
      match (verify sdk network body.bytes).answeredBy grpc with
      | .ok response => ⟨200, .inr response⟩
      | .error err => httpErrorHandler sdk err := by
  simp only [serve, if_neg (Nat.not_lt.mpr fits), Program.answeredBy_bind]
  cases (verify sdk network body.bytes).answeredBy grpc <;> rfl

/-- A body that is accepted is answered with its request. -/
theorem Accepts.serves {info : BlockInfo} {request : Web3IdSdk.Request}
    (accepts : Accepts sdk network grpc body info request) :
    (serve sdk network body).answeredBy grpc =
      ⟨200, .inr ⟨info.blockHash, info.blockSlotTime, request⟩⟩ := by
  obtain ⟨vp, publicData, params, ⟨⟨fits, parsed⟩, block, found⟩, active, parameters,
    verified⟩ := accepts
  rw [serve_fits fits]
  simp [verify, parsed, block, found, active, parameters, verified]

/-- A body above the limit has the status 413. -/
theorem tooLong_status (long : bodyParserLimit < body.bytes.length) :
    ((serve sdk network body).answeredBy grpc).status = 413 := by
  simp [serve, long]

/-- A body that the parser cannot read is answered like a failure of the node. -/
theorem unread_status {e : JsThrown} (fits : body.bytes.length ≤ bodyParserLimit)
    (parsed : sdk.fromString (bufferToString body.bytes) = .error e) :
    ((serve sdk network body).answeredBy grpc).status = 500 := by
  rw [serve_fits fits]
  simp [verify, parsed, httpErrorHandler]

theorem blockFails_status {vp : VerifiablePresentation} {message : String}
    (parses : Parses sdk body vp) (block : grpc .getBlockInfo = .error message) :
    ((serve sdk network body).answeredBy grpc).status = 500 := by
  rw [serve_fits parses.fits]
  simp [verify, parses.parsed, block, httpErrorHandler, HttpError.fromThrowable]

/-- A lookup that fails is answered according to the class of its error. -/
theorem lookupFails_status {vp : VerifiablePresentation} {info : BlockInfo} {e : Thrown}
    (parses : Parses sdk body vp) (block : grpc .getBlockInfo = .ok info)
    (found : grpc (.getPublicData network vp info.blockHash) = .error e) :
    ((serve sdk network body).answeredBy grpc).status = e.status := by
  rw [serve_fits parses.fits]
  cases e <;> simp [verify, parses.parsed, block, found, httpErrorHandler,
    HttpError.fromThrowable, Thrown.status]

section Found

variable {vp : VerifiablePresentation} {info : BlockInfo} {publicData : List CredentialWithMetadata}

theorem inactive_status (finds : Finds sdk network grpc body vp info publicData)
    (active : allActive publicData = false) :
    ((serve sdk network body).answeredBy grpc).status = 400 := by
  obtain ⟨⟨fits, parsed⟩, block, found⟩ := finds
  rw [serve_fits fits]
  simp [verify, parsed, block, found, active, httpErrorHandler, HttpError.fromThrowable]

theorem parametersFail_status {message : String}
    (finds : Finds sdk network grpc body vp info publicData)
    (active : allActive publicData = true)
    (parameters : grpc (.getCryptographicParameters info.blockHash) = .error message) :
    ((serve sdk network body).answeredBy grpc).status = 500 := by
  obtain ⟨⟨fits, parsed⟩, block, found⟩ := finds
  rw [serve_fits fits]
  simp [verify, parsed, block, found, active, parameters, httpErrorHandler,
    HttpError.fromThrowable]

theorem invalidProof_status {params : Bytes} {e : JsThrown}
    (finds : Finds sdk network grpc body vp info publicData)
    (active : allActive publicData = true)
    (parameters : grpc (.getCryptographicParameters info.blockHash) = .ok params)
    (verified : sdk.verifyPresentation vp params
      (publicData.map CredentialWithMetadata.inputs) = .error e) :
    ((serve sdk network body).answeredBy grpc).status = 400 := by
  obtain ⟨⟨fits, parsed⟩, block, found⟩ := finds
  rw [serve_fits fits]
  simp [verify, parsed, block, found, active, parameters, verified, httpErrorHandler,
    HttpError.fromThrowable]

end Found

/-- A refusal has the status 400, 413 or 500. -/
theorem Refuses.status {cause : Cause}
    (refuses : Refuses sdk network grpc ledger failed body cause) :
    ((serve sdk network body).answeredBy grpc).status ∈ [400, 413, 500] := by
  cases refuses with
  | tooLong long => simp [tooLong_status long]
  | unread fits parsed => simp [unread_status fits parsed]
  | blockFails parses block => simp [blockFails_status parses block]
  | @lookupFails _ _ e _ parses block found fails =>
      rw [lookupFails_status parses block found]
      cases e <;> simp [Thrown.status]
  | inactive finds active => simp [inactive_status finds active]
  | parametersFail finds active parameters => simp [parametersFail_status finds active parameters]
  | invalidProof finds active parameters verified =>
      simp [invalidProof_status finds active parameters verified]

/-- The status 200 is only for bodies that are accepted. -/
theorem accepts_of_status (ok : ((serve sdk network body).answeredBy grpc).status = 200) :
    ∃ info request, Accepts sdk network grpc body info request := by
  rcases refuses_or_accepts sdk network grpc .empty false body with ⟨cause, refuses⟩ | accepts
  · have status := refuses.status
    simp [ok] at status
  · exact accepts

end Web3IdVerifierTs

end Web3Id
