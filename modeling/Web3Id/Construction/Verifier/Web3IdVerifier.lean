import Web3Id.Construction.Presentation
import Web3Id.Construction.Verifier.Http

/-
This file is the endpoint of the generic verifier.
-/

namespace Web3Id.Web3IdVerifier

open Library

inductive Error where
  | invalidRequest (error : JsonRejection)
  | credentialLookup (error : CredentialLookupError)
  | inactiveCredentials
  | invalidProof (error : PresentationVerificationError)
  deriving DecidableEq, Repr

/-- Each error has a status code and a text as its body. -/
def Error.intoResponse (sdk : PresentationSdk) : Error → StatusCode × String
  | .invalidRequest e => (.badRequest, s!"Invalid presentation format: {e.text}")
  | .credentialLookup e =>
      (.notFound, s!"One or more credentials were not found: {sdk.lookupErrorText e}")
  | .inactiveCredentials => (.badRequest, "One or more credentials are not active at present.")
  | .invalidProof e => (.badRequest, s!"Invalid cryptographic proofs: {e.text}.")

structure State where
  network : Network
  params : Bytes

structure Response where
  block : BlockHash
  blockTime : DateTime
  request : Web3IdSdk.Request
  deriving DecidableEq, Repr

/-- The public data are read at the block that the answer names. -/
def verifyPresentation (sdk : PresentationSdk) (state : State)
    (presentation : Except JsonRejection Presentation) :
    Program NodeQuery NodeQuery.Reply (Except Error Response) :=
  match presentation with
  | .error rejection => .pure (.error (.invalidRequest rejection))
  | .ok presentation =>
      .call (.getBlockInfo .lastFinal) fun
        | .error e => .pure (.error (.credentialLookup (.queryError e)))
        | .ok bi =>
            .call (.getPublicData state.network presentation (.given bi.blockHash)) fun
              | .error e => .pure (.error (.credentialLookup e))
              | .ok publicData =>
                  if !allActive publicData then .pure (.error .inactiveCredentials)
                  else
                    match sdk.verify state.params presentation
                        (publicData.map CredentialWithMetadata.inputs) with
                    | .error e => .pure (.error (.invalidProof e))
                    | .ok request => .pure (.ok ⟨bi.blockHash, bi.blockSlotTime, request⟩)

/-- The answer to the client is the response with status 200, or the error. -/
def answer (sdk : PresentationSdk) : Except Error Response → StatusCode × (String ⊕ Response)
  | .ok response => (.ok, .inr response)
  | .error e => ((e.intoResponse sdk).1, .inl (e.intoResponse sdk).2)

/-- The router takes at most 100kB of data. -/
def requestBodyLimit : Nat := 100000

/-- A body in chunks fails when the framework reads more than the limit. -/
def readBody (fromSlice : Bytes → Except JsonRejection Presentation) (body : HttpBody) :
    Except JsonRejection Presentation :=
  if requestBodyLimit < body.bytes.length then
    .error ⟨"Failed to buffer the request body: length limit exceeded"⟩
  else fromSlice body.bytes

/-- A declared length above the limit is answered before the endpoint. -/
def serve (sdk : PresentationSdk) (fromSlice : Bytes → Except JsonRejection Presentation)
    (state : State) (body : HttpBody) :
    Program NodeQuery NodeQuery.Reply (HttpResponse Response) :=
  if body.declared ∧ requestBodyLimit < body.bytes.length then
    .pure ⟨413, .inl "length limit exceeded"⟩
  else do
    let result ← verifyPresentation sdk state (readBody fromSlice body)
    return ⟨(answer sdk result).1.code, (answer sdk result).2⟩

end Web3Id.Web3IdVerifier
