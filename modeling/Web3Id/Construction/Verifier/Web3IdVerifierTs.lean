import Web3Id.Construction.Presentation
import Web3Id.Construction.Verifier.Http

/-
This file is the generic verifier in TypeScript.
-/

namespace Web3Id.Web3IdVerifierTs

open Library

/-- Code throws an error with a message, a text, or any other value. -/
inductive JsThrown where
  | error (message : String)
  | text (text : String)
  | other
  deriving DecidableEq, Repr

/-- A failed call to the node throws an error of its own class. -/
inductive Thrown where
  | rpcError (message : String)
  | js (thrown : JsThrown)
  deriving DecidableEq, Repr

structure HttpError where
  statusCode : Nat
  message : String
  deriving DecidableEq, Repr

def HttpError.fromThrowable (e : Thrown) (statusCode : Nat) : HttpError where
  statusCode := statusCode
  message :=
    match e with
    | .rpcError message => message
    | .js (.error message) => message
    | .js (.text text) => text
    | .js .other => "An error happened while handling the request"

/-- The parser takes any JSON: its value is a presentation, or lacks some of the fields of one. -/
inductive VerifiablePresentation where
  | presentation (presentation : Presentation)
  | other (json : String)
  deriving DecidableEq, Repr

/-- The SDK parses presentations and verifies them, and the framework renders unhandled errors. -/
structure Sdk where
  fromString : String → Except JsThrown VerifiablePresentation
  verifyPresentation : VerifiablePresentation → Bytes → List CredentialsInputs →
    Except JsThrown Web3IdSdk.Request
  errorPage : Nat → JsThrown → String

/-- The calls of the client, where the default block is the last finalized one. -/
inductive GrpcQuery where
  | getBlockInfo
  | getPublicData (network : Network) (vp : VerifiablePresentation) (blockHash : BlockHash)
  | getCryptographicParameters (blockHash : BlockHash)

abbrev GrpcQuery.Reply : GrpcQuery → Type
  | .getBlockInfo => Except String BlockInfo
  | .getPublicData _ _ _ => Except Thrown (List CredentialWithMetadata)
  | .getCryptographicParameters _ => Except String Bytes

structure Response where
  blockHash : BlockHash
  blockTime : DateTime
  verifiedRequest : Web3IdSdk.Request
  deriving DecidableEq, Repr

/-- A sequence of bytes that has begun has a range for its next byte. -/
structure Utf8Sequence where
  needed : Nat
  codePoint : Nat
  lower : UInt8
  upper : UInt8

/-- The first byte of a sequence is a character, or opens a longer one, or is ill-formed. -/
def utf8Lead (byte : UInt8) : Option (Char ⊕ Utf8Sequence) :=
  if byte ≤ 0x7F then some (.inl (Char.ofNat byte.toNat))
  else if 0xC2 ≤ byte ∧ byte ≤ 0xDF then some (.inr ⟨1, byte.toNat % 32, 0x80, 0xBF⟩)
  else if 0xE0 ≤ byte ∧ byte ≤ 0xEF then
    some (.inr ⟨2, byte.toNat % 16, if byte = 0xE0 then 0xA0 else 0x80,
      if byte = 0xED then 0x9F else 0xBF⟩)
  else if 0xF0 ≤ byte ∧ byte ≤ 0xF4 then
    some (.inr ⟨3, byte.toNat % 8, if byte = 0xF0 then 0x90 else 0x80,
      if byte = 0xF4 then 0x8F else 0xBF⟩)
  else none

/-- Each longest ill-formed part becomes one replacement character. -/
def decodeReplacing : Option Utf8Sequence → Bytes → List Char
  | none, [] => []
  | some _, [] => ['\uFFFD']
  | none, byte :: bytes =>
      match utf8Lead byte with
      | some (.inl char) => char :: decodeReplacing none bytes
      | some (.inr sequence) => decodeReplacing (some sequence) bytes
      | none => '\uFFFD' :: decodeReplacing none bytes
  | some sequence, byte :: bytes =>
      if sequence.lower ≤ byte ∧ byte ≤ sequence.upper then
        let codePoint := sequence.codePoint * 64 + byte.toNat % 64
        if sequence.needed = 1 then Char.ofNat codePoint :: decodeReplacing none bytes
        else decodeReplacing (some ⟨sequence.needed - 1, codePoint, 0x80, 0xBF⟩) bytes
      else
        -- the byte that does not continue the sequence is read again as a first byte
        match utf8Lead byte with
        | some (.inl char) => '\uFFFD' :: char :: decodeReplacing none bytes
        | some (.inr next) => '\uFFFD' :: decodeReplacing (some next) bytes
        | none => '\uFFFD' :: '\uFFFD' :: decodeReplacing none bytes

/-- A buffer that is not UTF-8 is still decoded. -/
def bufferToString (buffer : Bytes) : String :=
  match String.fromUTF8? buffer.toByteArray with
  | some text => text
  | none => String.ofList (decodeReplacing none buffer)

/-- The parser runs outside of the block that turns errors into HTTP errors. -/
def verify (sdk : Sdk) (network : Network) (body : Bytes) :
    Program GrpcQuery GrpcQuery.Reply (Except (HttpError ⊕ JsThrown) Response) :=
  match sdk.fromString (bufferToString body) with
  | .error e => .pure (.error (.inr e))
  | .ok vp =>
      let httpError (e : Thrown) : HttpError :=
        match e with
        | .rpcError _ => HttpError.fromThrowable e 500
        | .js _ => HttpError.fromThrowable e 400
      .call .getBlockInfo fun
        | .error message => .pure (.error (.inl (httpError (.rpcError message))))
        | .ok info =>
            .call (.getPublicData network vp info.blockHash) fun
              | .error e => .pure (.error (.inl (httpError e)))
              | .ok publicData =>
                  if !allActive publicData then
                    .pure (.error (.inl (httpError (.js (.error
                      "One or more credentials in the presentation are inactive")))))
                  else
                    .call (.getCryptographicParameters info.blockHash) fun
                      | .error message => .pure (.error (.inl (httpError (.rpcError message))))
                      | .ok globalContext =>
                          match sdk.verifyPresentation vp globalContext
                              (publicData.map CredentialWithMetadata.inputs) with
                          | .error e => .pure (.error (.inl (httpError (.js e))))
                          | .ok verifiedRequest =>
                              .pure (.ok ⟨info.blockHash, info.blockSlotTime, verifiedRequest⟩)

/-- The default limit of the body parser is 100kb. -/
def bodyParserLimit : Nat := 100 * 1024

/-- An error that is not an HTTP error reaches the default handler of the framework. -/
def httpErrorHandler (sdk : Sdk) : HttpError ⊕ JsThrown → HttpResponse Response
  | .inl err => ⟨err.statusCode, .inl err.message⟩
  | .inr err => ⟨500, .inl (sdk.errorPage 500 err)⟩

/-- The body parser refuses a body above its limit, with and without a declared length. -/
def serve (sdk : Sdk) (network : Network) (body : HttpBody) :
    Program GrpcQuery GrpcQuery.Reply (HttpResponse Response) :=
  if bodyParserLimit < body.bytes.length then
    .pure ⟨413, .inl (sdk.errorPage 413 (.error "request entity too large"))⟩
  else do
    match ← verify sdk network body.bytes with
    | .ok response => return ⟨200, .inr response⟩
    | .error err => return httpErrorHandler sdk err

end Web3Id.Web3IdVerifierTs
