import Web3Id.Construction.ProofExplorer.Anchor
import Web3Id.Construction.Verifier.Ledger
import Web3Id.Construction.Verifier.Web3IdVerifier

/-
This file is the two panels of the proof explorer that ask the wallet for a proof and have it
verified: the flow of accounts and contracts, and the flow of identities.
-/

namespace Web3Id.ProofExplorer

variable {Atom : Type}

section Flow

variable {Request Proof Reply : Type}

/-- What a press ends with. A failure that only the console shows is silent. -/
inductive Result (Proof : Type) where
  | accepted (proof : Proof)
  | refused (message : String)
  | silent
  deriving DecidableEq, Repr

/-- What a press waits for. The body of an answer is read after its status. -/
inductive Stage (Proof : Type) where
  | proving
  | verifying (proof : Proof)
  | reading (result : Result Proof)
  | settled (result : Result Proof)
  deriving DecidableEq, Repr

structure Attempt (Request Proof : Type) where
  request : Request
  stage : Stage Proof
  deriving DecidableEq, Repr

/-- The state that the panel shows. -/
structure Panel (Proof : Type) where
  messages : List String
  currentProof : Option Proof
  isProofDetailsOpen : Bool
  deriving DecidableEq, Repr

namespace Panel

def setMessages (panel : Panel Proof) (messages : List String) : Panel Proof :=
  { panel with messages := messages }

/-- Only a result shows a message, and only an accepted proof is kept for the details. -/
def report (panel : Panel Proof) : Stage Proof → Panel Proof
  | .settled (.accepted proof) =>
      { panel with messages := panel.messages ++ ["Proof OK"], currentProof := some proof }
  | .settled (.refused message) => panel.setMessages (panel.messages ++ [message])
  | _ => panel

/-- The lines of the list. The button of a line opens the current proof. -/
def lines (panel : Panel Proof) : List (String × Option Proof) :=
  panel.messages.map fun m => (m, if m = "Proof OK" then panel.currentProof else none)

def handleViewDetails (panel : Panel Proof) : Panel Proof :=
  if panel.currentProof.isSome then { panel with isProofDetailsOpen := true } else panel

def handleCloseDetails (panel : Panel Proof) : Panel Proof :=
  { panel with isProofDetailsOpen := false }

/-- The proof that the popup shows. -/
def details (panel : Panel Proof) : Option Proof :=
  if panel.isProofDetailsOpen then panel.currentProof else none

end Panel

/-- The wallet returns a proof, fails with an error, or fails with another value. -/
inductive ProofReply (Proof : Type) where
  | proven (proof : Proof)
  | error (message : String)
  | other
  deriving DecidableEq, Repr

/-- Only the message of an error is shown. -/
def ProofReply.stage : ProofReply Proof → Stage Proof
  | .proven proof => .verifying proof
  | .error message => .settled (.refused s!"Could not get proof: {message}")
  | .other => .settled .silent

/-- The presses of a panel run at the same time. -/
structure Flow (Request Proof : Type) where
  attempts : List (Attempt Request Proof)
  panel : Panel Proof
  deriving DecidableEq, Repr

inductive FlowEvent (Proof Reply : Type) where
  | wallet (index : Nat) (reply : ProofReply Proof)
  | verifier (index : Nat) (reply : Reply)
  | read (index : Nat)
  | handleViewDetails
  | handleCloseDetails

namespace Flow

def loaded : Flow Request Proof := ⟨[], ⟨[], none, false⟩⟩

def press (flow : Flow Request Proof) (request : Request) : Flow Request Proof :=
  { flow with attempts := flow.attempts ++ [⟨request, .proving⟩] }

/-- A press goes on to a stage, and reports it. -/
def goOn (flow : Flow Request Proof) (index : Nat) (request : Request) (stage : Stage Proof) :
    Flow Request Proof :=
  ⟨flow.attempts.set index ⟨request, stage⟩, flow.panel.report stage⟩

/-- The two panels differ in how a press goes on after the answer of the verifier. -/
def step (verified : Request → Proof → Reply → Stage Proof) (flow : Flow Request Proof) :
    FlowEvent Proof Reply → Flow Request Proof
  | .wallet index reply =>
      match flow.attempts[index]? with
      | some ⟨request, .proving⟩ => flow.goOn index request reply.stage
      | _ => flow
  | .verifier index reply =>
      match flow.attempts[index]? with
      | some ⟨request, .verifying proof⟩ => flow.goOn index request (verified request proof reply)
      | _ => flow
  | .read index =>
      match flow.attempts[index]? with
      | some ⟨request, .reading result⟩ => flow.goOn index request (.settled result)
      | _ => flow
  | .handleViewDetails => { flow with panel := flow.panel.handleViewDetails }
  | .handleCloseDetails => { flow with panel := flow.panel.handleCloseDetails }

def clearMessages (flow : Flow Request Proof) : Flow Request Proof :=
  { flow with panel := flow.panel.setMessages [] }

/-- What the wallet and the verifier reply is related to the request that they are asked with. -/
inductive Admits (wallet : Request → Proof → Prop) (replies : Request → Proof → Reply → Prop)
    (flow : Flow Request Proof) : FlowEvent Proof Reply → Prop
  | wallet (index : Nat) (reply : ProofReply Proof)
      (proves : ∀ request proof, flow.attempts[index]? = some ⟨request, .proving⟩ →
        reply = .proven proof → wallet request proof) :
      Admits wallet replies flow (.wallet index reply)
  | verifier (index : Nat) (reply : Reply)
      (answers : ∀ request proof, flow.attempts[index]? = some ⟨request, .verifying proof⟩ →
        replies request proof reply) :
      Admits wallet replies flow (.verifier index reply)
  | read (index : Nat) : Admits wallet replies flow (.read index)
  /-- The button stands in a line of the list. -/
  | handleViewDetails (line : ∃ m proof, (m, some proof) ∈ flow.panel.lines) :
      Admits wallet replies flow .handleViewDetails
  | handleCloseDetails : Admits wallet replies flow .handleCloseDetails

end Flow

end Flow

inductive IdQualifier where
  | cred (issuers : List Nat)
  | sci (issuers : List ContractAddress)
  deriving DecidableEq, Repr

structure CredentialStatement (Atom : Type) where
  statement : List Atom
  idQualifier : IdQualifier
  deriving DecidableEq, Repr

/-- An answer is OK when its status is from 200 to 299. -/
def isOk (status : Nat) : Bool := 200 ≤ status ∧ status < 300

namespace SubmitProof

/-- The challenge is drawn for each press. -/
structure Request (Atom : Type) where
  challenge : Bytes
  statement : List (CredentialStatement Atom)
  deriving DecidableEq, Repr

def credentialStatement : TopLevelStatement Atom → Except String (CredentialStatement Atom)
  | .account s => .ok ⟨s.statement, .cred (s.idps.map IdentityProvider.id)⟩
  | .web3id s => .ok ⟨s.statement, .sci s.issuers⟩
  | .id _ => .error "Identity credentials cannot be proven by this flow. Use V1 flow instead."

/-- A list with an identity statement asks the wallet for nothing. -/
def submitProof (allStatements : List (TopLevelStatement Atom)) (challenge : Bytes) :
    Except String (Request Atom) := do
  return ⟨challenge, ← allStatements.mapM credentialStatement⟩

/-- The text of an error is JSON, except for the answer to a body above the limit. -/
def errorBody (response : HttpResponse Web3IdVerifier.Response) : Option String :=
  match response.content with
  | .inl text => if response.status = 413 then none else some text
  | .inr _ => some "[object Object]"

/-- There is no response when the request to the verifier fails. -/
def verified (_ : Request Atom) (proof : Presentation) :
    Option (HttpResponse Web3IdVerifier.Response) → Stage Presentation
  | none => .settled .silent
  | some response =>
      if isOk response.status then .settled (.accepted proof)
      else
        .reading (match errorBody response with
          | some body => .refused s!"Proof not OK: ({response.status}) {body}"
          | none => .silent)

end SubmitProof

/-- A value that is read from JSON. The text of a number is how it is printed, and an object has
one value for each key. -/
inductive Json where
  | null
  | bool (value : Bool)
  | number (text : String)
  | string (value : String)
  | array (elements : List Json)
  | object (fields : List (String × Json))
  deriving Repr

namespace Json

/-- The other values have no such field. -/
def field (name : String) : Json → Option Json
  | .object fields => fields.lookup name
  | _ => none

def truthy : Json → Bool
  | .null => false
  | .bool value => value
  | .number text => text ≠ "0"
  | .string value => value ≠ ""
  | .array _ | .object _ => true

mutual

/-- The text of a value in a template. An object with a field toString has none. -/
def text : Json → Option String
  | .null => some "null"
  | .bool value => some (toString value)
  | .number text => some text
  | .string value => some value
  | .array elements => (joined elements).map (",".intercalate ·)
  | .object fields => if (fields.lookup "toString").isSome then none else some "[object Object]"

/-- The elements of an array are joined, and null is empty there. -/
def joined : List Json → Option (List String)
  | [] => some []
  | .null :: elements => (joined elements).map ("" :: ·)
  | element :: elements => do return (← text element) :: (← joined elements)

end

/-- A field that is not there is undefined. -/
def template : Option Json → Option String
  | none => some "undefined"
  | some value => value.text

end Json

/-- Only the SDK reads these presentations. -/
structure PresentationV1 where
  bytes : Bytes
  deriving DecidableEq, Repr

namespace SubmitProofV1

/-- The switch of the panel says who verifies the proof of the press. -/
structure Request (Atom : Type) where
  verificationRequest : VerificationRequest Atom
  useVerifierService : Bool
  deriving DecidableEq, Repr

/-- The text of the answer of the service, when it can be read. -/
structure ServiceResponse where
  status : Nat
  statusText : String
  text : Option String
  deriving DecidableEq, Repr

/-- A check in the page returns a text unless it is a success. -/
inductive Reply where
  | service (response : ServiceResponse)
  | checked (failure : Option String)
  | throws
  deriving DecidableEq, Repr

/-- The failure that the service reports in its answer. -/
def ServiceResponse.failed (parse : String → Option Json) (response : ServiceResponse) :
    Option Json :=
  let body := response.text.bind parse
  let result :=
    match body.bind (Json.field "result") with
    | some .null | none => body
    | some result => some result
  (result.bind (Json.field "failed")).filter Json.truthy

def failedMessage (failed : Json) : Option String := do
  let message ← Json.template (failed.field "message")
  match failed.field "code" with
  | none => return s!"Proof not OK: {message}"
  | some code =>
      let code ← code.text
      return s!"Proof not OK: {message} (code: {code})"

def ServiceResponse.result (parse : String → Option Json) (response : ServiceResponse)
    (proof : PresentationV1) : Result PresentationV1 :=
  if isOk response.status then
    match response.failed parse with
    | none => .accepted proof
    | some failed => (failedMessage failed).elim .silent .refused
  else
    let raw := response.text.getD ""
    let reason := if raw = "" then response.statusText else raw
    .refused s!"Proof not OK: ({response.status}) {reason}"

def verified (parse : String → Option Json) (request : Request Atom) (proof : PresentationV1) :
    Reply → Stage PresentationV1
  | .service response =>
      if request.useVerifierService then .reading (response.result parse proof)
      else .settled .silent
  | .checked failure =>
      if request.useVerifierService then .settled .silent
      else .settled (failure.elim (.accepted proof) fun text => .refused s!"Proof not OK: {text}")
  | .throws => .settled .silent

end SubmitProofV1

/-- The page with both panels. -/
structure Page (Atom : Type) where
  session : Session Atom
  useVerifierService : Bool
  flow : Flow (SubmitProof.Request Atom) Presentation
  flowV1 : Flow (SubmitProofV1.Request Atom) PresentationV1

def Page.loaded (nonce : Bytes) : Page Atom := ⟨.loaded nonce, true, .loaded, .loaded⟩

inductive PageEvent (Atom : Type) where
  | explore (event : Event Atom)
  | setUseVerifierService (useVerifierService : Bool)
  | prove (challenge : Bytes)
  | proveV1
  | flow (event : FlowEvent Presentation (Option (HttpResponse Web3IdVerifier.Response)))
  | flowV1 (event : FlowEvent PresentationV1 SubmitProofV1.Reply)
  | clearMessages

/-- What the page talks to: the wallet, the verifier with its node, and the other verification. -/
structure World (Atom : Type) where
  sdk : PresentationSdk
  fromSlice : Bytes → Except JsonRejection Presentation
  verifier : Web3IdVerifier.State
  ledger : Ledger
  text : Presentation → Bytes
  wallet : SubmitProof.Request Atom → Presentation → Prop
  parse : String → Option Json
  walletV1 : SubmitProofV1.Request Atom → PresentationV1 → Prop
  repliesV1 : SubmitProofV1.Request Atom → PresentationV1 → SubmitProofV1.Reply → Prop

/-- The verifier gets the text of the proof, and a browser declares its length. -/
def World.replies (world : World Atom) (_ : SubmitProof.Request Atom) (proof : Presentation) :
    Option (HttpResponse Web3IdVerifier.Response) → Prop
  | none => True
  | some response =>
      ∃ reliable first last, Library.Program.Answered (world.ledger.Answers reliable) first
        (Web3IdVerifier.serve world.sdk world.fromSlice world.verifier ⟨world.text proof, true⟩)
        last response

namespace Page

/-- The buttons of the panels are shown when a wallet is connected. -/
def step (world : World Atom) (page : Page Atom) : PageEvent Atom → Page Atom
  | .explore event => { page with session := page.session.step event }
  | .setUseVerifierService useVerifierService =>
      { page with useVerifierService := useVerifierService }
  | .prove challenge =>
      match page.session.explorer.provider,
          SubmitProof.submitProof page.session.explorer.builder.statement challenge with
      | some _, .ok request => { page with flow := page.flow.press request }
      | _, _ => page
  | .proveV1 =>
      match page.session.proveV1 with
      | some (.ok request) =>
          { page with flowV1 := page.flowV1.press ⟨request, page.useVerifierService⟩ }
      | _ => page
  | .flow event => { page with flow := page.flow.step SubmitProof.verified event }
  | .flowV1 event =>
      { page with flowV1 := page.flowV1.step (SubmitProofV1.verified world.parse) event }
  | .clearMessages =>
      { page with flow := page.flow.clearMessages, flowV1 := page.flowV1.clearMessages }

def Admits (world : World Atom) (page : Page Atom) : PageEvent Atom → Prop
  | .flow event => page.flow.Admits world.wallet world.replies event
  | .flowV1 event => page.flowV1.Admits world.walletV1 world.repliesV1 event
  | _ => True

inductive Step (world : World Atom) : Page Atom → PageEvent Atom → Page Atom → Prop
  | admitted {page : Page Atom} {event : PageEvent Atom} (admits : page.Admits world event) :
      Step world page event (page.step world event)

end Page

end Web3Id.ProofExplorer
