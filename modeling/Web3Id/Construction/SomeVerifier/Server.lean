import Web3Id.Construction.SomeVerifier.Session

/-
This file is the HTTP server of the social media verifier.
-/

namespace Web3Id.SomeVerifier

open Library

structure AppState where
  telegramRegistry : ContractAddress
  discordRegistry : ContractAddress
  network : Network
  cryptoParams : Bytes

structure Request where
  proof : Presentation
  timestamp : DateTime
  deriving DecidableEq, Repr

inductive Error where
  | invalidRequest (error : JsonRejection)
  | invalidTimestamp
  | credentialLookup (error : CredentialLookupError)
  | inactiveCredentials
  | invalidProof (error : PresentationVerificationError)
  | invalidChallenge
  | notEnoughStatements (number : Nat)
  | notSingleStatement (number : Nat)
  | invalidStatement
  | invalidIssuer
  | duplicateUserIds (text : String)
  | database (error : SqlError)
  deriving DecidableEq, Repr

/-- The driver prints the errors of the database. -/
def Error.text (sdk : Sdk) (sqlErrorText : SqlError → String) : Error → String
  | .invalidRequest e => s!"Unable to parse request: {e.text}"
  | .invalidTimestamp => "Timestamp did not match the current time."
  | .credentialLookup e => s!"Unable to look up all credentials: {sdk.lookupErrorText e}"
  | .inactiveCredentials => "One or more credentials are not active."
  | .invalidProof e => s!"Invalid proof: {e.text}"
  | .invalidChallenge => "Challenge did not match timestamp."
  | .notEnoughStatements number => s!"Expected at least 2 statements, got {number}."
  | .notSingleStatement number => s!"Expected exactly 1 statement, got {number}."
  | .invalidStatement => "A statement was invalid."
  | .invalidIssuer => "A statement was from the wrong issuer."
  | .duplicateUserIds text => s!"Attempt to add duplicate users: {text}"
  | .database e => s!"The database returned an error: {sqlErrorText e}"

/-- Each error has a status code and a text as its body. -/
def Error.intoResponse (sdk : Sdk) (sqlErrorText : SqlError → String) :
    Error → StatusCode × String
  | .credentialLookup e =>
      (.notFound, s!"One or more credentials were not found: {sdk.lookupErrorText e}")
  | .database e => (.internalServerError, sqlErrorText e)
  | error => (.badRequest, error.text sdk sqlErrorText)

/-- A handler asks the node and calls the database. -/
inductive ServerCall where
  | node (query : NodeQuery)
  | addVerification (entry : VerificationsEntry)
  | removeVerification (credId : CredentialHolderId) (platform : Platform)

abbrev ServerCall.Reply : ServerCall → Type
  | .node query => query.Reply
  | .addVerification _ => Except SqlError (Option String)
  | .removeVerification _ _ => Except SqlError Bool

abbrev Handler (A : Type) := Program ServerCall ServerCall.Reply A

/-- The minutes between two times are rounded towards zero. -/
def numMinutes (now timestamp : DateTime) : Int :=
  ((now.nanos - timestamp.nanos).tdiv 1000000000).tdiv 60

namespace AppState

def verifyRequest (sdk : Sdk) (self : AppState) (now : DateTime) (request : Request) :
    Handler (Except Error Web3IdSdk.Request) :=
  if 10 < (numMinutes now request.timestamp).natAbs then .pure (.error .invalidTimestamp)
  else if request.proof.presentationContext ≠ sdk.sha256 (sdk.toRfc3339Millis request.timestamp)
    then .pure (.error .invalidChallenge)
  else
    .call (.node (.getPublicData self.network request.proof .lastFinal)) fun
      | .error e => .pure (.error (.credentialLookup e))
      | .ok publicData =>
          if !allActive publicData then .pure (.error .inactiveCredentials)
          else
            match sdk.verify self.cryptoParams request.proof
                (publicData.map CredentialWithMetadata.inputs) with
            | .error e => .pure (.error (.invalidProof e))
            | .ok verified => .pure (.ok verified)

def getPlatformForContract (self : AppState) (address : ContractAddress) :
    Except Error Platform :=
  if address = self.telegramRegistry then .ok .telegram
  else if address = self.discordRegistry then .ok .discord
  else .error .invalidIssuer

/-- The user id and the username are the two values that a registry credential reveals. -/
def platformAttributes : List (StatementWithProof String) → Option (String × String)
  | [(_, .revealAttribute (.string id) _), (_, .revealAttribute (.string username) _)] =>
      some (id, username)
  | _ => none

/-- The slot of the platform must be empty. -/
def fillPlatform (entry : VerificationsEntry) (platformEntry : PlatformEntry) :
    Platform → Except Error VerificationsEntry
  | .telegram =>
      if entry.telegram.isSome then .error .invalidStatement
      else .ok { entry with telegram := some platformEntry }
  | .discord =>
      if entry.discord.isSome then .error .invalidStatement
      else .ok { entry with discord := some platformEntry }

/-- The loop over the proofs of an account credential keeps the last name of each kind. -/
def readNames : List (StatementWithProof AttributeTag) → Option String × Option String →
    Except Error (Option String × Option String)
  | [], names => .ok names
  | (.revealAttribute attributeTag, .revealAttribute (.string name) _) :: proofs, names =>
      if attributeTag = .firstName then readNames proofs (some name, names.2)
      else if attributeTag = .lastName then readNames proofs (names.1, some name)
      else .error .invalidStatement
  | _, _ => .error .invalidStatement

/-- The check of the length negates the bits of the length before it compares them with two. -/
def refusesLength (length : Nat) : Bool := ~~~(BitVec.ofNat 64 length) = 2

def proofToVerificationsEntry (self : AppState) (entry : VerificationsEntry) :
    CredentialProof → Except Error VerificationsEntry
  | .web3Id _ holder _ contract _ _ proofs =>
      match platformAttributes proofs with
      | none => .error .invalidStatement
      | some (id, username) =>
          match self.getPlatformForContract contract with
          | .error e => .error e
          | .ok platform => fillPlatform entry ⟨id, holder, username⟩ platform
  | .account _ _ _ _ proofs =>
      if refusesLength proofs.length then .error .invalidStatement
      else
        match readNames proofs (none, none) with
        | .error e => .error e
        | .ok (some firstName, some lastName) =>
            if entry.fullName.isSome then .error .invalidStatement
            else .ok { entry with fullName := some ⟨firstName, lastName⟩ }
        | .ok _ => .error .invalidStatement

/-- Every credential of the presentation fills one slot of the entry. -/
def proofsToEntry (sdk : Sdk) (self : AppState) (proof : Presentation) :
    Except Error VerificationsEntry :=
  proof.verifiableCredential.foldlM self.proofToVerificationsEntry (.fromPresentation sdk proof)

def addVerification (sdk : Sdk) (self : AppState) (now : DateTime)
    (request : Except JsonRejection Request) : Handler (Except Error StatusCode) :=
  match request with
  | .error rejection => .pure (.error (.invalidRequest rejection))
  | .ok request => do
      match ← self.verifyRequest sdk now request with
      | .error e => .pure (.error e)
      | .ok _ =>
          if request.proof.verifiableCredential.length < 2 then
            .pure (.error (.notEnoughStatements request.proof.verifiableCredential.length))
          else
            match self.proofsToEntry sdk request.proof with
            | .error e => .pure (.error e)
            | .ok entry =>
                .call (.addVerification entry) fun
                  | .ok none => .pure (.ok .created)
                  | .ok (some userId) =>
                      .pure (.error (.duplicateUserIds s!"Duplicate user id: {userId}."))
                  | .error e => .pure (.error (.database e))

def removeVerification (sdk : Sdk) (self : AppState) (now : DateTime)
    (request : Except JsonRejection Request) : Handler (Except Error StatusCode) :=
  match request with
  | .error rejection => .pure (.error (.invalidRequest rejection))
  | .ok request => do
      match ← self.verifyRequest sdk now request with
      | .error e => .pure (.error e)
      | .ok verified =>
          match verified.credentialStatements with
          | [.web3Id _ _ contract credential _] =>
              match self.getPlatformForContract contract with
              | .error e => .pure (.error e)
              | .ok platform =>
                  .call (.removeVerification credential platform) fun
                    | .ok true => .pure (.ok .ok)
                    | .ok false => .pure (.ok .badRequest)
                    | .error e => .pure (.error (.database e))
          | [.account _ _ _] => .pure (.error .invalidStatement)
          | statements => .pure (.error (.notSingleStatement statements.length))

end AppState

def Platform.display : Platform → String
  | .telegram => "Telegram"
  | .discord => "Discord"

namespace AppState

def registry (self : AppState) : Platform → ContractAddress
  | .telegram => self.telegramRegistry
  | .discord => self.discordRegistry

/-- The holder of a credential of the platform's registry. -/
def registryHolder (self : AppState) (platform : Platform) (cred : ProofMetadata) :
    Option CredentialHolderId :=
  match cred.credMetadata with
  | .web3Id contract holder => if contract = self.registry platform then some holder else none
  | .account _ _ => none

/-- The first credential of the registry decides the status of an account. -/
def credentialHolder (sdk : Sdk) (self : AppState) (account : DbAccount) (proof : Presentation) :
    Option CredentialHolderId :=
  (sdk.metadata proof).findSome? (self.registryHolder account.platform)

end AppState

/-- The contract client asks for the status of one credential. -/
structure StatusQuery where
  contract : ContractAddress
  credId : CredentialHolderId
  block : BlockIdentifier
  deriving DecidableEq, Repr

inductive StatusError where
  | noCredential (text : String)
  | failed (text : String) (error : QueryError)
  deriving DecidableEq, Repr

def AppState.getCredentialStatus (sdk : Sdk) (self : AppState) (account : DbAccount)
    (proof : Presentation) :
    Program StatusQuery (fun _ => Except QueryError CredentialStatus)
      (Except StatusError CredentialStatus) :=
  match self.credentialHolder sdk account proof with
  | none =>
      .pure (.error (.noCredential
        s!"No credential for {account.platform.display} in presentation"))
  | some credId =>
      .call ⟨self.registry account.platform, credId, .lastFinal⟩ fun
        | .ok status => .pure (.ok status)
        | .error e => .pure (.error (.failed "Failed to get credential status" e))

inductive Endpoint where
  | post
  | patch
  deriving DecidableEq, Repr

/-- One request comes with the time, the answers of the node, and the faults of the database. -/
structure Event where
  endpoint : Endpoint
  body : Except JsonRejection Request
  now : DateTime
  node : (query : NodeQuery) → query.Reply
  faults : List (Option Fault)

/-- The SDK accepts the presentation against the public data that the node answers for it. -/
structure AppState.Accepts (sdk : Sdk) (self : AppState) (event : Event)
    (presentation : Presentation) (publicData : List CredentialWithMetadata) : Prop where
  answered : event.node (.getPublicData self.network presentation .lastFinal) = .ok publicData
  verified : ∃ verified, sdk.verify self.cryptoParams presentation
    (publicData.map CredentialWithMetadata.inputs) = .ok verified

/-- The database runs each call as one transaction. -/
def Event.answer (event : Event) (db : Db) : (call : ServerCall) → call.Reply × Db
  | .node query => (event.node query, db)
  | .addVerification entry => db.run event.faults (addVerification entry)
  | .removeVerification credId platform =>
      db.run event.faults (removeVerification credId platform)

def AppState.handler (sdk : Sdk) (self : AppState) (event : Event) : Handler (Except Error StatusCode) :=
  match event.endpoint with
  | .post => self.addVerification sdk event.now event.body
  | .patch => self.removeVerification sdk event.now event.body

def AppState.serve (sdk : Sdk) (self : AppState) (db : Db) (event : Event) :
    Except Error StatusCode × Db := (self.handler sdk event).run event.answer db

/-- The requests are served one after the other. -/
def AppState.serveAll (sdk : Sdk) (self : AppState) (db : Db) (events : List Event) : Db :=
  events.foldl (fun db event => (self.serve sdk db event).2) db

/-- The client sees the status code of the answer. -/
def statusCode (sdk : Sdk) (sqlErrorText : SqlError → String) : Except Error StatusCode → StatusCode
  | .ok code => code
  | .error error => (error.intoResponse sdk sqlErrorText).1

/-- When the time of the request expires, the timeout layer answers for the handler and drops it:
the last answer of the event is the one that the handler was waiting for. -/
def AppState.respond (sdk : Sdk) (sqlErrorText : SqlError → String) (self : AppState) (db : Db)
    (event : Event) (expired : Bool) : StatusCode × Db :=
  let result := self.serve sdk db event
  (if expired then .requestTimeout else statusCode sdk sqlErrorText result.1, result.2)

end Web3Id.SomeVerifier
