import Web3Id.Construction.SomeVerifier.Server
import Web3Id.Proof.SomeVerifier.AddedTables
import Web3Id.Proof.SomeVerifier.Faults

namespace Web3Id.SomeVerifier

open Library

/-- The request of the event is well formed and passes the verification. -/
structure AppState.Passes (sdk : Sdk) (state : AppState) (event : Event) (request : Request)
    (verified : Web3IdSdk.Request) : Prop where
  body : event.body = .ok request
  verified : ((state.verifyRequest sdk event.now request).run event.answer Db.empty).1 = .ok verified

/-- The verification of a request does not use the database. -/
theorem AppState.verifyRequest_run (sdk : Sdk) (self : AppState) (event : Event)
    (request : Request) (db : Db) :
    (self.verifyRequest sdk event.now request).run event.answer db =
      (((self.verifyRequest sdk event.now request).run event.answer Db.empty).1, db) := by
  unfold AppState.verifyRequest
  split
  · rfl
  · split
    · rfl
    · simp only [Program.run_call, Event.answer]
      split
      · rfl
      · split
        · rfl
        · split <;> rfl

/-- A request is verified when each check passes on the answer of the node. -/
theorem AppState.verifyRequest_ok {sdk : Sdk} {self : AppState} {event : Event} {request : Request}
    {db : Db} {verified : Web3IdSdk.Request} :
    ((self.verifyRequest sdk event.now request).run event.answer db).1 = .ok verified ↔
      (numMinutes event.now request.timestamp).natAbs ≤ 10 ∧
      request.proof.presentationContext = sdk.sha256 (sdk.toRfc3339Millis request.timestamp) ∧
      ∃ publicData,
        event.node (.getPublicData self.network request.proof .lastFinal) = .ok publicData ∧
        allActive publicData = true ∧
        sdk.verify self.cryptoParams request.proof
          (publicData.map CredentialWithMetadata.inputs) = .ok verified := by
  unfold AppState.verifyRequest
  by_cases late : 10 < (numMinutes event.now request.timestamp).natAbs
  · simp [late]
  · rw [if_neg late, and_iff_right (Nat.not_lt.mp late)]
    by_cases challenge : request.proof.presentationContext =
        sdk.sha256 (sdk.toRfc3339Millis request.timestamp)
    · rw [if_neg (not_not.mpr challenge), and_iff_right challenge]
      simp only [Program.run_call, Event.answer]
      cases event.node (.getPublicData self.network request.proof .lastFinal) with
      | error e => simp
      | ok publicData =>
          cases active : allActive publicData with
          | false => simp [active]
          | true =>
              cases checked : sdk.verify self.cryptoParams request.proof
                  (publicData.map CredentialWithMetadata.inputs) <;>
                simp [active, checked]
    · simp [challenge]

/-- The answer is this status code, or a fault of the database has lost it after its statement was
performed. -/
inductive Answered (event : Event) (code : StatusCode) : Except Error StatusCode → Prop
  | heard : Answered event code (.ok code)
  | lost {fault : Fault} (listed : some fault ∈ event.faults) (performed : fault.performed = true) :
      Answered event code (.error (.database fault.error))

def answerAdded : Except SqlError (Option String) → Except Error StatusCode
  | .ok none => .ok .created
  | .ok (some userId) => .error (.duplicateUserIds s!"Duplicate user id: {userId}.")
  | .error e => .error (.database e)

def answerRemoved : Except SqlError Bool → Except Error StatusCode
  | .ok true => .ok .ok
  | .ok false => .ok .badRequest
  | .error e => .error (.database e)

/-- An answer with a status code has not been lost. -/
theorem Answered.code {event : Event} {code other : StatusCode} {answer : Except Error StatusCode}
    (answered : Answered event code answer) (ok : answer = .ok other) : other = code := by
  cases answered with
  | heard => exact (Except.ok.inj ok).symm
  | lost => nomatch ok

section Hears

variable {A : Type} {event : Event} {code : StatusCode} {one other : Except SqlError A}
  {answer : Except SqlError A → Except Error StatusCode}

/-- The status code of a call that runs without faults is the answer, or it is lost. -/
theorem Session.Hears.answered (hears : Session.Hears event.faults one other)
    (fails : ∀ e, answer (.error e) = .error (.database e)) (positive : answer other = .ok code) :
    Answered event code (answer one) := by
  cases hears with
  | same =>
      rw [positive]
      exact .heard
  | lost listed performed =>
      rw [fails]
      exact .lost listed performed

/-- A fault does not give a call another status code. -/
theorem Session.Hears.ne (hears : Session.Hears event.faults one other)
    (fails : ∀ e, answer (.error e) = .error (.database e)) (negative : answer other ≠ .ok code) :
    answer one ≠ .ok code := by
  cases hears with
  | same => exact negative
  | lost listed performed =>
      rw [fails]
      simp

end Hears

/-- A request leaves the tables as they are, adds one entry, or removes one credential. -/
inductive AppState.Outcome (sdk : Sdk) (self : AppState) (db : Db) (event : Event) :
    Except Error StatusCode × Db → Prop
  | refused {answer : Except Error StatusCode} {after : Db} (created : answer ≠ .ok .created)
      (ok : answer ≠ .ok .ok) (tables : after.tables = db.tables)
      (sequence : db.sequence ≤ after.sequence) : Outcome sdk self db event (answer, after)
  | created {request : Request} {verified : Web3IdSdk.Request} {entry : VerificationsEntry}
      {answer : Except Error StatusCode} (answered : Answered event .created answer)
      (posted : event.endpoint = .post) (passes : self.Passes sdk event request verified)
      (enough : 2 ≤ request.proof.verifiableCredential.length)
      (entered : self.proofsToEntry sdk request.proof = .ok entry)
      (free : (db.tables.erase (db.tables.overlapping entry.slots)).clash entry.slots = none) :
      Outcome sdk self db event
        (answer, ⟨db.tables.withEntry entry db.sequence, db.sequence + 1⟩)
  | removed {request : Request} {verified : Web3IdSdk.Request} {types : List String}
      {network : Network} {contract : ContractAddress} {credential : CredentialHolderId}
      {statement : List (AtomicStatement String)} {platform : Platform}
      {answer : Except Error StatusCode} (answered : Answered event .ok answer)
      (patched : event.endpoint = .patch) (passes : self.Passes sdk event request verified)
      (single : verified.credentialStatements =
        [.web3Id types network contract credential statement])
      (issued : self.getPlatformForContract contract = .ok platform)
      (some_ : db.tables.selected platform credential.publicKey ≠ []) :
      Outcome sdk self db event
        (answer, ⟨db.tables.erase (db.tables.selected platform credential.publicKey), db.sequence⟩)

namespace AppState

variable {sdk : Sdk} {self : AppState} {db : Db} {event : Event}

/-- An answer without a call to the database refuses the request. -/
theorem Outcome.error (error : Error) : Outcome sdk self db event (.error error, db) :=
  .refused (by simp) (by simp) rfl (Nat.le_refl _)

theorem Passes.run {request : Request} {verified : Web3IdSdk.Request}
    (passes : self.Passes sdk event request verified) (db : Db) :
    (self.verifyRequest sdk event.now request).run event.answer db = (.ok verified, db) := by
  rw [verifyRequest_run, passes.verified]

/-- A verified request with two credentials or more is entered. -/
theorem serve_post {request : Request} {verified : Web3IdSdk.Request} {entry : VerificationsEntry}
    (posted : event.endpoint = .post)
    (body : event.body = .ok request)
    (verifies : (self.verifyRequest sdk event.now request).run event.answer db =
      (.ok verified, db))
    (enough : 2 ≤ request.proof.verifiableCredential.length)
    (entered : self.proofsToEntry sdk request.proof = .ok entry) :
    self.serve sdk db event =
      (answerAdded (db.run event.faults (SomeVerifier.addVerification entry)).1,
        (db.run event.faults (SomeVerifier.addVerification entry)).2) := by
  simp only [serve, handler, posted, body, addVerification,
    Program.run_bind, verifies, if_neg (Nat.not_lt.mpr enough), entered, Program.run_call,
    Event.answer]
  rcases (db.run event.faults (SomeVerifier.addVerification entry)).1 with e | ⟨_ | userId⟩ <;> rfl

/-- A verified request with one credential of a registry is removed. -/
theorem serve_patch {request : Request} {verified : Web3IdSdk.Request} {types : List String}
    {network : Network} {contract : ContractAddress}
    {credential : CredentialHolderId} {statement : List (AtomicStatement String)}
    {platform : Platform} (patched : event.endpoint = .patch) (body : event.body = .ok request)
    (verifies : (self.verifyRequest sdk event.now request).run event.answer db =
      (.ok verified, db))
    (single : verified.credentialStatements = [.web3Id types network contract credential statement])
    (issued : self.getPlatformForContract contract = .ok platform) :
    self.serve sdk db event =
      (answerRemoved (db.run event.faults (SomeVerifier.removeVerification credential platform)).1,
        (db.run event.faults (SomeVerifier.removeVerification credential platform)).2) := by
  simp only [serve, handler, patched, body, removeVerification,
    Program.run_bind, verifies, single, issued, Program.run_call, Event.answer]
  rcases (db.run event.faults (SomeVerifier.removeVerification credential platform)).1 with
    e | ⟨_ | _⟩ <;> rfl

/-- The call of a posted request enters it, or finds a clash, or fails. -/
theorem Outcome.of_added {request : Request} {verified : Web3IdSdk.Request}
    {entry : VerificationsEntry} (consistent : db.Consistent) (posted : event.endpoint = .post)
    (passes : self.Passes sdk event request verified)
    (enough : 2 ≤ request.proof.verifiableCredential.length)
    (entered : self.proofsToEntry sdk request.proof = .ok entry) :
    Outcome sdk self db event
      (answerAdded (db.run event.faults (SomeVerifier.addVerification entry)).1,
        (db.run event.faults (SomeVerifier.addVerification entry)).2) := by
  rcases (addVerification_commitsLast entry).run_faults db event.faults with
    ⟨⟨error, fails⟩, tables, sequence⟩ | ⟨hears, effect⟩
  · rw [fails]
    exact .refused (by simp [answerAdded]) (by simp [answerAdded]) tables sequence
  · rw [consistent.tables.run_addVerification consistent.fresh] at hears effect
    rw [effect]
    rcases db.tables.added_cases entry db.sequence with ⟨userId, -, refused⟩ | ⟨free, accepted⟩
    · rw [refused] at hears ⊢
      exact .refused (hears.ne (fun _ => rfl) (by simp [answerAdded]))
        (hears.ne (fun _ => rfl) (by simp [answerAdded])) rfl (Nat.le_succ _)
    · rw [accepted] at hears ⊢
      exact .created (hears.answered (fun _ => rfl) rfl) posted passes enough entered free

/-- The call of a patching request removes the credential, or does not find it, or fails. -/
theorem Outcome.of_removed {request : Request} {verified : Web3IdSdk.Request} {types : List String}
    {network : Network} {contract : ContractAddress} {credential : CredentialHolderId}
    {statement : List (AtomicStatement String)} {platform : Platform} (consistent : db.Consistent)
    (patched : event.endpoint = .patch) (passes : self.Passes sdk event request verified)
    (single : verified.credentialStatements = [.web3Id types network contract credential statement])
    (issued : self.getPlatformForContract contract = .ok platform) :
    Outcome sdk self db event
      (answerRemoved (db.run event.faults (SomeVerifier.removeVerification credential platform)).1,
        (db.run event.faults (SomeVerifier.removeVerification credential platform)).2) := by
  rcases (removeVerification_commitsLast credential platform).run_faults db event.faults with
    ⟨⟨error, fails⟩, tables, sequence⟩ | ⟨hears, effect⟩
  · rw [fails]
    exact .refused (by simp [answerRemoved]) (by simp [answerRemoved]) tables sequence
  · rw [consistent.tables.run_removeVerification, Tables.removed] at hears effect
    rw [effect]
    by_cases none_ : db.tables.selected platform credential.publicKey = []
    · rw [none_] at hears ⊢
      exact .refused (hears.ne (fun _ => rfl) (by simp [answerRemoved]))
        (hears.ne (fun _ => rfl) (by simp [answerRemoved])) (Tables.erase_nil _) (Nat.le_refl _)
    · rw [List.isEmpty_eq_false_iff.mpr none_] at hears
      exact .removed (hears.answered (fun _ => rfl) rfl) patched passes single issued none_

/-- A posted request that is verified is entered if it has an entry. -/
theorem serve_post_outcome {request : Request} {verified : Web3IdSdk.Request}
    (consistent : db.Consistent) (posted : event.endpoint = .post)
    (passes : self.Passes sdk event request verified) :
    Outcome sdk self db event (self.serve sdk db event) := by
  by_cases few : request.proof.verifiableCredential.length < 2
  · simp only [serve, handler, posted, passes.body, addVerification, Program.run_bind,
      passes.run db, if_pos few]
    exact .error _
  · cases entered : self.proofsToEntry sdk request.proof with
    | error error =>
        simp only [serve, handler, posted, passes.body, addVerification, Program.run_bind,
          passes.run db, if_neg few, entered]
        exact .error error
    | ok entry =>
        rw [serve_post posted passes.body (passes.run db) (Nat.not_lt.mp few) entered]
        exact .of_added consistent posted passes (Nat.not_lt.mp few) entered

/-- A patching request that is verified removes its credential if it has a single one. -/
theorem serve_patch_outcome {request : Request} {verified : Web3IdSdk.Request}
    (consistent : db.Consistent) (patched : event.endpoint = .patch)
    (passes : self.Passes sdk event request verified) :
    Outcome sdk self db event (self.serve sdk db event) := by
  match single : verified.credentialStatements with
  | [.web3Id types network contract credential statement] =>
      cases issued : self.getPlatformForContract contract with
      | error error =>
          simp only [serve, handler, patched, passes.body, removeVerification, Program.run_bind,
            passes.run db, single, issued]
          exact .error error
      | ok platform =>
          rw [serve_patch patched passes.body (passes.run db) single issued]
          exact .of_removed consistent patched passes single issued
  | [] | [.account ..] | _ :: _ :: _ =>
      simp only [serve, handler, patched, passes.body, removeVerification, Program.run_bind,
        passes.run db, single]
      exact .error _

/-- Every request has one of the three outcomes. -/
theorem serve_outcome (sdk : Sdk) (self : AppState) (consistent : db.Consistent) (event : Event) :
    Outcome sdk self db event (self.serve sdk db event) := by
  cases body : event.body with
  | error rejection =>
      have unread : self.serve sdk db event = (.error (.invalidRequest rejection), db) := by
        unfold serve handler
        cases event.endpoint <;> rw [body] <;> rfl
      rw [unread]
      exact .error _
  | ok request =>
      cases verification :
          ((self.verifyRequest sdk event.now request).run event.answer Db.empty).1 with
      | error error =>
          have unverified : self.serve sdk db event = (.error error, db) := by
            unfold serve handler
            cases event.endpoint <;>
              simp only [body, addVerification, removeVerification, Program.run_bind,
                self.verifyRequest_run sdk event request db, verification] <;> rfl
          rw [unverified]
          exact .error error
      | ok verified =>
          have passes : self.Passes sdk event request verified := ⟨body, verification⟩
          cases endpoint : event.endpoint with
          | post => exact serve_post_outcome consistent endpoint passes
          | patch => exact serve_patch_outcome consistent endpoint passes

/-- Every outcome leaves a consistent database. -/
theorem Outcome.consistent {result : Except Error StatusCode × Db}
    (outcome : Outcome sdk self db event result) (consistent : db.Consistent) :
    result.2.Consistent := by
  cases outcome with
  | refused _ _ tables sequence => exact consistent.grown tables sequence
  | @created _ _ entry _ _ _ _ _ _ free =>
      have added := consistent.added entry
      rcases db.tables.added_cases entry db.sequence with ⟨userId, clashes, -⟩ | ⟨-, accepted⟩
      · nomatch free.symm.trans clashes
      · rwa [accepted] at added
  | @removed _ _ _ _ _ credential _ platform _ =>
      exact consistent.removed credential.publicKey platform

/-- A property that every outcome preserves holds after every list of requests. -/
theorem serveAll_invariant (sdk : Sdk) (self : AppState) (holds : Db → Prop) (start : holds db)
    (consistent : db.Consistent) (events : List Event)
    (preserved : ∀ event ∈ events, ∀ {before : Db} {result : Except Error StatusCode × Db},
      before.Consistent → holds before → Outcome sdk self before event result → holds result.2) :
    (self.serveAll sdk db events).Consistent ∧ holds (self.serveAll sdk db events) := by
  induction events generalizing db with
  | nil => exact ⟨consistent, start⟩
  | cons event events ih =>
      have outcome := self.serve_outcome sdk consistent event
      exact ih (preserved event List.mem_cons_self consistent start outcome)
        (outcome.consistent consistent)
        fun later listed => preserved later (List.mem_cons_of_mem _ listed)

/-- The database is consistent after every list of requests. -/
theorem serveAll_consistent (sdk : Sdk) (self : AppState) (events : List Event) :
    (self.serveAll sdk Db.empty events).Consistent :=
  (self.serveAll_invariant sdk (fun _ => True) trivial Db.empty_consistent events
    fun _ _ _ _ _ _ _ => trivial).1

end AppState

end Web3Id.SomeVerifier
