import Web3Id.Proof.SomeVerifier.DeletionAuthority
import Web3Id.Proof.SomeVerifier.RemoveEffect
import Web3Id.Proof.SomeVerifier.RequestedProofs

namespace Web3Id.SomeVerifier

open Library

section Server

/-- The server reads the time that the browser has written, and prints it in the same way. -/
structure Carries (sdk : Sdk) (request : Request) (body : RemoveVerification.Body) : Prop where
  proof : request.proof = body.proof
  timestamp : sdk.toRfc3339Millis request.timestamp = body.timestamp

/-- The request arrives in time, its credentials are active, and its proofs verify. -/
structure Favourable (sdk : Sdk) (state : AppState) (event : Event) (request : Request)
    (verified : Web3IdSdk.Request) : Prop where
  body : event.body = .ok request
  timely : (numMinutes event.now request.timestamp).natAbs ≤ 10
  checked : ∃ publicData,
    event.node (.getPublicData state.network request.proof .lastFinal) = .ok publicData ∧
    allActive publicData = true ∧
    sdk.verify state.cryptoParams request.proof (publicData.map CredentialWithMetadata.inputs) =
      .ok verified

variable {sdk : Sdk} {self : AppState} {event : Event} {request : Request}
  {verified : Web3IdSdk.Request} {body : RemoveVerification.Body} {network : Network}
  {queries : List CredentialQuery}

/-- A request with the presentation of the wallet is verified. -/
theorem Favourable.verifies (favourable : Favourable sdk self event request verified)
    (carries : Carries sdk request body)
    (presents : Presents network (hash sdk.sha256 body.timestamp) queries body.proof) (db : Db) :
    (self.verifyRequest sdk event.now request).run event.answer db = (.ok verified, db) := by
  have context : request.proof.presentationContext =
      sdk.sha256 (sdk.toRfc3339Millis request.timestamp) := by
    have decoded := presents.context
    rw [hexDecode_hash] at decoded
    rw [carries.proof, carries.timestamp]
    exact (Except.ok.inj decoded).symm
  rw [self.verifyRequest_run sdk event request db,
    AppState.verifyRequest_ok.mpr ⟨favourable.timely, context, favourable.checked⟩]

/-- The server enters the request, unless a user that it keeps has one of its accounts, or the
database fails. -/
inductive Enters (db : Db) (event : Event) (entry : VerificationsEntry) :
    Except Error StatusCode × Db → Prop
  | entered (free : ∀ platform userId, ¬ db.tables.Clashes entry platform userId) :
      Enters db event entry
        (.ok .created, ⟨db.tables.replace entry db.sequence, db.sequence + 1⟩)
  | clashes {platform : Platform} {userId : String} {after : Db}
      (clash : db.tables.Clashes entry platform userId) (tables : after.tables = db.tables) :
      Enters db event entry (.error (.duplicateUserIds s!"Duplicate user id: {userId}."), after)
  | failed {e : SqlError} {after : Db} (faulty : event.faults ≠ [])
      (tables : after.tables = db.tables ∨
        after.tables = db.tables.replace entry db.sequence) :
      Enters db event entry (.error (.database e), after)

/-- The server removes the verification with this credential, unless there is none, or the database
fails. -/
inductive Removes (db : Db) (event : Event) (credential : CredentialHolderId)
    (platform : Platform) : Except Error StatusCode × Db → Prop
  | removed {row : PlatformRow} {id : Nat} (present : row ∈ db.tables.platform platform)
      (holds : row.credId = credential.publicKey) (points : row.verificationId = some id) :
      Removes db event credential platform (.ok .ok, ⟨db.tables.without id, db.sequence⟩)
  | absent (none_ : ∀ row ∈ db.tables.platform platform, row.credId ≠ credential.publicKey) :
      Removes db event credential platform (.ok .badRequest, db)
  | failed {e : SqlError} {after : Db} (faulty : event.faults ≠ [])
      (tables : after.tables = db.tables ∨ ∃ row ∈ db.tables.platform platform, ∃ id,
        row.credId = credential.publicKey ∧ row.verificationId = some id ∧
          after.tables = db.tables.without id) :
      Removes db event credential platform (.error (.database e), after)

/-- A lost answer needs a fault. -/
theorem Session.Hears.faulty {A : Type} {faults : List (Option Fault)}
    {one other : Except SqlError A} (hears : Session.Hears faults one other) :
    one = other ∨ faults ≠ [] ∧ ∃ e, one = .error e := by
  cases hears with
  | same => exact .inl rfl
  | lost listed _ => exact .inr ⟨List.ne_nil_of_mem listed, _, rfl⟩

/-- A call has its result and effect, or there is a fault, and it has an error and this effect or
none. -/
theorem CommitsLast.run_cases {A : Type} {program : DbProgram A}
    (commitsLast : CommitsLast program) (db : Db) (faults : List (Option Fault)) :
    db.run faults program = db.run [] program ∨
      faults ≠ [] ∧ (∃ e, (db.run faults program).1 = .error e) ∧
        ((db.run faults program).2.tables = db.tables ∨
          (db.run faults program).2 = (db.run [] program).2) := by
  rcases faults.eq_nil_or_concat with rfl | ⟨_, _, rfl⟩
  · exact .inl rfl
  · rcases commitsLast.run_faults db _ with ⟨fails, tables, -⟩ | ⟨hears, effect⟩
    · exact .inr ⟨by simp, fails, .inl tables⟩
    · rcases hears.faulty with same | ⟨faulty, fails⟩
      · exact .inl (Prod.ext same effect)
      · exact .inr ⟨faulty, fails, .inr effect⟩

theorem Db.Consistent.enters {db : Db} (consistent : db.Consistent) (event : Event)
    (entry : VerificationsEntry) :
    Enters db event entry (answerAdded (db.run event.faults (addVerification entry)).1,
      (db.run event.faults (addVerification entry)).2) := by
  by_cases clash : ∃ platform userId, db.tables.Clashes entry platform userId
  · obtain ⟨userId, first⟩ := Tables.exists_firstClash.mpr clash
    obtain ⟨platform, clashes⟩ : ∃ platform, db.tables.Clashes entry platform userId :=
      first.elim (fun telegram => ⟨_, telegram⟩) (fun discord => ⟨_, discord.2⟩)
    have run := consistent.run_refused first
    rcases (addVerification_commitsLast entry).run_cases db event.faults with
      same | ⟨faulty, ⟨e, fails⟩, tables⟩
    · rw [same, run]
      exact .clashes clashes rfl
    · rw [fails]
      refine .failed faulty (.inl (tables.elim id fun effect => ?_))
      rw [effect, run]
  · have free : ∀ platform userId, ¬ db.tables.Clashes entry platform userId :=
      fun platform userId clashes => clash ⟨platform, userId, clashes⟩
    have run := consistent.run_accepted free
    rcases (addVerification_commitsLast entry).run_cases db event.faults with
      same | ⟨faulty, ⟨e, fails⟩, tables⟩
    · rw [same, run]
      exact .entered free
    · rw [fails]
      refine .failed faulty (tables.imp id fun effect => ?_)
      rw [effect, run]

theorem Db.Consistent.removes {db : Db} (consistent : db.Consistent) (event : Event)
    (credential : CredentialHolderId) (platform : Platform) :
    Removes db event credential platform
      (answerRemoved (db.run event.faults (removeVerification credential platform)).1,
        (db.run event.faults (removeVerification credential platform)).2) := by
  have run : db.run [] (removeVerification credential platform) = _ :=
    consistent.tables.run_removeVerification credential platform
  by_cases known : ∃ row ∈ db.tables.platform platform, row.credId = credential.publicKey
  · obtain ⟨row, present, holds⟩ := known
    obtain ⟨id, points, -⟩ := (consistent.tables.platforms platform).target row present
    rw [← holds, consistent.tables.removed_row present points] at run
    rcases (removeVerification_commitsLast credential platform).run_cases db event.faults with
      same | ⟨faulty, ⟨e, fails⟩, tables⟩
    · rw [same, run]
      exact .removed present holds points
    · rw [fails]
      refine .failed faulty (tables.imp (fun kept => kept) fun effect =>
        ⟨row, present, id, holds, points, ?_⟩)
      rw [effect, run]
  · have none_ : ∀ row ∈ db.tables.platform platform, row.credId ≠ credential.publicKey :=
      fun row present same => known ⟨row, present, same⟩
    rw [consistent.tables.removed_absent none_] at run
    rcases (removeVerification_commitsLast credential platform).run_cases db event.faults with
      same | ⟨faulty, ⟨e, fails⟩, tables⟩
    · rw [same, run]
      exact .absent none_
    · rw [fails]
      refine .failed faulty (.inl (tables.elim (fun kept => kept) fun effect => ?_))
      rw [effect, run]

end Server

namespace Verify

variable {digest : String → Bytes} {config : FrontendConfig} {network : Network}

/-- The browser takes the digest of the timestamp, and the wallet answers the statements. -/
def Press.Honest (digest : String → Bytes) (config : FrontendConfig) (network : Network)
    (press : Press) : Reply → Prop
  | .digest (some challenge) =>
      ∀ timestamp, press.stage = .hashing timestamp → challenge = hash digest timestamp
  | .presentation (some proof) =>
      ∀ timestamp challenge, press.stage = .proving timestamp challenge →
        ∃ queries, press.checked.queries config = some queries ∧
          Presents network challenge queries proof
  | _ => True

/-- The events of the page come in any order, with an honest browser and wallet. -/
inductive Session.Step (digest : String → Bytes) (config : FrontendConfig) (network : Network) :
    Session → Event → Session → Prop
  | resume {session : Session} {index : Nat} {reply : Reply}
      (honest : ∀ press, session.presses[index]? = some press →
        press.Honest digest config network reply) :
      Step digest config network session (.resume index reply)
        (session.step config (.resume index reply))
  | page {session : Session} {event : Event} (still : ∀ index reply, event ≠ .resume index reply) :
      Step digest config network session event (session.step config event)

/-- A press has enough switches, and its request is the answer to their statements. -/
structure Press.Sound (digest : String → Bytes) (config : FrontendConfig) (network : Network)
    (press : Press) : Prop where
  enough : 2 ≤ press.checked.count
  proving : ∀ timestamp challenge, press.stage = .proving timestamp challenge →
    challenge = hash digest timestamp
  fetching : ∀ body, press.stage = .fetching body →
    ∃ queries, press.checked.queries config = some queries ∧
      Presents network (hash digest body.timestamp) queries body.proof

/-- What a press waits for after a reply. -/
inductive Press.Next (press : Press) (reply : Reply) : Stage → Prop
  | same : Next press reply press.stage
  | hashing (timestamp : String) : Next press reply (.hashing timestamp)
  | proving {timestamp challenge : String} (stage : press.stage = .hashing timestamp)
      (digest : reply = .digest (some challenge)) : Next press reply (.proving timestamp challenge)
  | fetching {timestamp challenge : String} {proof : Presentation}
      (stage : press.stage = .proving timestamp challenge)
      (presentation : reply = .presentation (some proof)) :
      Next press reply (.fetching ⟨proof, timestamp⟩)
  | reading : Next press reply .reading

/-- A reply changes only the stage of a press that goes on. -/
theorem Press.resume_next {press after : Press} {page afterPage : Page} {app afterApp : App}
    {reply : Reply}
    (resumed : press.resume config page app reply = (afterPage, afterApp, some after)) :
    ∃ stage, press.Next reply stage ∧ after = { press with stage := stage } := by
  unfold Press.resume at resumed
  split at resumed
  · split at resumed
    · cases resumed
      exact ⟨_, .hashing _, rfl⟩
    · cases resumed
  · cases resumed
  · rename_i timestamp challenge stage
    unfold Press.ask at resumed
    split at resumed
    · cases resumed
    · cases resumed
      exact ⟨_, .proving stage rfl, rfl⟩
  · cases resumed
  · rename_i timestamp challenge proof stage
    cases resumed
    exact ⟨_, .fetching stage rfl, rfl⟩
  · cases resumed
  · cases resumed
    exact ⟨_, .reading, rfl⟩
  · cases resumed
  · cases resumed
  · cases resumed
  · cases resumed
    exact ⟨_, .same, rfl⟩

/-- A reply leads a press to a stage that is as sound as the one before. -/
theorem Press.Sound.resume {press after : Press} (sound : press.Sound digest config network)
    {page afterPage : Page} {app afterApp : App} {reply : Reply}
    (honest : press.Honest digest config network reply)
    (resumed : press.resume config page app reply = (afterPage, afterApp, some after)) :
    after.Sound digest config network := by
  obtain ⟨stage, next, rfl⟩ := Press.resume_next resumed
  cases next with
  | same => exact sound
  | hashing timestamp => exact ⟨sound.enough, by simp, by simp⟩
  | proving stage digest =>
      subst digest
      refine ⟨sound.enough, ?_, by simp⟩
      rintro _ _ ⟨⟩
      exact honest _ stage
  | fetching stage presentation =>
      subst presentation
      refine ⟨sound.enough, by simp, ?_⟩
      rintro _ ⟨⟩
      obtain ⟨queries, made, presents⟩ := honest _ _ stage
      rw [sound.proving _ _ stage] at presents
      exact ⟨queries, made, presents⟩
  | reading => exact ⟨sound.enough, by simp, by simp⟩

/-- Every press of the session is sound. -/
def Session.Sound (digest : String → Bytes) (config : FrontendConfig) (network : Network)
    (session : Session) : Prop :=
  ∀ press ∈ session.presses, press.Sound digest config network

theorem Session.Sound.loaded : Session.loaded.Sound digest config network := by
  intro press member
  cases member

/-- The button starts a press only with two switches or more. -/
theorem Session.Sound.understand {session : Session} (sound : session.Sound digest config network)
    (timestamp : String) : (session.understand timestamp).Sound digest config network := by
  unfold Session.understand
  simp only
  split
  · exact sound
  · rename_i enough
    intro press member
    rcases List.mem_append.mp member with old | new
    · exact sound press old
    · cases List.mem_singleton.mp new
      refine ⟨Nat.not_lt.mp enough, ?_, ?_⟩
      · intro _ _ same
        simp only at same
        split at same <;> cases same
      · intro _ same
        simp only at same
        split at same <;> cases same

/-- Every event of the page keeps its presses sound. -/
theorem Session.Sound.step {session after : Session} {event : Event}
    (sound : session.Sound digest config network)
    (step : Session.Step digest config network session event after) :
    after.Sound digest config network := by
  cases step with
  | @resume index reply honest =>
      simp only [Session.step, Session.resume]
      split
      · exact sound
      · rename_i press found
        have old := sound press (List.mem_of_getElem? found)
        split
        · rename_i ended
          exact fun other member => sound other (List.mem_of_mem_eraseIdx member)
        · rename_i next resumed
          intro other member
          rcases List.mem_or_eq_of_mem_set member with kept | rfl
          · exact sound other kept
          · exact old.resume (honest press found) resumed
  | page still =>
      cases event with
      | resume index reply => exact absurd rfl (still index reply)
      | understand timestamp => exact sound.understand timestamp
      | submit =>
          simp only [Session.step]
          split <;> exact sound
      | toggle step =>
          simp only [Session.step]
          split <;> exact sound
      | connect provider reply =>
          simp only [Session.step]
          split <;> exact sound
      | _ => exact sound

end Verify

section Sample

end Sample

namespace RemoveVerification

variable {digest : String → Bytes} {config : FrontendConfig} {network : Network}

/-- The statement that the dialog requests for the platform. -/
def Submission.queries (config : FrontendConfig) (submission : Submission) :
    Option (List CredentialQuery) :=
  requestProof [config.issuers submission.platform] ⟨false, false⟩

/-- The browser takes the digest of the timestamp, and the wallet answers the statement. -/
def Submission.Honest (digest : String → Bytes) (config : FrontendConfig) (network : Network)
    (submission : Submission) : Reply → Prop
  | .digest (some challenge) =>
      submission.stage = .hashing → challenge = hash digest submission.timestamp
  | .presentation (some proof) =>
      ∀ challenge, submission.stage = .proving challenge →
        ∃ queries, submission.queries config = some queries ∧
          Presents network challenge queries proof
  | _ => True

/-- The events of the dialog come in any order, with an honest browser and wallet. -/
inductive Session.Step (digest : String → Bytes) (config : FrontendConfig) (network : Network) :
    Session → Event → Session → Prop
  | resume {session : Session} {index : Nat} {reply : Reply}
      (honest : ∀ submission, session.submissions[index]? = some submission →
        submission.Honest digest config network reply) :
      Step digest config network session (.resume index reply)
        (session.step (.resume index reply))
  | page {session : Session} {event : Event} (still : ∀ index reply, event ≠ .resume index reply) :
      Step digest config network session event (session.step event)

/-- The challenge of a submission is the digest of its timestamp, and its request is the answer to
its statement. -/
structure Submission.Sound (digest : String → Bytes) (config : FrontendConfig) (network : Network)
    (submission : Submission) : Prop where
  connecting : ∀ challenge, submission.stage = .connecting challenge →
    challenge = hash digest submission.timestamp
  proving : ∀ challenge, submission.stage = .proving challenge →
    challenge = hash digest submission.timestamp
  fetching : ∀ body, submission.stage = .fetching body →
    body.timestamp = submission.timestamp ∧
      ∃ queries, submission.queries config = some queries ∧
        Presents network (hash digest submission.timestamp) queries body.proof

/-- A reply leads a submission to a stage that is as sound as the one before. -/
theorem Submission.Sound.resume {submission after : Submission}
    (sound : submission.Sound digest config network) {dialog afterDialog : Dialog}
    {app afterApp : App} {reply : Reply} (honest : submission.Honest digest config network reply)
    (resumed : submission.resume dialog app reply = (afterDialog, afterApp, some after)) :
    after.Sound digest config network := by
  unfold Submission.resume at resumed
  split at resumed
  · cases resumed
  · rename_i challenge stage
    have same := honest stage
    split at resumed
    · cases resumed
      exact ⟨by simp, by simpa using same, by simp⟩
    · cases resumed
      exact ⟨by simpa using same, by simp, by simp⟩
  · rename_i challenge answer stage
    have same := sound.connecting challenge stage
    split at resumed
    · cases resumed
      exact ⟨by simp, by simpa using same, by simp⟩
    · cases resumed
  · cases resumed
  · rename_i challenge proof stage
    cases resumed
    obtain ⟨queries, made, presents⟩ := honest challenge stage
    rw [sound.proving challenge stage] at presents
    refine ⟨by simp, by simp, ?_⟩
    rintro _ ⟨⟩
    exact ⟨rfl, queries, made, presents⟩
  · cases resumed
  · cases resumed
    exact ⟨by simp, by simp, by simp⟩
  · cases resumed
  · cases resumed
  · cases resumed
    exact sound

/-- Every submission of the session is sound. -/
def Session.Sound (digest : String → Bytes) (config : FrontendConfig) (network : Network)
    (session : Session) : Prop :=
  ∀ submission ∈ session.submissions, submission.Sound digest config network

/-- Every event of the dialog keeps its submissions sound. -/
theorem Session.Sound.step {session after : Session} {event : Event}
    (sound : session.Sound digest config network)
    (step : Session.Step digest config network session event after) :
    after.Sound digest config network := by
  cases step with
  | @resume index reply honest =>
      simp only [Session.step, Session.resume]
      split
      · exact sound
      · rename_i submission found
        have old := sound submission (List.mem_of_getElem? found)
        split
        · exact fun other member => sound other (List.mem_of_mem_eraseIdx member)
        · rename_i resumed
          intro other member
          rcases List.mem_or_eq_of_mem_set member with kept | rfl
          · exact sound other kept
          · exact old.resume (honest submission found) resumed
  | page still =>
      cases event with
      | resume index reply => exact absurd rfl (still index reply)
      | submit platform timestamp =>
          simp only [Session.step, Session.submit]
          split
          · split
            · exact sound
            · intro other member
              rcases List.mem_append.mp member with old | new
              · exact sound other old
              · cases List.mem_singleton.mp new
                exact ⟨by simp, by simp, by simp⟩
          · exact sound
      | onClosed =>
          simp only [Session.step, Session.onClosed]
          split <;> exact sound
      | toggle =>
          simp only [Session.step]
          split <;> exact sound
      | onChange =>
          simp only [Session.step]
          split <;> exact sound
      | prove provider reply =>
          simp only [Session.step]
          split <;> exact sound
      | _ => exact sound

theorem Session.Sound.loaded : Session.loaded.Sound digest config network := by
  intro submission member
  cases member

end RemoveVerification

end Web3Id.SomeVerifier
