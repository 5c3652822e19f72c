import Web3Id.Construction.ProofExplorer.ProofPanels
import Web3Id.Library.Execution
import Web3Id.Proof.ProofExplorer.AnchoredClaims
import Web3Id.Proof.Verifier.PinnedBlock

namespace Web3Id.ProofExplorer

open Library

variable {Atom : Type}

/-- A text that starts in another way does not read like an acceptance. -/
theorem append_ne {start : String} (other : ¬start.toList <+: "Proof OK".toList) (rest : String) :
    start ++ rest ≠ "Proof OK" := by
  intro same
  exact other ⟨rest.toList, by rw [← String.toList_append, same]⟩

section Flow

variable {Request Proof Reply : Type}

def Result.message : Result Proof → Option String
  | .accepted _ => some "Proof OK"
  | .refused message => some message
  | .silent => none

def Result.proof : Result Proof → Option Proof
  | .accepted proof => some proof
  | _ => none

/-- The result that a stage leads to. -/
def Stage.outcome : Stage Proof → Option (Result Proof)
  | .reading result | .settled result => some result
  | _ => none

/-- The result that a stage has reported. -/
def Stage.result : Stage Proof → Option (Result Proof)
  | .settled result => some result
  | _ => none

theorem Stage.outcome_of_result {stage : Stage Proof} {result : Result Proof}
    (settled : stage.result = some result) : stage.outcome = some result := by
  cases stage with
  | settled result => exact settled
  | _ => cases settled

/-- An answer for a proof accepts that proof, or refuses it with a message that does not read like
an acceptance, or is silent. -/
inductive Verdict (passes : Prop) (proof : Proof) : Result Proof → Prop
  | accepted (ok : passes) : Verdict passes proof (.accepted proof)
  | refused {message : String} (other : message ≠ "Proof OK") :
      Verdict passes proof (.refused message)
  | silent : Verdict passes proof .silent

/-- After every answer of the verifier a press has an outcome. -/
def Verdicts (passes : Request → Proof → Reply → Prop)
    (verified : Request → Proof → Reply → Stage Proof) : Prop :=
  ∀ request proof reply, ∃ result, (verified request proof reply).outcome = some result ∧
    Verdict (passes request proof reply) proof result

/-- A proof comes from the wallet, and it is accepted after an answer for it that passes. -/
structure Attempt.Sound (wallet : Request → Proof → Prop) (passes : Request → Proof → Prop)
    (attempt : Attempt Request Proof) : Prop where
  proven : ∀ proof, attempt.stage = .verifying proof → wallet attempt.request proof
  accepted : ∀ proof, attempt.stage.outcome = some (.accepted proof) →
    wallet attempt.request proof ∧ passes attempt.request proof
  refused : ∀ message, attempt.stage.outcome = some (.refused message) → message ≠ "Proof OK"

namespace Flow

/-- The result that a press has reported. -/
def resultAt (flow : Flow Request Proof) (index : Nat) : Option (Result Proof) :=
  flow.attempts[index]?.bind fun attempt => attempt.stage.result

def messageAt (flow : Flow Request Proof) (index : Nat) : Option String :=
  (flow.resultAt index).bind Result.message

def proofAt (flow : Flow Request Proof) (index : Nat) : Option Proof :=
  (flow.resultAt index).bind Result.proof

/-- The lines are the messages of different presses, and the current proof is the one that was
accepted last among them. -/
structure Lists (flow : Flow Request Proof) (origins : List Nat) : Prop where
  once : origins.Nodup
  messages : origins.map flow.messageAt = flow.panel.messages.map some
  newest : ∀ proof, (origins.filterMap flow.proofAt).getLast? = some proof →
    flow.panel.currentProof = some proof

structure Sound (wallet passes : Request → Proof → Prop) (flow : Flow Request Proof) : Prop where
  attempts : ∀ attempt ∈ flow.attempts, attempt.Sound wallet passes
  lists : ∃ origins, flow.Lists origins
  current : ∀ proof, flow.panel.currentProof = some proof →
    ∃ attempt ∈ flow.attempts, attempt.stage = .settled (.accepted proof)

variable {wallet passes : Request → Proof → Prop} {flow : Flow Request Proof}

theorem Sound.loaded : (loaded : Flow Request Proof).Sound wallet passes where
  attempts := by simp [Flow.loaded]
  lists := ⟨[], .nil, rfl, by simp⟩
  current := by simp [Flow.loaded]

/-- A press has reported nothing. -/
theorem resultAt_press (request : Request) : (flow.press request).resultAt = flow.resultAt := by
  funext index
  simp only [resultAt, press, List.getElem?_append]
  split
  · rfl
  · rename_i beyond
    rw [List.getElem?_eq_none (Nat.not_lt.mp beyond)]
    cases index - flow.attempts.length <;> rfl

theorem resultAt_goOn {index : Nat} {attempt : Attempt Request Proof}
    (got : flow.attempts[index]? = some attempt) (request : Request) (stage : Stage Proof)
    (place : Nat) :
    (flow.goOn index request stage).resultAt place =
      if index = place then stage.result else flow.resultAt place := by
  obtain ⟨within, -⟩ := List.getElem?_eq_some_iff.mp got
  simp only [resultAt, goOn, List.getElem?_set, within, if_true]
  split <;> rfl

/-- Lists whose presses report the same keep their lines. -/
theorem Lists.congr {after : Flow Request Proof} {origins : List Nat}
    (lists : flow.Lists origins) (same : ∀ index ∈ origins, after.resultAt index =
      flow.resultAt index) (panel : after.panel.messages = flow.panel.messages)
    (current : after.panel.currentProof = flow.panel.currentProof) : after.Lists origins where
  once := lists.once
  messages := by
    rw [panel, ← lists.messages]
    exact List.map_congr_left fun index listed => by rw [messageAt, messageAt, same index listed]
  newest proof last := by
    rw [current]
    refine lists.newest proof (Eq.trans ?_ last)
    congr 1
    exact List.filterMap_congr fun index listed => by rw [proofAt, proofAt, same index listed]

/-- A press without a message is not listed. -/
theorem Lists.not_mem {origins : List Nat} (lists : flow.Lists origins) {index : Nat}
    (nothing : flow.messageAt index = none) : index ∉ origins := by
  intro listed
  have shown : flow.messageAt index ∈ flow.panel.messages.map some :=
    lists.messages ▸ List.mem_map_of_mem listed
  obtain ⟨message, -, same⟩ := List.mem_map.mp shown
  rw [nothing] at same
  cases same

/-- A press that reports a message is listed after the others. -/
theorem Lists.extend {after : Flow Request Proof} {origins : List Nat} {index : Nat}
    {result : Result Proof} {message : String} (lists : flow.Lists origins)
    (fresh : index ∉ origins)
    (same : ∀ other ∈ origins, after.resultAt other = flow.resultAt other)
    (reported : after.resultAt index = some result) (shows : result.message = some message)
    (panel : after.panel.messages = flow.panel.messages ++ [message])
    (current : after.panel.currentProof = result.proof.or flow.panel.currentProof) :
    after.Lists (origins ++ [index]) where
  once := List.nodup_append.mpr ⟨lists.once, by simp, by
    rintro first listed second last rfl
    exact fresh (List.mem_singleton.mp last ▸ listed)⟩
  messages := by
    rw [panel, List.map_append, List.map_append, ← lists.messages]
    congr 1
    · exact List.map_congr_left fun other listed => by
        rw [messageAt, messageAt, same other listed]
    · simp [messageAt, reported, shows]
  newest proof last := by
    have before : origins.filterMap after.proofAt = origins.filterMap flow.proofAt :=
      List.filterMap_congr fun other listed => by rw [proofAt, proofAt, same other listed]
    have own : after.proofAt index = result.proof := by rw [proofAt, reported, Option.bind_some]
    rw [List.filterMap_append, before] at last
    rw [current]
    cases accepted : result.proof with
    | none =>
        rw [List.filterMap_cons_none (own.trans accepted), List.filterMap_nil,
          List.append_nil] at last
        exact lists.newest proof last
    | some accepted' =>
        rw [List.filterMap_cons_some (own.trans accepted), List.filterMap_nil,
          List.getLast?_concat] at last
        exact last

/-- A press that goes on is listed when its stage reports a message. -/
theorem Lists.goOn {origins : List Nat} (lists : flow.Lists origins) {index : Nat}
    {attempt : Attempt Request Proof} (got : flow.attempts[index]? = some attempt)
    (unsettled : attempt.stage.result = none) (request : Request) (stage : Stage Proof) :
    ∃ origins, (flow.goOn index request stage).Lists origins := by
  have nothing : flow.messageAt index = none := by
    rw [messageAt, resultAt, got, Option.bind_some, unsettled, Option.bind_none]
  have fresh := lists.not_mem nothing
  have same : ∀ other ∈ origins,
      (flow.goOn index request stage).resultAt other = flow.resultAt other := by
    intro other listed
    rw [resultAt_goOn got, if_neg]
    rintro rfl
    exact fresh listed
  have own : (flow.goOn index request stage).resultAt index = stage.result := by
    rw [resultAt_goOn got, if_pos rfl]
  cases stage with
  | proving | verifying proof | reading result => exact ⟨origins, lists.congr same rfl rfl⟩
  | settled result =>
      cases result with
      | silent => exact ⟨origins, lists.congr same rfl rfl⟩
      | accepted proof => exact ⟨origins ++ [index], lists.extend fresh same own rfl rfl rfl⟩
      | refused message => exact ⟨origins ++ [index], lists.extend fresh same own rfl rfl rfl⟩

/-- The current proof after a report is the accepted one, or the one before. -/
theorem report_currentProof (panel : Panel Proof) (stage : Stage Proof) :
    (panel.report stage).currentProof = (stage.result.bind Result.proof).or panel.currentProof := by
  cases stage with
  | settled result => cases result <;> rfl
  | _ => rfl

/-- A press that is not settled goes on to a stage that is sound. -/
theorem Sound.goOn (sound : flow.Sound wallet passes) {index : Nat} {request : Request}
    {old stage : Stage Proof} (got : flow.attempts[index]? = some ⟨request, old⟩)
    (unsettled : old.result = none)
    (goes : Attempt.Sound wallet passes ⟨request, stage⟩) :
    (flow.goOn index request stage).Sound wallet passes where
  attempts attempt listed := by
    rcases List.mem_or_eq_of_mem_set listed with before | rfl
    · exact sound.attempts attempt before
    · exact goes
  lists := by
    obtain ⟨origins, lists⟩ := sound.lists
    exact lists.goOn got unsettled request stage
  current proof shown := by
    obtain ⟨within, there⟩ := List.getElem?_eq_some_iff.mp got
    rw [Flow.goOn, report_currentProof, Option.or_eq_some_iff] at shown
    rcases shown with accepted | ⟨-, before⟩
    · refine ⟨⟨request, stage⟩, List.mem_set within .., ?_⟩
      cases stage with
      | settled result =>
          cases result with
          | accepted other =>
              cases accepted
              rfl
          | _ => cases accepted
      | _ => cases accepted
    · obtain ⟨attempt, listed, settled⟩ := sound.current proof before
      refine ⟨attempt, ?_, settled⟩
      -- The press that goes on is not the settled one.
      obtain ⟨place, got'⟩ := List.mem_iff_getElem?.mp listed
      have different : index ≠ place := by
        rintro rfl
        rw [got] at got'
        cases got'
        cases settled
        cases unsettled
      exact List.mem_iff_getElem?.mpr ⟨place, (List.getElem?_set_ne different).trans got'⟩

theorem Sound.press (sound : flow.Sound wallet passes) (request : Request) :
    (flow.press request).Sound wallet passes where
  attempts attempt listed := by
    rcases List.mem_append.mp listed with before | new
    · exact sound.attempts attempt before
    · cases List.mem_singleton.mp new
      exact ⟨nofun, nofun, nofun⟩
  lists := by
    obtain ⟨origins, lists⟩ := sound.lists
    exact ⟨origins, lists.congr (fun index _ => by rw [resultAt_press]) rfl rfl⟩
  current proof shown := by
    obtain ⟨attempt, listed, settled⟩ := sound.current proof shown
    exact ⟨attempt, List.mem_append_left _ listed, settled⟩

theorem Sound.clearMessages (sound : flow.Sound wallet passes) :
    flow.clearMessages.Sound wallet passes where
  attempts := sound.attempts
  lists := ⟨[], .nil, rfl, by simp⟩
  current := sound.current

/-- A panel with the same list and the same proof is as sound. -/
theorem Sound.popup (sound : flow.Sound wallet passes) {panel : Panel Proof}
    (messages : panel.messages = flow.panel.messages)
    (current : panel.currentProof = flow.panel.currentProof) :
    ({ flow with panel := panel } : Flow Request Proof).Sound wallet passes where
  attempts := sound.attempts
  lists := by
    obtain ⟨origins, lists⟩ := sound.lists
    exact ⟨origins, lists.congr (fun _ _ => rfl) messages current⟩
  current proof shown := sound.current proof (current ▸ shown)

theorem Sound.step {replies answers : Request → Proof → Reply → Prop}
    {verified : Request → Proof → Reply → Stage Proof} (verdicts : Verdicts answers verified)
    (sound : flow.Sound wallet fun request proof =>
      ∃ reply, replies request proof reply ∧ answers request proof reply)
    {event : FlowEvent Proof Reply} (admits : flow.Admits wallet replies event) :
    (flow.step verified event).Sound wallet fun request proof =>
      ∃ reply, replies request proof reply ∧ answers request proof reply := by
  cases admits with
  | wallet index reply proves =>
      simp only [Flow.step]
      split
      · rename_i request got
        refine sound.goOn got rfl ?_
        cases reply with
        | proven proof =>
            refine ⟨?_, nofun, nofun⟩
            rintro other ⟨⟩
            exact proves request proof got rfl
        | error message =>
            refine ⟨nofun, nofun, ?_⟩
            rintro other ⟨⟩
            exact append_ne (by decide) message
        | other => exact ⟨nofun, nofun, nofun⟩
      · exact sound
  | verifier index reply replied =>
      simp only [Flow.step]
      split
      · rename_i request proof got
        have before := sound.attempts _ (List.mem_of_getElem? got)
        obtain ⟨result, outcome, verdict⟩ := verdicts request proof reply
        refine sound.goOn got rfl ⟨?_, ?_, ?_⟩
        · intro other waits
          simp only at waits
          rw [waits] at outcome
          cases outcome
        · intro other accepted
          cases outcome.symm.trans accepted
          cases verdict with
          | accepted ok => exact ⟨before.proven proof rfl, reply, replied request proof got, ok⟩
        · intro message refused
          cases outcome.symm.trans refused
          cases verdict with
          | refused other => exact other
      · exact sound
  | read index =>
      simp only [Flow.step]
      split
      · rename_i request result got
        have before := sound.attempts _ (List.mem_of_getElem? got)
        exact sound.goOn got rfl ⟨nofun, before.accepted, before.refused⟩
      · exact sound
  | handleViewDetails line =>
      refine sound.popup ?_ ?_ <;>
        · unfold Panel.handleViewDetails
          split <;> rfl
  | handleCloseDetails => exact sound.popup rfl rfl

/-- The requests of the presses stay. -/
theorem step_requests (verified : Request → Proof → Reply → Stage Proof)
    (event : FlowEvent Proof Reply) :
    (flow.step verified event).attempts.map Attempt.request =
      flow.attempts.map Attempt.request := by
  have goes {index : Nat} {request : Request} {old : Stage Proof}
      (got : flow.attempts[index]? = some ⟨request, old⟩) (stage : Stage Proof) :
      (flow.goOn index request stage).attempts.map Attempt.request =
        flow.attempts.map Attempt.request := by
    obtain ⟨within, there⟩ := List.getElem?_eq_some_iff.mp got
    have listed : index < (flow.attempts.map Attempt.request).length := by simpa using within
    rw [Flow.goOn, List.map_set]
    refine Eq.trans ?_ (List.set_getElem_self listed)
    rw [List.getElem_map, there]
  cases event with
  | wallet | verifier | read =>
      simp only [Flow.step]
      split
      · rename_i got
        exact goes got _
      · rfl
  | handleViewDetails | handleCloseDetails => rfl

/--
The lines are the messages of different presses.
A line has a button exactly when its press was accepted, and the button opens the proof of the last
line with a button; the popup shows an accepted proof.
-/
structure Truthful (accepts : Request → Proof → Prop) (flow : Flow Request Proof)
    (origins : List Nat) : Prop where
  once : origins.Nodup
  lines : origins.map flow.messageAt = flow.panel.lines.map fun line => some line.1
  buttons : (origins.map fun index =>
      (flow.proofAt index).bind fun _ => (origins.filterMap flow.proofAt).getLast?) =
    flow.panel.lines.map Prod.snd
  accepted : ∀ attempt ∈ flow.attempts, ∀ proof, attempt.stage = .settled (.accepted proof) →
    accepts attempt.request proof
  details : ∀ proof, flow.panel.details = some proof →
    ∃ attempt ∈ flow.attempts, attempt.stage = .settled (.accepted proof)

/-- The line of a press shows the last accepted proof, or has no button. -/
theorem Sound.button (sound : flow.Sound wallet passes) {origins : List Nat}
    (lists : flow.Lists origins) {index : Nat} (listed : index ∈ origins) :
    ((flow.messageAt index).bind fun m =>
        if m = "Proof OK" then flow.panel.currentProof else none) =
      (flow.proofAt index).bind fun _ => (origins.filterMap flow.proofAt).getLast? := by
  cases reported : flow.resultAt index with
  | none => simp only [messageAt, proofAt, reported, Option.bind_none]
  | some result =>
      have own : flow.proofAt index = result.proof := by rw [proofAt, reported, Option.bind_some]
      rw [messageAt, own, reported, Option.bind_some]
      cases result with
      | silent => rfl
      | refused message =>
          obtain ⟨attempt, got, settled⟩ := Option.bind_eq_some_iff.mp reported
          have other := (sound.attempts attempt (List.mem_of_getElem? got)).refused message
            (Stage.outcome_of_result settled)
          exact if_neg other
      | accepted proof =>
          have nonempty : origins.filterMap flow.proofAt ≠ [] :=
            List.ne_nil_of_mem (List.mem_filterMap.mpr ⟨index, listed, own⟩)
          have last := List.getLast?_eq_some_getLast nonempty
          show (if "Proof OK" = "Proof OK" then flow.panel.currentProof else none) =
            (origins.filterMap flow.proofAt).getLast?
          rw [if_pos rfl, last]
          exact lists.newest _ last

theorem Sound.truthful (sound : flow.Sound wallet passes) {accepts : Request → Proof → Prop}
    (accepted : ∀ attempt ∈ flow.attempts, ∀ proof, wallet attempt.request proof →
      passes attempt.request proof → accepts attempt.request proof) :
    ∃ origins, flow.Truthful accepts origins := by
  obtain ⟨origins, lists⟩ := sound.lists
  refine ⟨origins, lists.once, ?_, ?_, ?_, ?_⟩
  · rw [lists.messages, Panel.lines, List.map_map]
    rfl
  · calc
      _ = (origins.map flow.messageAt).map (·.bind fun m =>
            if m = "Proof OK" then flow.panel.currentProof else none) := by
          rw [List.map_map]
          exact List.map_congr_left fun index listed => (sound.button lists listed).symm
      _ = flow.panel.lines.map Prod.snd := by
          rw [lists.messages, Panel.lines, List.map_map, List.map_map]
          rfl
  · intro attempt listed proof settled
    obtain ⟨proven, passed⟩ := (sound.attempts attempt listed).accepted proof (settled ▸ rfl)
    exact accepted attempt listed proof proven passed
  · intro proof shown
    refine sound.current proof ?_
    unfold Panel.details at shown
    split at shown
    · exact shown
    · cases shown

end Flow

end Flow

/-- The statuses of the verifier's errors are not OK. -/
theorem isOk_error (sdk : PresentationSdk) (e : Web3IdVerifier.Error) :
    isOk (e.intoResponse sdk).1.code = false := by
  cases e <;> rfl

/-- An OK answer of the verifier names a block at which it has verified the presentation. -/
theorem serve_isOk {sdk : PresentationSdk} {fromSlice : Bytes → Except JsonRejection Presentation}
    {state : Web3IdVerifier.State} {ledger : Ledger} {reliable : Bool} {body : HttpBody}
    {first last : BlockHash} {response : HttpResponse Web3IdVerifier.Response}
    (run : Program.Answered (ledger.Answers reliable) first
      (Web3IdVerifier.serve sdk fromSlice state body) last response)
    (ok : isOk response.status) :
    ∃ presentation publicData block, fromSlice body.bytes = .ok presentation ∧
      Web3IdVerifier.Verified ledger
        (fun params presentation inputs =>
          ∃ request, sdk.verify params presentation inputs = .ok request)
        state presentation block publicData := by
  unfold Web3IdVerifier.serve at run
  split at run
  · cases run.of_pure.2
    cases ok
  · obtain ⟨middle, result, verifies, returns⟩ := run.of_bind
    cases returns.of_pure.2
    cases result with
    | error e =>
        exact absurd ((isOk_error sdk e).symm.trans ok) Bool.false_ne_true
    | ok named =>
        obtain ⟨presentation, publicData, read, reads, active, verified⟩ :=
          Web3IdVerifier.verifyPresentation_ok verifies
        refine ⟨presentation, publicData, named.block, ?_, reads, active, _, verified⟩
        unfold Web3IdVerifier.readBody at read
        split at read
        · cases read
        · exact read

/-- The verifier answers with a status that is OK. -/
def SubmitProof.Passes (_ : SubmitProof.Request Atom) (_ : Presentation)
    (reply : Option (HttpResponse Web3IdVerifier.Response)) : Prop :=
  ∃ response, reply = some response ∧ isOk response.status

theorem SubmitProof.verdicts :
    Verdicts SubmitProof.Passes (SubmitProof.verified : SubmitProof.Request Atom → _) := by
  intro request proof reply
  cases reply with
  | none => exact ⟨.silent, rfl, .silent⟩
  | some response =>
      cases ok : isOk response.status with
      | true =>
          exact ⟨.accepted proof, by simp [verified, ok, Stage.outcome], .accepted ⟨_, rfl, ok⟩⟩
      | false =>
          refine ⟨_, by simp only [verified, ok]; rfl, ?_⟩
          split
          · simp only [String.append_assoc]
            exact .refused (append_ne (by decide) _)
          · exact .silent

namespace SubmitProofV1

/-- The service answers OK without a failure, or the check in the page is a success. -/
inductive Passes (parse : String → Option Json) : Request Atom → PresentationV1 → Reply → Prop
  | service {request : Request Atom} {proof : PresentationV1} {response : ServiceResponse}
      (asked : request.useVerifierService = true) (ok : isOk response.status)
      (fine : response.failed parse = none) : Passes parse request proof (.service response)
  | checked {request : Request Atom} {proof : PresentationV1}
      (asked : request.useVerifierService = false) : Passes parse request proof (.checked none)

/-- The message of a failure has its own start. -/
theorem failedMessage_ne {failed : Json} {message : String}
    (shown : failedMessage failed = some message) : message ≠ "Proof OK" := by
  obtain ⟨text, -, shown⟩ := Option.bind_eq_some_iff.mp shown
  split at shown
  · cases shown
    exact append_ne (by decide) _
  · obtain ⟨code, -, shown⟩ := Option.bind_eq_some_iff.mp shown
    cases shown
    simp only [String.append_assoc]
    exact append_ne (by decide) _

theorem verdicts (parse : String → Option Json) :
    Verdicts (Passes parse) (verified parse : Request Atom → _) := by
  intro request proof reply
  cases reply with
  | throws => exact ⟨.silent, rfl, .silent⟩
  | service response =>
      cases asked : request.useVerifierService with
      | false => exact ⟨.silent, by simp [verified, asked, Stage.outcome], .silent⟩
      | true =>
          refine ⟨response.result parse proof, by simp [verified, asked, Stage.outcome], ?_⟩
          unfold ServiceResponse.result
          split
          · rename_i ok
            split
            · rename_i fine
              exact .accepted (.service asked ok fine)
            · rename_i failed _
              cases shown : failedMessage failed with
              | none => exact .silent
              | some message => exact .refused (failedMessage_ne shown)
          · simp only [String.append_assoc]
            exact .refused (append_ne (by decide) _)
  | checked failure =>
      cases asked : request.useVerifierService with
      | true => exact ⟨.silent, by simp [verified, asked, Stage.outcome], .silent⟩
      | false =>
          refine ⟨_, by simp only [verified, asked]; rfl, ?_⟩
          cases failure with
          | none => exact .accepted (.checked asked)
          | some text => exact .refused (append_ne (by decide) _)

end SubmitProofV1

namespace Session

/-- The hash of the request is that of an anchor on the chain with its context. -/
def Anchors (session : Session Atom) (request : VerificationRequest Atom) : Prop :=
  ∃ submission, session.chain[request.anchorTransactionHash.place]? = some submission ∧
    submission.context = request.context

/-- The page knows only hashes of the chain. -/
def Knows (session : Session Atom) : Prop :=
  ∀ hash, session.explorer.anchorTransactionHash = some hash → hash.place < session.chain.length

variable {session : Session Atom}

/-- The chain only grows. -/
theorem step_chain (event : Event Atom) : session.chain <+: (session.step event).chain := by
  cases event with
  | createAnchorAndSubmit =>
      simp only [step, createAnchorAndSubmit]
      split
      · exact List.prefix_rfl
      · split <;> exact List.prefix_rfl
  | answer index sent =>
      simp only [step, answer]
      split
      · exact List.prefix_rfl
      · split
        · exact List.prefix_append _ _
        · exact List.prefix_rfl
  | _ => exact List.prefix_rfl

theorem Knows.step (knows : session.Knows) (event : Event Atom) : (session.step event).Knows := by
  cases event with
  | createAnchorAndSubmit =>
      simp only [Session.step, createAnchorAndSubmit]
      split
      · exact knows
      · split <;> exact nofun
  | answer index sent =>
      simp only [Session.step, answer]
      split
      · exact knows
      · split
        · rintro hash ⟨⟩
          simp
        · exact knows
  | _ => exact knows

theorem Anchors.step {request : VerificationRequest Atom} (anchors : session.Anchors request)
    (event : Event Atom) : (session.step event).Anchors request := by
  obtain ⟨submission, sent, context⟩ := anchors
  obtain ⟨later, grown⟩ : session.chain <+: (session.step event).chain := step_chain event
  obtain ⟨within, -⟩ := List.getElem?_eq_some_iff.mp sent
  exact ⟨submission, by rw [← grown, List.getElem?_append_left within, sent], context⟩

/-- A request is made with the hash of an anchor. -/
theorem anchors_of_proveV1 (kept : session.Kept) (knows : session.Knows)
    {request : VerificationRequest Atom} (made : session.proveV1 = some (.ok request)) :
    session.Anchors request := by
  obtain ⟨-, -, held, context, -⟩ := (proveV1_iff request).mp made
  have within := knows _ held
  refine ⟨session.chain[request.anchorTransactionHash.place], List.getElem?_eq_getElem within, ?_⟩
  rw [context]
  exact kept _ (List.mem_append_right _ (List.getElem_mem within))

end Session

/-- The proof comes from the wallet, and the verifier has verified it at a block. -/
def World.Verifies (world : World Atom) (request : SubmitProof.Request Atom)
    (proof : Presentation) : Prop :=
  world.wallet request proof ∧
    ∃ presentation publicData block, world.fromSlice (world.text proof) = .ok presentation ∧
      Web3IdVerifier.Verified world.ledger
        (fun params presentation inputs =>
          ∃ request, world.sdk.verify params presentation inputs = .ok request)
        world.verifier presentation block publicData

/-- The proof comes from the wallet for an anchored request, and its verification passes. -/
def World.VerifiesV1 (world : World Atom) (session : Session Atom)
    (request : SubmitProofV1.Request Atom) (proof : PresentationV1) : Prop :=
  world.walletV1 request proof ∧ session.Anchors request.verificationRequest ∧
    ∃ reply, world.repliesV1 request proof reply ∧
      SubmitProofV1.Passes world.parse request proof reply

namespace Page

structure Sound (world : World Atom) (page : Page Atom) : Prop where
  flow : page.flow.Sound world.wallet fun request proof =>
    ∃ reply, world.replies request proof reply ∧ SubmitProof.Passes request proof reply
  flowV1 : page.flowV1.Sound world.walletV1 fun request proof =>
    ∃ reply, world.repliesV1 request proof reply ∧
      SubmitProofV1.Passes world.parse request proof reply
  kept : page.session.Kept
  knows : page.session.Knows
  anchored : ∀ request ∈ page.flowV1.attempts.map Attempt.request,
    page.session.Anchors request.verificationRequest

variable {world : World Atom} {page : Page Atom}

theorem Sound.loaded (world : World Atom) (nonce : Bytes) : (Page.loaded nonce).Sound world where
  flow := .loaded
  flowV1 := .loaded
  kept := Session.loaded_kept nonce
  knows := nofun
  anchored := by simp [Page.loaded, Flow.loaded]

theorem Sound.step (sound : page.Sound world) {event : PageEvent Atom}
    (admits : page.Admits world event) : (page.step world event).Sound world := by
  cases event with
  | explore event => exact {
      flow := sound.flow
      flowV1 := sound.flowV1
      kept := sound.kept.step event
      knows := sound.knows.step event
      anchored := fun request listed => (sound.anchored request listed).step event }
  | setUseVerifierService => exact { sound with }
  | prove challenge =>
      simp only [Page.step]
      split
      · exact { sound with flow := sound.flow.press _ }
      · exact sound
  | proveV1 =>
      simp only [Page.step]
      split
      · rename_i request made
        refine { sound with flowV1 := sound.flowV1.press _, anchored := ?_ }
        intro other listed
        simp only [Flow.press, List.map_append, List.mem_append] at listed
        rcases listed with before | new
        · exact sound.anchored other before
        · cases List.mem_singleton.mp new
          exact Session.anchors_of_proveV1 sound.kept sound.knows made
      · exact sound
  | flow event => exact { sound with flow := sound.flow.step SubmitProof.verdicts admits }
  | flowV1 event => exact { sound with
      flowV1 := sound.flowV1.step (SubmitProofV1.verdicts world.parse) admits
      anchored := by
        rw [Page.step, Flow.step_requests]
        exact sound.anchored }
  | clearMessages => exact { sound with
      flow := sound.flow.clearMessages
      flowV1 := sound.flowV1.clearMessages }

end Page

/--
In every run of the page, the lines of both panels report different presses, with the newest
accepted proof behind the button of each accepted one; an accepted proof of the first panel is
verified at a block of the chain, and one of the second panel answers a request with the hash of an
anchor.
-/
theorem proofPanels_truthful (world : World Atom) (nonce : Bytes) {events : List (PageEvent Atom)}
    {page : Page Atom} (run : Execution (Page.Step world) (.loaded nonce) events page) :
    (∃ origins, page.flow.Truthful world.Verifies origins) ∧
      ∃ origins, page.flowV1.Truthful (world.VerifiesV1 page.session) origins := by
  have sound : page.Sound world := by
    refine run.invariant ?_ (Page.Sound.loaded world nonce)
    rintro first event _ before ⟨admits⟩
    exact before.step admits
  constructor
  · refine sound.flow.truthful ?_
    rintro attempt - proof proven ⟨_, replied, response, rfl, ok⟩
    obtain ⟨reliable, first, last, answered⟩ := replied
    exact ⟨proven, serve_isOk answered ok⟩
  · refine sound.flowV1.truthful fun attempt listed proof proven passed => ?_
    exact ⟨proven, sound.anchored _ (List.mem_map_of_mem listed), passed⟩

/-- The sample wallet gives one presentation to each panel. The verifier has the sample chain, and
the service of the second panel answers without a failure. -/
def sampleWorld : World String where
  sdk := Web3IdVerifier.sampleSdk
  fromSlice _ := .ok Web3IdVerifier.samplePresentation
  verifier := Web3IdVerifier.sampleState
  ledger := Web3IdVerifier.sampleLedger
  text _ := []
  wallet request proof :=
    request.challenge = proof.presentationContext ∧ proof = Web3IdVerifier.samplePresentation
  parse _ := none
  walletV1 _ proof := proof = ⟨[4]⟩
  repliesV1 _ _ reply := reply = .service ⟨200, "OK", none⟩

/-- The verifier verifies the presentation of the sample wallet. -/
def sampleResponse : HttpResponse Web3IdVerifier.Response :=
  ⟨200, .inr ⟨⟨5⟩, ⟨0⟩, ⟨[], [.web3Id [] .testnet ⟨3, 0⟩ ⟨7⟩ []]⟩⟩⟩

theorem sampleWorld_replies (request : SubmitProof.Request String) :
    sampleWorld.replies request Web3IdVerifier.samplePresentation (some sampleResponse) :=
  ⟨true, ⟨5⟩, ⟨5⟩, .call (.blockInfo ⟨5⟩ ⟨5⟩) (.call
    (.publicData ⟨5⟩ ⟨5⟩ (Web3IdVerifier.sampleLedger_reads ⟨5⟩)) (.pure _ _))⟩

/-- A statement is made, and its anchor goes to the chain. -/
def sampleAnchor : List (PageEvent String) :=
  [.explore (.setProvider (.browserWallet (some "account"))),
    .explore (.edit (.addWeb3IdStatement [⟨3, 0⟩] ["age"])), .explore .createAnchorAndSubmit,
    .explore (.answer 0 true)]

/-- Two presses of the first panel ask the wallet, which gives up the first of them, and the press
of the second panel is verified by the service. -/
def samplePresses : List (PageEvent String) :=
  [.prove [], .prove [], .proveV1, .flow (.wallet 1 (.proven Web3IdVerifier.samplePresentation)),
    .flow (.verifier 1 (some sampleResponse)), .flow (.wallet 0 (.error "rejected")),
    .flowV1 (.wallet 0 (.proven ⟨[4]⟩)), .flowV1 (.verifier 0 (.service ⟨200, "OK", none⟩)),
    .flowV1 (.read 0)]

/-- The lines of both panels of the sample run come in the order of their reports. -/
theorem proofPanels_truthful_sample :
    ∃ page : Page String,
      page.flow.panel.lines = [("Proof OK", some Web3IdVerifier.samplePresentation),
        ("Could not get proof: rejected", none)] ∧
      page.flowV1.panel.lines = [("Proof OK", some ⟨[4]⟩)] ∧
      (∃ origins, page.flow.Truthful sampleWorld.Verifies origins) ∧
      ∃ origins, page.flowV1.Truthful (sampleWorld.VerifiesV1 page.session) origins := by
  have anchored : Execution (Page.Step sampleWorld) (.loaded [1]) sampleAnchor
      (sampleAnchor.foldl (Page.step sampleWorld) (.loaded [1])) :=
    .next (.admitted trivial) (.next (.admitted trivial) (.next (.admitted trivial)
      (.single (.admitted trivial))))
  have pressed : Execution (Page.Step sampleWorld)
      (sampleAnchor.foldl (Page.step sampleWorld) (.loaded [1])) samplePresses
      (samplePresses.foldl (Page.step sampleWorld)
        (sampleAnchor.foldl (Page.step sampleWorld) (.loaded [1]))) := by
    refine .next (.admitted trivial) (.next (.admitted trivial) (.next (.admitted trivial)
      (.next (.admitted (.wallet 1 _ ?_)) (.next (.admitted (.verifier 1 _ ?_))
        (.next (.admitted (.wallet 0 _ ?_)) (.next (.admitted (.wallet 0 _ ?_))
          (.next (.admitted (.verifier 0 _ ?_)) (.single (.admitted (.read 0))))))))))
    · rintro request proof got ⟨⟩
      cases got
      exact ⟨rfl, rfl⟩
    · intro request proof got
      cases got
      exact sampleWorld_replies _
    · exact fun request proof got => nofun
    · rintro request proof got ⟨⟩
      rfl
    · exact fun request proof got => rfl
  exact ⟨_, by decide +kernel, by decide +kernel,
    proofPanels_truthful sampleWorld [1] (anchored.append pressed)⟩

end Web3Id.ProofExplorer
