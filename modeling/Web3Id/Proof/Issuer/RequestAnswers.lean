import Mathlib.Tactic.Common
import Web3Id.Construction.Issuer.ResponseChannel
import Web3Id.Proof.Issuer.SomeIssuerLoop

namespace Web3Id.SomeIssuer

open Library

/-- Every way through the body sends the answer of the turn, and sends it last. -/
theorem txSenderBody_eq (sdk : Sdk) (self : IssuerWorker) (reading : Reading)
    (data : IssueChannelData) :
    self.txSenderBody sdk reading data =
      (self.txSender sdk reading data).hoist WorkerCall.register (fun _ reply => reply) >>=
        fun turn => sendAndLog turn.2.1 >>= fun _ => .pure (turn.1, turn.2.2) := by
  cases valid : self.validateCredential reading.now data.credential with
  | error error =>
      simp only [IssuerWorker.txSenderBody, IssuerWorker.txSender, valid]
      rfl
  | ok =>
      cases room : self.state.limit.checkLimit data.userId with
      | false =>
          simp only [IssuerWorker.txSenderBody, IssuerWorker.txSender, valid,
            IssuerWorker.registerCredential, room]
          rfl
      | true =>
          rw [txSender_submits valid room]
          simp only [IssuerWorker.txSenderBody, valid, IssuerWorker.registerCredential, room,
            Bool.not_true, Bool.false_eq_true, if_false, Program.hoist_call, Program.call_bind]
          congr 1
          funext reply
          cases reply with
          | ok txHash =>
              simp only [IssuerWorker.resume, IssuerWorker.respond, Program.hoist_pure,
                Program.pure_bind]
              cases secrets : (self.registered data.userId).makeSecrets sdk reading.randomness
                (attributes data.userId data.username) data.credential with
              | ok credential => rfl
              | error error => rfl
          | error failure =>
              cases failure with
              | invalidParams message => rfl
              | nodeRejected reason => rfl
              | rpcError refusal =>
                  cases refusal with
                  | parseError message => rfl
                  | callError status =>
                      simp only [IssuerWorker.resume, rejection, Program.hoist_pure,
                        Program.pure_bind]
                      by_cases refused : status.code = .invalidArgument
                      · simp only [if_pos refused]
                        rfl
                      · simp only [if_neg refused]
                        rfl

/-- A served request either gets a refusal without a transaction, or exchanges one transaction and
gets the answer that its reply decides. -/
theorem TxSender.Turn.observed {sdk : Sdk} {first second : TxSender} {reading : Reading}
    {data : IssueChannelData} (turn : TxSender.Turn sdk first (reading, data) second) :
    ∃ served, second.served = served :: first.served ∧ served.data = data ∧
      ((∃ status, served.seen = ⟨[], [.error status]⟩ ∧ served.continues = true) ∨
        first.worker.validateCredential reading.now data.credential = .ok () ∧
        ∃ reply, served.seen =
          ⟨[(⟨first.worker.metadata reading.seconds, data.credential, []⟩, reply)],
            [(first.worker.resume sdk reading data reply).2.1]⟩ ∧
          served.continues = (first.worker.resume sdk reading data reply).2.2) := by
  cases turn with
  | @dequeued _ _ seen worker continues running serves =>
      refine ⟨_, rfl, rfl, ?_⟩
      rw [txSenderBody_eq] at serves
      have form := txSender_turn sdk first.worker reading data
      generalize first.worker.txSender sdk reading data = program at form serves
      cases form with
      | invalid | limited =>
          obtain ⟨_, _, answer, rest⟩ := serves.of_call
          cases answer
          obtain ⟨same, equal⟩ := rest.of_pure
          cases equal
          exact .inl ⟨_, same.symm, rfl⟩
      | submitted valid room =>
          obtain ⟨reply, _, registered, rest⟩ := serves.of_call
          cases registered
          obtain ⟨_, _, answer, last⟩ := rest.of_call
          cases answer
          obtain ⟨same, equal⟩ := last.of_pure
          cases equal
          exact .inr ⟨valid, reply, same.symm, rfl⟩

/-- A valid request below the limit is registered before it is answered. -/
theorem TxSender.turn_submits {sdk : Sdk} (sender : TxSender) (reading : Reading)
    (data : IssueChannelData) (reply : RegisterReply) (running : sender.running = true)
    (valid : sender.worker.validateCredential reading.now data.credential = .ok ())
    (room : sender.worker.state.limit.checkLimit data.userId = true) :
    TxSender.Turn sdk sender (reading, data)
      ⟨(sender.worker.resume sdk reading data reply).1,
        (sender.worker.resume sdk reading data reply).2.2,
        ⟨data, ⟨[(⟨sender.worker.metadata reading.seconds, data.credential, []⟩, reply)],
          [(sender.worker.resume sdk reading data reply).2.1]⟩,
          (sender.worker.resume sdk reading data reply).2.2⟩ :: sender.served⟩ := by
  refine .dequeued running ?_
  rw [txSenderBody_eq, txSender_submits valid room]
  exact .call (.register _ _ _) (.call (.send _ _ true) (.pure _ _))

/-- The first and the last millisecond that chrono represents. -/
def chronoMinMillis : Int := -8334601228800000
def chronoMaxMillis : Int := 8210266876799999

/-- The SDK signs whenever values and randomness have the same keys, and chrono converts the
timestamps in its range. -/
structure Sdk.Documented (sdk : Sdk) : Prop where
  signs : ∀ params values randomness holderId issuerKey contract,
    values.map Prod.fst = randomness.map Prod.fst →
      ∃ signature, sdk.fromSecrets params values randomness holderId issuerKey contract =
        some signature
  converts : ∀ millis, sdk.timestampMillisOpt millis =
    if chronoMinMillis ≤ millis.toInt ∧ millis.toInt ≤ chronoMaxMillis then
      some ⟨millis.toInt * 1000000⟩
    else none

/-- A credential agrees with its registration and its request. -/
structure Web3IdCredential.Agrees (credential : Web3IdCredential) (data : IssueChannelData)
    (registered : CredentialInfo) : Prop where
  holder : credential.holderId = registered.holderId
  start : credential.validFrom.nanos = registered.validFrom.millis.toNat * 1000000
  endless : credential.validUntil = none ∧ registered.validUntil = none
  values : credential.values = [("userId", .string data.userId), ("username", .string data.username)]
  keys : credential.randomness.map Prod.fst = credential.values.map Prod.fst

/-- A valid credential starts within a minute of the clock and has no expiry. -/
theorem validateCredential_start {self : IssuerWorker} {now : Int64} {credential : CredentialInfo}
    (valid : self.validateCredential now credential = .ok ()) (after : 0 ≤ now) :
    (credential.validFrom.millis.toNat : Int) < now.toInt + 60000 ∧
      credential.validUntil = none := by
  simp only [IssuerWorker.validateCredential] at valid
  split at valid
  · cases valid
  split at valid
  · cases valid
  split at valid
  · cases valid
  rename_i near expiry
  refine ⟨?_, by simpa using expiry⟩
  have millis : (now.toUInt64.toNat : Int) = now.toInt := by
    rw [Int64.toNat_toUInt64_of_le after, Int64.cast_toNatClampNeg now after]
  simp only [Timestamp.durationBetween, Duration.fromMinutes, ge_iff_le, Bool.not_eq_true,
    Bool.not_eq_false', decide_eq_true_eq] at near
  split at near
  · rename_i before
    rw [UInt64.le_iff_toNat_le] at before
    omega
  · rename_i later
    rw [UInt64.not_le] at later
    rw [UInt64.lt_iff_toNat_lt, UInt64.toNat_sub_of_le _ _ (UInt64.le_of_lt later)] at near
    have minute : (1 * 60 * 1000 : UInt64).toNat = 60000 := rfl
    omega

/-- chrono converts a start that is not after its last millisecond. -/
theorem Sdk.Documented.converts_start {sdk : Sdk} (documented : sdk.Documented) {start : UInt64}
    (within : (start.toNat : Int) ≤ chronoMaxMillis) :
    sdk.timestampMillisOpt start.toInt64 = some ⟨start.toNat * 1000000⟩ := by
  have equal : start.toInt64.toInt = (start.toNat : Int) := by
    have bound : start.toNat < 2 ^ 63 := by
      unfold chronoMaxMillis at within
      omega
    exact BitVec.toInt_eq_toNat_of_lt (show 2 * start.toNat < 2 ^ 64 by omega)
  have lower : chronoMinMillis ≤ start.toInt64.toInt := by
    unfold chronoMinMillis
    omega
  rw [documented.converts, if_pos ⟨lower, equal ▸ within⟩, equal]

/-- The secrets of a registered credential are always made. -/
theorem Sdk.Documented.makeSecrets_ok {sdk : Sdk} (documented : sdk.Documented)
    (self : IssuerWorker) (randomness : String → Bytes) (data : IssueChannelData)
    (within : (data.credential.validFrom.millis.toNat : Int) ≤ chronoMaxMillis)
    (endless : data.credential.validUntil = none) :
    ∃ credential, self.makeSecrets sdk randomness (attributes data.userId data.username)
        data.credential = .ok credential ∧ credential.Agrees data data.credential := by
  obtain ⟨signature, signed⟩ := documented.signs self.cryptoParams
    (attributes data.userId data.username)
    ((attributes data.userId data.username).map fun value => (value.1, randomness value.1))
    data.credential.holderId self.issuerKey self.contract rfl
  simp only [IssuerWorker.makeSecrets, signed, documented.converts_start within]
  exact ⟨_, rfl, rfl, rfl, ⟨rfl, endless⟩, rfl, rfl⟩

/-- A request gets one message. It is a credential exactly when the node accepted the transaction of
the request, it agrees with that registration, and it never ends the worker. -/
structure Served.AnsweredOnce (served : Served) : Prop where
  once : ∃ message, served.seen.messages = [message]
  accepted : (∃ response, .ok response ∈ served.seen.messages) ↔
    ∃ call txHash, (call, .ok txHash) ∈ served.seen.registrations ∧
      call.credential = served.data.credential
  agrees : ∀ response, .ok response ∈ served.seen.messages →
    ∃ call, (call, .ok response.txHash) ∈ served.seen.registrations ∧
      call.credential = served.data.credential ∧
      response.credential.Agrees served.data call.credential
  continues : ∀ call txHash, (call, .ok txHash) ∈ served.seen.registrations →
    served.continues = true

/-- Every turn answers its request once. -/
theorem TxSender.Turn.answeredOnce {sdk : Sdk} (documented : sdk.Documented)
    {first second : TxSender} {reading : Reading} {data : IssueChannelData}
    (turn : TxSender.Turn sdk first (reading, data) second) (after : 0 ≤ reading.now)
    (before : reading.now.toInt + 60000 ≤ chronoMaxMillis) :
    ∃ served, second.served = served :: first.served ∧ served.data = data ∧
      served.AnsweredOnce := by
  obtain ⟨served, grown, same, ⟨status, seen, goes⟩ | ⟨valid, reply, seen, goes⟩⟩ := turn.observed
  · refine ⟨served, grown, same, ?_⟩
    constructor <;> simp [seen]
  · refine ⟨served, grown, same, ?_⟩
    obtain ⟨start, endless⟩ := validateCredential_start valid after
    cases reply with
    | error error => constructor <;> simp [seen, IssuerWorker.resume]
    | ok txHash =>
        obtain ⟨credential, made, agrees⟩ := documented.makeSecrets_ok
          (first.worker.registered data.userId) reading.randomness data (by omega) endless
        have resumed : first.worker.resume sdk reading data (.ok txHash) =
            (first.worker.registered data.userId, .ok ⟨txHash, credential⟩, true) := by
          simp only [IssuerWorker.resume, IssuerWorker.respond, made]
        rw [resumed] at seen goes
        constructor
        · exact ⟨_, by rw [seen]⟩
        · simp [seen, same]
        · intro response member
          rw [seen, List.mem_singleton] at member
          cases member
          refine ⟨_, by rw [seen]; exact List.mem_singleton_self _, ?_, ?_⟩
          · rw [same]
          · rw [same]
            exact agrees
        · exact fun _ _ _ => goes

/-- Every run answers its requests once, in their order. -/
theorem TxSender.run_answeredOnce {sdk : Sdk} (documented : sdk.Documented)
    {inputs : List (Reading × IssueChannelData)} {first last : TxSender}
    (run : Execution (TxSender.Turn sdk) first inputs last)
    (clock : ∀ input ∈ inputs, 0 ≤ input.1.now ∧
      input.1.now.toInt + 60000 ≤ chronoMaxMillis) :
    ∃ served, last.served = served ++ first.served ∧
      served.map Served.data = (inputs.map Prod.snd).reverse ∧
      ∀ one ∈ served, one.AnsweredOnce := by
  induction run with
  | done state => exact ⟨[], rfl, rfl, by simp⟩
  | @next first second last input inputs head tail ih =>
      obtain ⟨⟨after, before⟩, others⟩ := List.forall_mem_cons.mp clock
      obtain ⟨one, grown, same, answered⟩ := head.answeredOnce documented after before
      obtain ⟨served, more, order, all⟩ := ih others
      refine ⟨served ++ [one], by rw [more, grown]; simp, by simp [order, same], ?_⟩
      intro each member
      rcases List.mem_append.mp member with older | newer
      · exact all each older
      · rw [List.mem_singleton.mp newer]
        exact answered

/-- Every dequeued request gets exactly one answer, and a credential exactly when it was registered,
while the clock is after 1970 and a minute before the end of the range of chrono. -/
theorem someIssuer_answersOnce (sdk : Sdk) (documented : sdk.Documented) (worker : IssuerWorker)
    (inputs : List (Reading × IssueChannelData)) (sender : TxSender)
    (run : Execution (TxSender.Turn sdk) (.start worker) inputs sender)
    (clock : ∀ input ∈ inputs, 0 ≤ input.1.now ∧
      input.1.now.toInt + 60000 ≤ chronoMaxMillis) :
    sender.served.map Served.data = (inputs.map Prod.snd).reverse ∧
      ∀ served ∈ sender.served, served.AnsweredOnce := by
  obtain ⟨served, grown, order, all⟩ := TxSender.run_answeredOnce documented run clock
  have equal : sender.served = served := by simpa [TxSender.start] using grown
  rw [equal]
  exact ⟨order, all⟩

/-- This SDK signs matching commitments and converts the timestamps in the range of chrono. -/
def chronoSdk : Sdk where
  fromSecrets := sampleSdk.fromSecrets
  timestampMillisOpt millis :=
    if chronoMinMillis ≤ millis.toInt ∧ millis.toInt ≤ chronoMaxMillis then
      some ⟨millis.toInt * 1000000⟩
    else none

theorem chronoSdk_documented : chronoSdk.Documented where
  signs _ _ _ _ _ _ same := ⟨[1], if_pos same⟩
  converts _ := rfl

theorem someIssuer_answersOnce_sample : ∃ sender : TxSender,
    sender.served.map Served.data = [sampleData] ∧ ∀ served ∈ sender.served, served.AnsweredOnce :=
  ⟨_, someIssuer_answersOnce chronoSdk chronoSdk_documented sampleWorker
    [(sampleReading, sampleData)] _
    (.single (TxSender.turn_submits (.start sampleWorker) sampleReading sampleData (.ok ⟨9⟩) rfl rfl
      (by decide)))
    (by simp [sampleReading, chronoMaxMillis])⟩

/-- The clock shows the last millisecond of chrono, and the credential starts one later. -/
def lateReading : Reading := { sampleReading with now := 8210266876799999 }

def lateData : IssueChannelData :=
  { sampleData with credential := { sampleData.credential with validFrom := ⟨8210266876800000⟩ } }

/-- The late request is registered, but its answer is an error, and the loop ends. -/
def lateServed : Served where
  data := lateData
  seen :=
    { registrations := [(⟨sampleWorker.metadata 1, lateData.credential, []⟩, .ok ⟨9⟩)]
      messages := [.error .internalServerError] }
  continues := false

theorem someIssuer_refusesLate :
    chronoSdk.Documented ∧ 0 ≤ lateReading.now ∧ lateReading.now.toInt ≤ chronoMaxMillis ∧
      TxSender.Turn chronoSdk (.start sampleWorker) (lateReading, lateData)
        ⟨sampleWorker.registered "42", false, [lateServed]⟩ ∧ ¬ lateServed.AnsweredOnce := by
  refine ⟨chronoSdk_documented, by decide, by decide, ?_, ?_⟩
  · exact TxSender.turn_submits (.start sampleWorker) lateReading lateData (.ok ⟨9⟩) rfl rfl
      (by decide)
  · intro answered
    have continues := answered.continues _ _ (List.mem_singleton_self _)
    cases continues

end Web3Id.SomeIssuer
