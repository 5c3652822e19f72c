import Web3Id.Construction.WalletTool.Register
import Web3Id.Proof.Issuer.IssuedDates

namespace Web3Id.Web3IdTest

open Library
open SomeIssuer (Web3IdCredential)

/-- All keys below the index are in the registry. -/
structure Host.Below (host : Host) (entries : List CredentialHolderId) (idx : Nat) : Prop where
  bound : idx < UInt32.size
  below : ∀ other < idx, ∃ key, host.wallet.publicKey host.registry other = .ok key ∧
    (⟨key⟩ : CredentialHolderId) ∈ entries

/-- The holder has the key of this index, and the keys below it are other ones in the registry. -/
structure Host.Chosen (host : Host) (entries : List CredentialHolderId) (idx : Nat)
    (holder : CredentialHolderId) : Prop where
  bound : idx < UInt32.size
  own : host.wallet.publicKey host.registry idx = .ok holder.publicKey
  below : ∀ other < idx, ∃ key, host.wallet.publicKey host.registry other = .ok key ∧
    (⟨key⟩ : CredentialHolderId) ∈ entries ∧ key ≠ holder.publicKey

variable {host : Host} {entries more : List CredentialHolderId} {idx : Nat}
  {holder : CredentialHolderId}

theorem Host.Below.mono (below : host.Below entries idx) (grows : ∀ entry ∈ entries, entry ∈ more) :
    host.Below more idx where
  bound := below.bound
  below other less := by
    obtain ⟨key, derives, member⟩ := below.below other less
    exact ⟨key, derives, grows _ member⟩

theorem Host.Chosen.mono (chosen : host.Chosen entries idx holder)
    (grows : ∀ entry ∈ entries, entry ∈ more) : host.Chosen more idx holder where
  bound := chosen.bound
  own := chosen.own
  below other less := by
    obtain ⟨key, derives, member, different⟩ := chosen.below other less
    exact ⟨key, derives, grows _ member, different⟩

/-- A registered key takes the search to the next index. -/
theorem Host.Below.next (below : host.Below entries idx) {key : BitVec 256}
    (derives : host.wallet.publicKey host.registry idx = .ok key)
    (registered : (⟨key⟩ : CredentialHolderId) ∈ entries) (bound : idx + 1 < UInt32.size) :
    host.Below entries (idx + 1) where
  bound := bound
  below other less := by
    rcases Nat.lt_succ_iff_lt_or_eq.mp less with before | rfl
    · exact below.below other before
    · exact ⟨key, derives, registered⟩

/-- The first key that is not registered differs from all keys below it. -/
theorem Host.Below.choose (below : host.Below entries idx) {key : BitVec 256}
    (derives : host.wallet.publicKey host.registry idx = .ok key)
    (free : (⟨key⟩ : CredentialHolderId) ∉ entries) : host.Chosen entries idx ⟨key⟩ where
  bound := below.bound
  own := derives
  below other less := by
    obtain ⟨used, derives, member⟩ := below.below other less
    refine ⟨used, derives, member, ?_⟩
    rintro rfl
    exact free member

/-- The search for the key of a holder ends at its index. -/
theorem Host.Chosen.findIndex (chosen : host.Chosen entries idx holder)
    {credential : Web3IdCredential} (own : credential.holderId = holder)
    (registry : credential.registry = host.registry) (start remaining : Nat) (from' : start ≤ idx)
    (upTo : idx < start + remaining) :
    findIndex host.wallet credential start remaining = some idx := by
  induction remaining generalizing start with
  | zero => omega
  | succ remaining ih =>
      unfold Web3IdTest.findIndex
      rw [registry, own]
      rcases Nat.eq_or_lt_of_le from' with rfl | less
      · simp only [chosen.own, if_true]
      · obtain ⟨key, derives, -, different⟩ := chosen.below start less
        simp only [derives, if_neg different]
        exact ih (start + 1) less (by omega)

/-- What a command knows about its index. -/
def Stage.Sound (host : Host) (entries : List CredentialHolderId) : Stage → Prop
  | .searching idx => host.Below entries idx
  | .chosen idx key => host.Chosen entries idx ⟨key⟩
  | .submitting info => ∃ idx, host.Chosen entries idx info.holderId
  | .posting key => ∃ idx, host.Chosen entries idx ⟨key⟩
  | .accepted key _ => ∃ idx, host.Chosen entries idx ⟨key⟩
  | _ => True

theorem Stage.Sound.mono {stage : Stage} (sound : stage.Sound host entries)
    (grows : ∀ entry ∈ entries, entry ∈ more) : stage.Sound host more := by
  cases stage with
  | searching idx => exact Host.Below.mono sound grows
  | chosen idx key => exact Host.Chosen.mono sound grows
  | submitting info => exact sound.imp fun _ chosen => chosen.mono grows
  | posting key => exact sound.imp fun _ chosen => chosen.mono grows
  | accepted key txHash => exact sound.imp fun _ chosen => chosen.mono grows
  | waiting txHash => trivial
  | done => trivial
  | failed => trivial

/-- A holder belongs to somebody else, or was chosen by the search of a command. -/
def Host.Owned (host : Host) (entries : List CredentialHolderId) (holder : CredentialHolderId) :
    Prop := host.Foreign holder ∨ ∃ idx, host.Chosen entries idx holder

theorem Host.Owned.mono (owned : host.Owned entries holder)
    (grows : ∀ entry ∈ entries, entry ∈ more) : host.Owned more holder :=
  owned.imp id fun chosen => chosen.imp fun _ chosen => chosen.mono grows

/-- The file keeps what the command was asked for. -/
structure Register.Stores (register : Register) (host : Host) (holder : CredentialHolderId)
    (credential : Web3IdCredential) : Prop where
  holder : credential.holderId = holder
  registry : credential.registry = host.registry
  values : credential.values = register.attributes
  validFrom : credential.validFrom = register.validFrom
  validUntil : credential.validUntil = register.validUntil

def System.registers (self : System) : List Register :=
  self.processes.map fun process => process.register

structure System.Sound (host : Host) (system : System) : Prop where
  processes : ∀ process ∈ system.processes, process.stage.Sound host system.entries
  files : ∀ holder credential, system.files holder = some credential →
    (∃ register ∈ system.registers, register.Stores host holder credential) ∧
      ∃ idx, host.Chosen system.entries idx holder
  entries : ∀ holder ∈ system.entries, host.Owned system.entries holder
  pool : ∀ entry ∈ system.pool, host.Owned system.entries entry.2.holderId

section Steps

variable {system : System} {index : Nat} {register : Register} {stage : Stage}

theorem System.Sound.start (host : Host) : System.start.Sound host where
  processes := by simp [System.start]
  files := by simp [System.start]
  entries := by simp [System.start]
  pool := by simp [System.start]

/-- A command keeps its options. -/
theorem System.set_registers (got : system.processes[index]? = some ⟨register, stage⟩)
    (next : Stage) : (system.set index register next).registers = system.registers := by
  unfold System.registers System.set
  rw [List.map_set]
  apply List.ext_getElem?
  intro place
  rw [List.getElem?_set]
  split
  · rename_i same
    subst same
    obtain ⟨inside, known⟩ := List.getElem?_eq_some_iff.mp got
    simp [inside, known]
  · rfl

theorem System.Sound.set (sound : system.Sound host)
    (got : system.processes[index]? = some ⟨register, stage⟩) {next : Stage}
    (knows : next.Sound host system.entries) : (system.set index register next).Sound host where
  processes process member := by
    rcases List.mem_or_eq_of_mem_set member with before | rfl
    · exact sound.processes process before
    · exact knows
  files := by
    rw [System.set_registers got]
    exact sound.files
  entries := sound.entries
  pool := sound.pool

theorem System.Sound.submit (sound : system.Sound host) (txHash : TransactionHash)
    {info : CredentialInfo} (owned : host.Owned system.entries info.holderId) :
    (system.submit txHash info).Sound host where
  processes := sound.processes
  files := sound.files
  entries := sound.entries
  pool entry member := by
    rcases List.mem_append.mp member with before | now
    · exact sound.pool entry before
    · cases List.mem_singleton.mp now
      exact owned

theorem System.Sound.write (sound : system.Sound host) {credential : Web3IdCredential}
    (asked : register ∈ system.registers) (stores : register.Stores host holder credential)
    (chosen : ∃ idx, host.Chosen system.entries idx holder) :
    (system.write holder credential).Sound host where
  processes := sound.processes
  files other stored there := by
    by_cases same : other = holder
    · subst same
      cases (Function.update_self _ _ _).symm.trans there
      exact ⟨⟨register, asked, stores⟩, chosen⟩
    · exact sound.files other stored ((Function.update_of_ne same _ _).symm.trans there)
  entries := sound.entries
  pool := sound.pool

/-- A final transaction adds an entry of somebody else or of a command. -/
theorem System.Sound.finalize (sound : system.Sound host) (txHash : TransactionHash)
    {info : CredentialInfo} (owned : host.Owned system.entries info.holderId) :
    (system.finalize txHash info).Sound host := by
  have grows : ∀ entry ∈ system.entries, entry ∈ (system.finalize txHash info).entries := by
    intro entry member
    unfold System.finalize
    split
    · exact member
    · exact List.mem_append_left _ member
  exact {
    processes := fun process member => (sound.processes process member).mono grows
    files := fun holder credential stored => by
      obtain ⟨asked, chosen⟩ := sound.files holder credential stored
      exact ⟨asked, chosen.imp fun _ chosen => chosen.mono grows⟩
    entries := fun holder member => by
      have known : holder ∈ system.entries ∨ holder = info.holderId := by
        unfold System.finalize at member
        split at member
        · exact .inl member
        · exact (List.mem_append.mp member).imp id List.mem_singleton.mp
      rcases known with before | rfl
      · exact (sound.entries holder before).mono grows
      · exact owned.mono grows
    pool := fun entry member => (sound.pool entry (List.mem_of_mem_erase member)).mono grows }

/-- The search goes on, ends with a free key, or fails. -/
theorem System.Sound.searched (sound : system.Sound host)
    (got : system.processes[index]? = some ⟨register, .searching idx⟩) {reply : EntryReply}
    (honest : ∀ key, host.wallet.publicKey host.registry idx = .ok key →
      (reply = .entry → (⟨key⟩ : CredentialHolderId) ∈ system.entries) ∧
        (reply = .contractError → (⟨key⟩ : CredentialHolderId) ∉ system.entries)) :
    (system.set index register (nextStage host idx reply)).Sound host := by
  have below : host.Below system.entries idx :=
    sound.processes _ (List.mem_of_getElem? got)
  refine sound.set got ?_
  unfold nextStage
  split
  · rename_i key derives
    split
    · rename_i bound
      exact below.next derives ((honest key derives).1 rfl) bound
    · trivial
  · rename_i key derives
    exact below.choose derives ((honest key derives).2 rfl)
  · trivial

theorem Register.credInfo_holder {key : BitVec 256} {info : CredentialInfo}
    (made : register.credInfo host key = some info) : info.holderId = ⟨key⟩ := by
  obtain ⟨url, -, rfl⟩ := Option.map_eq_some_iff.mp made
  rfl

/-- A local issuer makes the secrets that the command asks for. -/
theorem Register.secrets_stores {key : BitVec 256} {issuer : KeyPair} {metadata : RegistryMetadata}
    {randomness : String → Bytes} {secrets : Web3IdCredential}
    (made : register.secrets host key issuer metadata randomness = some secrets) :
    register.Stores host ⟨key⟩ secrets := by
  obtain ⟨signature, -, rfl⟩ := Option.map_eq_some_iff.mp made
  exact ⟨rfl, rfl, rfl, rfl, rfl⟩

/-- The service registers the key of the request. -/
theorem Register.job_holder {key : BitVec 256} {info : CredentialInfo}
    (handed : host.job (register.request key) = some info) : info.holderId = ⟨key⟩ := by
  unfold Host.job at handed
  cases passes : Web3IdIssuer.credentialInfo host.service (register.request key) with
  | error error => simp [Web3IdIssuer.issueCredential, passes, Program.firstCall] at handed
  | ok made =>
      have same : made = info := by
        simpa [Web3IdIssuer.issueCredential, passes, Program.firstCall] using handed
      subst same
      have holder := (Web3IdIssuer.credentialInfo_registers passes).holder
      have key : key = made.holderId.publicKey := Option.some.inj holder
      rw [key]

/-- The service returns the secrets that the command asks for. -/
theorem Register.answer_stores (served : host.service.contract = host.registry) {key : BitVec 256}
    {randomness : String → Bytes} {txHash : TransactionHash}
    {response : Web3IdIssuer.IssueResponse}
    (answered : host.answer (register.request key) randomness txHash = .ok response) :
    register.Stores host ⟨key⟩ response.credential := by
  unfold Host.answer at answered
  cases passes : Web3IdIssuer.credentialInfo host.service (register.request key) with
  | error error => simp [Web3IdIssuer.issueCredential, passes] at answered
  | ok made =>
      have holder := (Web3IdIssuer.credentialInfo_registers passes).holder
      have same : key = made.holderId.publicKey := Option.some.inj holder
      simp only [Web3IdIssuer.issueCredential, passes, Program.answeredBy_call,
        Program.answeredBy_pure, Web3IdIssuer.makeSecrets] at answered
      split at answered
      · cases answered
      · cases answered
        exact ⟨by rw [same], served, rfl, rfl, rfl⟩

/-- The options of a command are among those of all commands. -/
theorem System.mem_registers (got : system.processes[index]? = some ⟨register, stage⟩) :
    register ∈ system.registers := List.mem_map.mpr ⟨_, List.mem_of_getElem? got, rfl⟩

/-- A local issuer writes a file for the chosen key, and the service gets a request for it. -/
theorem System.Sound.issue (sound : system.Sound host) {key : BitVec 256}
    (got : system.processes[index]? = some ⟨register, .chosen idx key⟩)
    (metadata : RegistryMetadata) (randomness : String → Bytes) :
    (system.issue host index register key metadata randomness).Sound host := by
  have chosen : ∃ idx, host.Chosen system.entries idx ⟨key⟩ :=
    ⟨idx, sound.processes _ (List.mem_of_getElem? got)⟩
  unfold System.issue
  split
  · exact sound.set got trivial
  · rename_i info _ issuer made _ _
    have holder := Register.credInfo_holder made
    split
    · exact sound.set got trivial
    · rename_i secrets signed
      rw [holder]
      refine (sound.write (System.mem_registers got) (Register.secrets_stores signed) chosen).set
        got ?_
      change ∃ idx, host.Chosen system.entries idx info.holderId
      rwa [holder]
  · exact sound.set got trivial
  · split
    · exact sound.set got chosen
    · exact sound.set got trivial

/-- Every step keeps the files, the registry, and the pool sound. -/
theorem System.Sound.step (sound : system.Sound host)
    (served : host.service.contract = host.registry) {event : Event}
    (admits : system.Admits host event) : (system.step host event).Sound host := by
  cases admits with
  | start register =>
      refine { sound with processes := ?_, files := ?_ }
      · intro process member
        rcases List.mem_append.mp member with before | now
        · exact sound.processes process before
        · cases List.mem_singleton.mp now
          exact ⟨by decide, by simp⟩
      · intro holder credential stored
        obtain ⟨⟨register, asked, stores⟩, chosen⟩ := sound.files holder credential stored
        refine ⟨⟨register, ?_, stores⟩, chosen⟩
        unfold System.registers
        rw [System.step, List.map_append]
        exact List.mem_append_left _ asked
  | entry honest =>
      simp only [System.step]
      split
      · rename_i register idx got
        exact sound.searched got fun key => honest register idx key got
      · exact sound
  | issue index metadata randomness =>
      simp only [System.step]
      split
      · rename_i got
        exact sound.issue got metadata randomness
      · exact sound
  | submit index reply =>
      simp only [System.step]
      split
      · rename_i info txHash got
        have owned : host.Owned system.entries info.holderId :=
          .inr (sound.processes _ (List.mem_of_getElem? got))
        exact (sound.submit txHash owned).set got trivial
      · rename_i info txHash got
        have owned : host.Owned system.entries info.holderId :=
          .inr (sound.processes _ (List.mem_of_getElem? got))
        exact (sound.submit txHash owned).set got trivial
      · rename_i got
        exact sound.set got trivial
      · exact sound
  | accept index txHash =>
      simp only [System.step]
      split
      · rename_i register key got
        have chosen : ∃ idx, host.Chosen system.entries idx ⟨key⟩ :=
          sound.processes _ (List.mem_of_getElem? got)
        split
        · exact sound
        · rename_i info handed
          have owned : host.Owned system.entries info.holderId := by
            rw [Register.job_holder handed]
            exact .inr chosen
          exact (sound.submit txHash owned).set got chosen
      · exact sound
  | response index randomness =>
      simp only [System.step]
      split
      · rename_i register key txHash got
        have chosen : ∃ idx, host.Chosen system.entries idx ⟨key⟩ :=
          sound.processes _ (List.mem_of_getElem? got)
        split
        · exact sound.set got trivial
        · rename_i response answered
          have stores := Register.answer_stores served answered
          exact (sound.write (System.mem_registers got) stores chosen).set got trivial
      · exact sound
  | wait index =>
      simp only [System.step]
      split
      · rename_i got
        exact sound.set got trivial
      · exact sound
  | error index =>
      simp only [System.step]
      split
      · rename_i got
        exact sound.set got trivial
      · exact sound
  | foreign txHash foreign => exact sound.submit txHash (.inl foreign)
  | finalize txHash =>
      simp only [System.step]
      split
      · exact sound
      · rename_i found
        exact sound.finalize txHash (sound.pool _ (List.mem_of_find?_eq_some found))

end Steps

/-- In every run of any number of commands at a time, each key of the wallet that is in the registry
was the first free one; and for each stored credential, which has the attributes and the dates that
a command was asked for, the search of the proof command ends with the index of its key. -/
theorem web3idTest_storedCredentials (host : Host)
    (served : host.service.contract = host.registry) {events : List Event} {system : System}
    (run : Execution (System.Step host) .start events system) :
    (∀ holder ∈ system.entries, host.Owned system.entries holder) ∧
      ∀ holder credential, system.files holder = some credential →
        (∃ register ∈ system.registers, register.Stores host holder credential) ∧
        ∃ idx, host.Chosen system.entries idx holder ∧
          provingKey host.wallet credential =
            some (idx, host.wallet.signingKey host.registry idx) := by
  have sound : system.Sound host := by
    refine run.invariant ?_ (System.Sound.start host)
    rintro first event _ before ⟨admits⟩
    exact before.step served admits
  refine ⟨sound.entries, fun holder credential stored => ?_⟩
  obtain ⟨⟨register, asked, stores⟩, idx, chosen⟩ := sound.files holder credential stored
  refine ⟨⟨register, asked, stores⟩, idx, chosen, ?_⟩
  have found := chosen.findIndex stores.holder stores.registry 0 UInt32.size (Nat.zero_le _)
    (by have := chosen.bound; omega)
  simp only [provingKey, found, Option.map_some, stores.registry]

/-- The sample wallet derives keys for all indices of its format. -/
def sampleHost : Host where
  wallet :=
    { publicKey _ idx := if idx < 2147483648 then .ok (.ofNat 256 idx) else .error "index"
      signingKey _ idx := if idx < 2147483648 then .ok [] else .error "index" }
  registry := Web3IdIssuer.sampleState.contract
  cryptoParams := []
  newMetadataUrl url := some ⟨url, none⟩
  sdk := Web3IdIssuer.sampleSdk
  service := Web3IdIssuer.sampleState

/-- The sample command asks the service. -/
def sampleRegister : Register :=
  ⟨[("degree", .string "BSc")], none, none, true, "https://issuer.example/metadata", true,
    ⟨1000000000⟩, none⟩

/-- The sample issuer signs and registers itself. -/
def sampleLocal : Register :=
  { sampleRegister with issuer := some ⟨1⟩, issuerKey := some ⟨[], 2⟩ }

def sampleFirst : List Event :=
  [.start sampleLocal, .entry 0 .contractError, .issue 0 ⟨"Degree", "schema"⟩ fun _ => [3],
    .submit 0 (.accepted ⟨8⟩), .finalize ⟨8⟩]

/-- The second command finds the key of the first one in the registry. -/
def sampleSecond : List Event :=
  [.start sampleRegister, .entry 1 .entry, .entry 1 .contractError,
    .issue 1 ⟨"Degree", "schema"⟩ (fun _ => [3]), .accept 1 ⟨9⟩, .response 1 fun _ => [4]]

def sampleStored : System := (sampleFirst ++ sampleSecond).foldl (System.step sampleHost) .start

theorem sampleStored_run : Execution (System.Step sampleHost) .start (sampleFirst ++ sampleSecond)
    sampleStored := by
  have first : Execution (System.Step sampleHost) .start sampleFirst
      (sampleFirst.foldl (System.step sampleHost) .start) := by
    refine .next (.admitted (.start _)) (.next (.admitted (.entry ?_)) (.next
      (.admitted (.issue _ _ _)) (.next (.admitted (.submit _ _)) (.single
        (.admitted (.finalize _))))))
    intro register idx key _ _
    exact ⟨fun wrong => (by cases wrong), fun _ member => by cases member⟩
  refine first.append (.next (.admitted (.start _)) (.next (.admitted (.entry ?_)) (.next
    (.admitted (.entry ?_)) (.next (.admitted (.issue _ _ _)) (.next (.admitted (.accept _ _))
      (.single (.admitted (.response _ _))))))))
  · intro register idx key got derives
    cases got
    cases derives
    exact ⟨fun _ => List.mem_singleton.mpr rfl, fun wrong => by cases wrong⟩
  · intro register idx key got derives
    cases got
    cases derives
    exact ⟨fun wrong => (by cases wrong), fun _ => by decide⟩

/-- The second sample command has stored a credential that can be proved with its key. -/
theorem web3idTest_storedCredentials_sample :
    ∃ credential, sampleStored.files ⟨1⟩ = some credential ∧
      credential.values = [("degree", .string "BSc")] ∧
      ∃ idx, sampleHost.Chosen sampleStored.entries idx ⟨1⟩ ∧
        provingKey sampleHost.wallet credential =
          some (idx, sampleHost.wallet.signingKey sampleHost.registry idx) :=
  ⟨_, rfl, rfl, ((web3idTest_storedCredentials sampleHost rfl sampleStored_run).2 _ _ rfl).2⟩

end Web3Id.Web3IdTest
