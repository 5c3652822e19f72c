import Web3Id.Proof.Issuer.WalletCredentials

namespace Web3Id.SomeIssuer.Telegram

open Library Library.Gateway

/-- At most one request waits, for the transaction that is shown as submitted, and a transaction
that is shown as finalized is final. -/
structure Browser.Toast (browser : Browser) : Prop where
  awaited : ∀ (place : Nat) (attempt : Attempt), browser.app.attempts[place]? = some attempt →
    ∀ txHash, attempt.stage.awaits = some txHash →
      browser.app.txState = ⟨some txHash, some .submitted⟩
  single : ∀ (first second : Nat) (one two : Attempt) (txHash other : TransactionHash),
    browser.app.attempts[first]? = some one → browser.app.attempts[second]? = some two →
      one.stage.awaits = some txHash → two.stage.awaits = some other → first = second
  finalized : browser.app.txState.transactionStatus = some .finalized →
    ∃ txHash ∈ browser.final, browser.app.txState.transaction = some txHash

variable {host : Host} {browser : Browser}

theorem Browser.Toast.start (worker : IssuerWorker) : (Browser.start worker).Toast where
  awaited := by simp [Browser.start, App.loaded]
  single := by simp [Browser.start, App.loaded]
  finalized := by simp [Browser.start, App.loaded]

/-- Requests that wait for nothing new keep the toast. -/
theorem Browser.Toast.mono {after : Browser} (toast : browser.Toast)
    (before : ∀ (place : Nat) (attempt : Attempt) (txHash : TransactionHash),
      after.app.attempts[place]? = some attempt → attempt.stage.awaits = some txHash →
      ∃ past : Attempt, browser.app.attempts[place]? = some past ∧
        past.stage.awaits = some txHash)
    (txState : after.app.txState = browser.app.txState)
    (final : ∀ txHash ∈ browser.final, txHash ∈ after.final) : after.Toast where
  awaited place attempt there txHash waits := by
    obtain ⟨past, there, waits⟩ := before place attempt txHash there waits
    rw [txState]
    exact toast.awaited place past there txHash waits
  single first second one two txHash other atFirst atSecond waits others := by
    obtain ⟨past, atFirst, waits⟩ := before first one txHash atFirst waits
    obtain ⟨more, atSecond, others⟩ := before second two other atSecond others
    exact toast.single first second past more txHash other atFirst atSecond waits others
  finalized shows := by
    rw [txState] at shows ⊢
    obtain ⟨txHash, member, same⟩ := toast.finalized shows
    exact ⟨txHash, final txHash member, same⟩

/-- A request that goes on waits for what it has waited for. -/
theorem getElem?_set_awaits {attempts : List Attempt} {index place : Nat}
    {old new attempt : Attempt} {txHash : TransactionHash} (got : attempts[index]? = some old)
    (awaits : new.stage.awaits = none ∨ new.stage.awaits = old.stage.awaits)
    (there : (attempts.set index new)[place]? = some attempt)
    (waits : attempt.stage.awaits = some txHash) :
    ∃ past : Attempt, attempts[place]? = some past ∧ past.stage.awaits = some txHash := by
  rcases getElem?_set_some there with ⟨rfl, rfl⟩ | ⟨-, same⟩
  · rcases awaits with nothing | same
    · rw [nothing] at waits
      cases waits
    · exact ⟨old, got, same ▸ waits⟩
  · exact ⟨attempt, same, waits⟩

/-- When no other request waits, the transaction of a request is shown alone. -/
theorem Browser.add_toast {index : Nat} {request : PlatformRequest} {credential : Credential}
    {post : Post} {response : IssueResponse}
    (single : ∀ attempt ∈ browser.app.attempts, attempt.stage.awaits = none) :
    ((browser.add post credential response).set index
      ⟨request, credential, .waiting post response⟩).Toast := by
  have only : ∀ (place : Nat) (attempt : Attempt) (txHash : TransactionHash),
      (browser.app.attempts.set index
        ⟨request, credential, .waiting post response⟩)[place]? = some attempt →
      attempt.stage.awaits = some txHash → place = index ∧ response.txHash = txHash := by
    intro place attempt txHash there waits
    rcases getElem?_set_some there with ⟨rfl, rfl⟩ | ⟨-, before⟩
    · exact ⟨rfl, Option.some.inj waits⟩
    · rw [single attempt (List.mem_of_getElem? before)] at waits
      cases waits
  exact {
    awaited := by
      intro place attempt there txHash waits
      obtain ⟨-, rfl⟩ := only place attempt txHash there waits
      rfl
    single := by
      intro first second one two txHash other atFirst atSecond waits others
      rw [(only first one txHash atFirst waits).1, (only second two other atSecond others).1]
    finalized := by
      rintro ⟨⟩ }

/-- When the only request that waits is finalized, its transaction is the shown one. -/
theorem Browser.Toast.finality (toast : browser.Toast) {index : Nat} {request : PlatformRequest}
    {credential : Credential} {post : Post} {response : IssueResponse}
    (got : browser.app.attempts[index]? = some ⟨request, credential, .waiting post response⟩)
    (final : response.txHash ∈ browser.final) :
    (Browser.set { browser with
        app := { browser.app with txState := browser.app.txState.onTransactionFinalized } }
      index ⟨request, credential, .finalized post response⟩).Toast := by
  have none : ∀ (place : Nat) (attempt : Attempt) (txHash : TransactionHash),
      (browser.app.attempts.set index
        ⟨request, credential, .finalized post response⟩)[place]? = some attempt →
      attempt.stage.awaits ≠ some txHash := by
    intro place attempt txHash there waits
    rcases getElem?_set_some there with ⟨rfl, rfl⟩ | ⟨different, before⟩
    · cases waits
    · exact different (toast.single place index attempt _ txHash _ before got waits rfl)
  exact {
    awaited := fun place attempt there txHash waits =>
      absurd waits (none place attempt txHash there)
    single := fun first second one two txHash other atFirst _ waits _ =>
      absurd waits (none first one txHash atFirst)
    finalized := by
      intro shows
      refine ⟨response.txHash, final, ?_⟩
      change browser.app.txState.transaction = _
      rw [toast.awaited index _ got response.txHash rfl] }

theorem Browser.Toast.step (toast : browser.Toast) {event : BrowserEvent}
    (admits : browser.Admits True event) : (browser.step host event).Toast := by
  have moves := Browser.step_moves host admits
  generalize browser.step host event = after at moves
  cases moves with
  | idle => exact toast
  | alert message => exact { toast with }
  | login date request =>
      refine toast.mono ?_ rfl fun _ => id
      intro place attempt txHash there waits
      rw [List.getElem?_append] at there
      split at there
      · exact ⟨attempt, there, waits⟩
      · cases List.mem_singleton.mp (List.mem_of_getElem? there)
        cases waits
  | fail got message =>
      refine toast.mono ?_ rfl fun _ => id
      intro place attempt txHash there waits
      exact getElem?_set_awaits got (.inl rfl) there waits
  | goOn got post pending awaits =>
      refine toast.mono ?_ rfl fun _ => id
      intro place attempt txHash there waits
      exact getElem?_set_awaits got (.inr awaits) there waits
  | post got unused unhanded =>
      refine toast.mono ?_ rfl fun _ => id
      intro place attempt txHash there waits
      exact getElem?_set_awaits got (.inl rfl) there waits
  | prove got answered =>
      refine toast.mono ?_ rfl fun _ => id
      intro place attempt txHash there waits
      exact getElem?_set_awaits got (.inl rfl) there waits
  | add got single => exact Browser.add_toast (single trivial)
  | finality got final => exact toast.finality got final
  | serve same other => exact { toast with }
  | finalize txHash =>
      refine toast.mono (fun _ attempt _ there waits => ⟨attempt, there, waits⟩) rfl ?_
      exact fun _ => List.mem_append_left _

/-- The toast shows the transaction of a credential in the wallet: as submitted while its request
waits, and as finalized only when it is final. -/
structure Browser.TellsTruth (host : Host) (reads : Nat → Reading → Prop) (browser : Browser) :
    Prop where
  shown : ∀ txHash, browser.app.txState.transaction = some txHash →
    ∃ entry ∈ browser.wallet, ∃ user holder call,
      host.Backs reads browser.service entry user holder call txHash
  submitted : ∀ attempt ∈ browser.app.attempts, ∀ txHash, attempt.stage.awaits = some txHash →
    browser.app.txState = ⟨some txHash, some .submitted⟩
  finalized : browser.app.txState.transactionStatus = some .finalized →
    ∃ txHash ∈ browser.final, browser.app.txState.transaction = some txHash

/-- In every run of the page in which a transaction is shown only when no other one is waited for,
the toast tells the truth about the transactions of the wallet. -/
theorem statusToast_truthful (host : Host) {events : List BrowserEvent} {browser : Browser}
    (run : Execution (Browser.Step host True) (.start host.worker) events browser) :
    browser.TellsTruth host (host.Takes True events) := by
  have sound := Browser.Sound.run run
  have toast : browser.Toast := by
    refine run.invariant ?_ (Browser.Toast.start host.worker)
    rintro first event _ before ⟨admits⟩
    exact before.step admits
  refine ⟨sound.shown, ?_, toast.finalized⟩
  intro attempt member txHash waits
  obtain ⟨place, there⟩ := List.mem_iff_getElem?.mp member
  exact toast.awaited place attempt there txHash waits

/-- The sample transaction becomes final, and the page gets to know it. -/
def sampleFinal : Browser :=
  (sampleVisit.step sampleHost (.finalize ⟨9⟩)).step sampleHost (.finality 0 .finalized)

/-- The toast of the sample visit tells the truth about a finalized transaction. -/
theorem statusToast_truthful_sample :
    sampleFinal.app.txState = ⟨some ⟨9⟩, some .finalized⟩ ∧
      sampleFinal.TellsTruth sampleHost (sampleHost.Takes True
        (sampleEvents ++ [.finalize ⟨9⟩, .finality 0 .finalized])) := by
  refine ⟨rfl, statusToast_truthful sampleHost (sampleVisit_run.append
    (.next (.admitted (.finalize ⟨9⟩)) (.single (.admitted (.finality ?_)))))⟩
  intro attempt txHash there waits _
  cases there
  cases waits
  exact List.mem_singleton.mpr rfl

end Web3Id.SomeIssuer.Telegram
