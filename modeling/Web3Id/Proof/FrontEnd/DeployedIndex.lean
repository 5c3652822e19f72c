import Web3Id.Library.PressHistory
import Web3Id.Proof.FrontEnd.DeploySession

namespace Web3Id.DeployCredentialContract

open Library

namespace Session

/-- An index that is shown with a hash was initialized by its transaction. -/
def Matches (session : Session) : Prop :=
  ∀ hash index, session.page.txHash = some hash → session.page.smartContractIndex = some index →
    (hash, .contractInitialized index) ∈ session.chain

/-- The press with this number has a finalized transaction. -/
def Finalized (session : Session) (press : Nat) : Prop :=
  ∃ outcome, (⟨press⟩, outcome) ∈ session.chain

/-- The transaction of the latest press is finalized or failed to be sent. -/
def Settled (session : Session) : Prop :=
  ∃ latest, session.presses = latest + 1 ∧ (session.Finalized latest ∨ latest ∈ session.failed)

/-- After the event the index matches the hash, and the page has not stopped waiting too early. -/
def Agrees (session : Session) (event : Event) : Prop :=
  (session.step event).Matches ∧
    (session.page.waitingForTransactionToFinialize = true →
      (session.step event).page.waitingForTransactionToFinialize = false →
        (session.step event).Settled)

/-- The event comes for the latest press, or after the transaction of that press was finalized. -/
def Timely (session : Session) (press : Nat) : Prop :=
  session.presses = press + 1 ∨ session.Finalized (session.presses - 1)

/-- A hash arrives while no index is shown. While the page waits, a failure and the status of a
finalized transaction are timely. The index of a contract arrives for the hash that is shown, if
there is one. -/
def Current (session : Session) : Event → Prop
  | .walletReply index (.ok _) =>
      session.submissions[index]?.isSome → session.page.smartContractIndex = none
  | .walletReply index (.error _) =>
      ∀ press, session.submissions[index]? = some press →
        session.page.waitingForTransactionToFinialize = true → session.Timely press
  | .statusReply index =>
      ∀ query outcome, session.queries[index]? = some query →
        query.reply = some (.ok (some (.finalized outcome))) →
          (session.page.waitingForTransactionToFinialize = true →
            session.Timely query.hash.press) ∧
          ((∃ contract, outcome = .contractInitialized contract) →
            ∀ hash, session.page.txHash = some hash → hash = query.hash)
  | _ => True

theorem loaded_matches : loaded.Matches := by
  intro hash index shown
  cases shown

section

variable {session : Session}

theorem Matches.kept (matched : session.Matches) {after : Session}
    (hash : after.page.txHash = session.page.txHash)
    (index : after.page.smartContractIndex = session.page.smartContractIndex)
    (grows : session.chain ⊆ after.chain) : after.Matches := by
  intro shown contract appears initialized
  rw [hash] at appears
  rw [index] at initialized
  exact grows (matched shown contract appears initialized)

/-- An event that leaves the page alone. -/
theorem Matches.agrees (matched : session.Matches) {event : Event}
    (page : (session.step event).page = session.page)
    (grows : session.chain ⊆ (session.step event).chain) : session.Agrees event := by
  refine ⟨matched.kept (by rw [page]) (by rw [page]) grows, fun waits stopped => ?_⟩
  rw [page, waits] at stopped
  cases stopped

theorem Matches.same (matched : session.Matches) {event : Event}
    (same : session.step event = session) : session.Agrees event :=
  matched.agrees (congrArg page same) (by rw [same]; exact List.Subset.refl _)

theorem timely_iff {press latest : Nat} (presses : session.presses = latest + 1) :
    session.Timely press ↔ press = latest ∨ session.Finalized latest := by
  rw [Timely, presses, Nat.add_sub_cancel, Nat.add_right_cancel_iff, eq_comm]

/-- The page waits for a press that has not failed. -/
theorem Sound.settled_iff (sound : session.Sound)
    (waits : session.page.waitingForTransactionToFinialize = true) {hash : TransactionHash}
    {outcome : Outcome} (final : (hash, outcome) ∈ session.chain) :
    session.Settled ↔ session.Timely hash.press := by
  obtain ⟨latest, presses, unfailed⟩ := sound.waiting waits
  rw [timely_iff presses]
  constructor
  · rintro ⟨other, last, finalized | failed⟩
    · obtain rfl := Nat.add_right_cancel (presses.symm.trans last)
      exact .inr finalized
    · obtain rfl := Nat.add_right_cancel (presses.symm.trans last)
      exact absurd failed unfailed
  · rintro (rfl | finalized)
    · exact ⟨hash.press, presses, .inl ⟨outcome, final⟩⟩
    · exact ⟨latest, presses, .inl finalized⟩

/-- A press clears the hash, and what is refused has failed. -/
theorem Matches.press (matched : session.Matches) (form : DeployContractForm) :
    session.Agrees (.press form) := by
  rcases session.press_cases form with same | ⟨message, refused⟩ | sent
  · exact matched.same same
  · rw [Agrees, Session.step, refused]
    refine ⟨fun hash index shown => (by cases shown), fun _ _ => ?_⟩
    exact ⟨session.presses, rfl, .inr (List.mem_append_right _ (List.mem_singleton_self _))⟩
  · rw [Agrees, Session.step, sent]
    exact ⟨fun hash index shown => (by cases shown), fun _ stopped => (by cases stopped)⟩

/-- The index that is shown is of a press that the wallet has answered. -/
theorem Sound.hash_agrees (sound : session.Sound) (matched : session.Matches) (index : Nat) :
    session.Agrees (.walletReply index (.ok ())) ↔
      session.Current (.walletReply index (.ok ())) := by
  cases waiting : session.submissions[index]? with
  | none =>
      have same := walletReply_unknown waiting (.ok ())
      exact iff_of_true (matched.same same) (by simp [Current, waiting])
  | some press =>
      rw [Agrees, Session.step, walletReply_ok waiting,
        and_iff_left fun waits stopped => by simp [waits] at stopped]
      simp only [Current, waiting, Option.isSome_some, forall_const]
      constructor
      · intro belongs
        by_contra appears
        obtain ⟨contract, shown⟩ := Option.ne_none_iff_exists'.mp appears
        obtain ⟨hash, known, initialized⟩ := sound.initialized contract shown
        have pending : ⟨press⟩ = hash :=
          sound.indices _ hash contract (belongs ⟨press⟩ contract rfl shown) initialized
        rw [← pending] at known
        exact known.2 (List.mem_of_getElem? waiting)
      · intro hidden hash contract _ shown
        rw [hidden] at shown
        cases shown

/-- A failure ends the wait of the latest press. -/
theorem Sound.failure_agrees (sound : session.Sound) (matched : session.Matches) (index : Nat)
    (message : String) :
    session.Agrees (.walletReply index (.error message)) ↔
      session.Current (.walletReply index (.error message)) := by
  cases waiting : session.submissions[index]? with
  | none =>
      have same := walletReply_unknown waiting (.error message)
      exact iff_of_true (matched.same same) (by simp [Current, waiting])
  | some press =>
      have kept : (session.walletReply index (.error message)).Matches := by
        rw [walletReply_error waiting]
        exact matched.kept rfl rfl (List.Subset.refl _)
      rw [Agrees, Session.step, and_iff_right kept, walletReply_error waiting]
      simp only [Current, waiting, Option.some.injEq, forall_eq']
      refine imp_congr_right fun waits => ?_
      obtain ⟨latest, presses, unfailed⟩ := sound.waiting waits
      rw [timely_iff presses]
      constructor
      · intro settles
        obtain ⟨other, last, settled⟩ := settles rfl
        obtain rfl := Nat.add_right_cancel (presses.symm.trans last)
        rcases settled with finalized | failed
        · exact .inr finalized
        · rcases List.mem_append.mp failed with before | now
          · exact absurd before unfailed
          · exact .inl (List.mem_singleton.mp now).symm
      · rintro (rfl | finalized) _
        · exact ⟨press, presses, .inr (List.mem_append_right _ (List.mem_singleton_self _))⟩
        · exact ⟨latest, presses, .inl finalized⟩

/-- A report that is not of a finalized transaction changes an error at most. -/
theorem Matches.unfinished (matched : session.Matches) {index : Nat}
    (unfinished : ∀ query outcome, session.queries[index]? = some query →
      query.reply ≠ some (.ok (some (.finalized outcome)))) :
    session.Agrees (.statusReply index) := by
  rcases session.statusReply_cases index with same | ⟨query, reply, asked, answered, replied⟩
  · exact matched.same same
  · obtain ⟨hash, shown, waits⟩ : (session.page.refreshed reply).txHash = session.page.txHash ∧
        (session.page.refreshed reply).smartContractIndex = session.page.smartContractIndex ∧
        (session.page.refreshed reply).waitingForTransactionToFinialize =
          session.page.waitingForTransactionToFinialize := by
      rcases reply with failure | _ | _ | _ | outcome
      case ok.some.finalized => exact absurd answered (unfinished query outcome asked)
      all_goals exact ⟨rfl, rfl, rfl⟩
    rw [Agrees, Session.step, replied]
    refine ⟨matched.kept hash shown (List.Subset.refl _), fun waiting stopped => ?_⟩
    rw [waits, waiting] at stopped
    cases stopped

/-- A report of a finalized transaction, which comes from the chain. -/
theorem Sound.report_agrees (sound : session.Sound) (matched : session.Matches) (index : Nat) :
    session.Agrees (.statusReply index) ↔ session.Current (.statusReply index) := by
  by_cases unfinished : ∀ query outcome, session.queries[index]? = some query →
      query.reply ≠ some (.ok (some (.finalized outcome)))
  · refine iff_of_true (matched.unfinished unfinished) fun query outcome asked finalized => ?_
    exact absurd finalized (unfinished query outcome asked)
  · push Not at unfinished
    obtain ⟨query, outcome, asked, answered⟩ := unfinished
    have final : (query.hash, outcome) ∈ session.chain :=
      sound.reported query (List.mem_of_getElem? asked) outcome answered
    have stepped := statusReply_answered asked answered
    have belongs : (session.statusReply index).Matches ↔
        ((∃ contract, outcome = .contractInitialized contract) →
          ∀ hash, session.page.txHash = some hash → hash = query.hash) := by
      rw [stepped]
      cases outcome with
      | other =>
          refine iff_of_true (matched.kept rfl rfl (List.Subset.refl _)) ?_
          rintro ⟨contract, ⟨⟩⟩
      | contractInitialized contract =>
          constructor
          · intro belongs _ hash shown
            exact sound.indices hash query.hash contract (belongs hash contract shown rfl) final
          · rintro same hash _ shown ⟨rfl⟩
            rw [same ⟨contract, rfl⟩ hash shown]
            exact final
    have settles : (session.page.waitingForTransactionToFinialize = true →
          (session.statusReply index).page.waitingForTransactionToFinialize = false →
            (session.statusReply index).Settled) ↔
        (session.page.waitingForTransactionToFinialize = true →
          session.Timely query.hash.press) := by
      refine imp_congr_right fun waits => ?_
      rw [← sound.settled_iff waits final, stepped]
      cases outcome <;> exact ⟨fun settled => settled rfl, fun settled _ => settled⟩
    rw [Agrees, Session.step, belongs, settles, and_comm]
    constructor
    · rintro ⟨timely, same⟩ other result found finalized
      obtain rfl := Option.some.inj (asked.symm.trans found)
      cases answered.symm.trans finalized
      exact ⟨timely, same⟩
    · intro current
      exact current query outcome asked answered

/-- Exactly the current events agree. -/
theorem Sound.agrees_iff (sound : session.Sound) (matched : session.Matches) (event : Event) :
    session.Agrees event ↔ session.Current event := by
  cases event with
  | press form => exact iff_of_true (matched.press form) trivial
  | walletReply index sent =>
      cases sent with
      | ok _ => exact sound.hash_agrees matched index
      | error message => exact sound.failure_agrees matched index message
  | effect client => exact iff_of_true (matched.agrees rfl (List.Subset.refl _)) trivial
  | tick =>
      refine iff_of_true ?_ trivial
      cases polled : session.interval with
      | none => exact matched.same (by simp [Session.step, Session.tick, polled])
      | some hash => refine matched.agrees ?_ ?_ <;> simp [Session.step, Session.tick, polled]
  | finalize hash outcome =>
      refine iff_of_true ?_ trivial
      by_cases fresh : session.Fresh hash outcome
      · refine matched.agrees ?_ ?_ <;> simp [Session.step, Session.finalize, fresh]
      · exact matched.same (by simp [Session.step, Session.finalize, fresh])
  | answer index view => exact iff_of_true (matched.agrees rfl (List.Subset.refl _)) trivial
  | statusReply index => exact sound.report_agrees matched index

end

/-- At every moment of a run a shown index belongs to the shown hash and no wait ends before the
latest press is settled, exactly when every event of the run is current. -/
theorem deployedIndex_agrees (events : List Event) :
    PressHistory.Each step Agrees loaded events ↔ PressHistory.Each step Current loaded events := by
  have means (session : Session) (event : Event) (kept : session.Sound ∧ session.Matches) :
      session.Agrees event ↔ session.Current event := kept.1.agrees_iff kept.2 event
  have keeps (session : Session) (event : Event) (kept : session.Sound ∧ session.Matches)
      (current : session.Current event) :
      (session.step event).Sound ∧ (session.step event).Matches :=
    ⟨kept.1.step event, ((means session event kept).mpr current).1⟩
  exact PressHistory.each_congr keeps means ⟨loaded_sound, loaded_matches⟩ events

def sampleForm : DeployContractForm :=
  ⟨"d75a980182b10ab7d54bfed3c964073a0ee172f3daa62325af021a68f707511a",
    "https://issuer.example/metadata.json", "https://issuer.example/schema.json",
    "myCredentialType"⟩

/-- The answer for the first contract arrives after the button was pressed again. -/
def lateReport : List Event :=
  [.press sampleForm, .walletReply 0 (.ok ()), .effect true, .tick,
    .finalize ⟨0⟩ (.contractInitialized 5), .answer 0 .latest, .press sampleForm, .effect true,
    .statusReply 0, .walletReply 0 (.ok ())]

/-- The page stops waiting at the late report, and then shows the index of the first contract with
the hash of the second transaction. -/
theorem deployedIndex_misleads :
    ¬PressHistory.Each step Agrees loaded lateReport ∧
      (PressHistory.after step loaded lateReport).page = ⟨"", "", false, some 5, some ⟨1⟩, ""⟩ ∧
      (PressHistory.after step loaded lateReport).chain = [(⟨0⟩, .contractInitialized 5)] := by
  have page : (PressHistory.after step loaded lateReport).page =
      ⟨"", "", false, some 5, some ⟨1⟩, ""⟩ := by decide +kernel
  have chain : (PressHistory.after step loaded lateReport).chain =
      [(⟨0⟩, .contractInitialized 5)] := by decide +kernel
  refine ⟨?_, page, chain⟩
  rintro ⟨-, -, -, -, -, -, -, -, -, ⟨belongs, -⟩, -⟩
  have mixed : (⟨1⟩, .contractInitialized 5) ∈ (PressHistory.after step loaded lateReport).chain :=
    belongs ⟨1⟩ 5 (congrArg Page.txHash page) (congrArg Page.smartContractIndex page)
  rw [chain] at mixed
  cases List.mem_singleton.mp mixed

end Session

end Web3Id.DeployCredentialContract
