import Mathlib.Data.List.Nodup
import Web3Id.Construction.FrontEnd.DeployContract

namespace Web3Id.DeployCredentialContract

namespace Page

variable {page : Page} {reply : Except String (Option BlockItemStatus)}

/-- A status changes neither the hash nor, unless it is of a contract, the index. -/
theorem refreshed_txHash : (page.refreshed reply).txHash = page.txHash := by
  rcases reply with message | _ | _ | _ | ⟨_ | _⟩ <;> rfl

theorem refreshed_index {index : Nat}
    (shown : (page.refreshed reply).smartContractIndex = some index) :
    page.smartContractIndex = some index ∨
      reply = .ok (some (.finalized (.contractInitialized index))) := by
  rcases reply with message | _ | _ | _ | ⟨_ | _⟩
  case ok.some.finalized.contractInitialized contract =>
    cases shown
    exact .inr rfl
  all_goals exact .inl shown

/-- Only a finalized status ends the wait. -/
theorem waits_of_refreshed
    (waits : (page.refreshed reply).waitingForTransactionToFinialize = true) :
    page.waitingForTransactionToFinialize = true := by
  rcases reply with message | _ | _ | _ | ⟨_ | _⟩
  case ok.some.finalized.contractInitialized contract => cases waits
  case ok.some.finalized.other => cases waits
  all_goals exact waits

end Page

namespace Session

/-- The page has seen the hash in a reply of the wallet. -/
def Knows (session : Session) (hash : TransactionHash) : Prop :=
  hash.press < session.presses ∧ hash.press ∉ session.submissions

theorem Knows.pressed {session : Session} {hash : TransactionHash} (known : session.Knows hash) :
    hash.press < session.presses + 1 ∧ hash.press ∉ session.submissions ++ [session.presses] := by
  refine ⟨Nat.lt_succ_of_lt known.1, fun held => ?_⟩
  rcases List.mem_append.mp held with before | last
  · exact known.2 before
  · exact Nat.ne_of_lt known.1 (List.mem_singleton.mp last)

/-- What every session keeps. -/
structure Sound (session : Session) : Prop where
  distinct : session.submissions.Nodup
  submitted : ∀ press ∈ session.submissions, press < session.presses
  failed : ∀ press ∈ session.failed, press < session.presses
  indices : ∀ one other index, (one, .contractInitialized index) ∈ session.chain →
    (other, .contractInitialized index) ∈ session.chain → one = other
  shown : ∀ hash, session.page.txHash = some hash → session.Knows hash
  polled : ∀ hash, session.interval = some hash → session.Knows hash
  asked : ∀ query ∈ session.queries, session.Knows query.hash
  reported : ∀ query ∈ session.queries, ∀ outcome,
    query.reply = some (.ok (some (.finalized outcome))) → (query.hash, outcome) ∈ session.chain
  initialized : ∀ index, session.page.smartContractIndex = some index →
    ∃ hash, session.Knows hash ∧ (hash, .contractInitialized index) ∈ session.chain
  waiting : session.page.waitingForTransactionToFinialize = true →
    ∃ latest, session.presses = latest + 1 ∧ latest ∉ session.failed

theorem loaded_sound : loaded.Sound := by
  constructor <;> simp [loaded, Page.loaded]

section

variable {session : Session}

/-- A press is incomplete, fails before the wallet is asked, or waits for the wallet. -/
theorem press_cases (session : Session) (form : DeployContractForm) :
    session.press form = session ∨
      (∃ message, session.press form = { session with
        page := session.page.submitted.failed message
        presses := session.presses + 1
        failed := session.failed ++ [session.presses] }) ∨
      session.press form = { session with
        page := session.page.submitted
        presses := session.presses + 1
        submissions := session.submissions ++ [session.presses] } := by
  rw [Session.press]
  split
  · exact .inl rfl
  · split
    · exact .inr (.inl ⟨_, rfl⟩)
    · exact .inr (.inr rfl)

theorem walletReply_unknown {index : Nat} (unknown : session.submissions[index]? = none)
    (sent : Except String Unit) : session.walletReply index sent = session := by
  simp [Session.walletReply, unknown]

theorem walletReply_ok {index press : Nat} (waiting : session.submissions[index]? = some press) :
    session.walletReply index (.ok ()) = { session with
      page := { session.page with txHash := some ⟨press⟩ }
      submissions := session.submissions.eraseIdx index } := by
  simp [Session.walletReply, waiting]

theorem walletReply_error {index press : Nat} (waiting : session.submissions[index]? = some press)
    (message : String) :
    session.walletReply index (.error message) = { session with
      page := session.page.failed message
      submissions := session.submissions.eraseIdx index
      failed := session.failed ++ [press] } := by
  simp [Session.walletReply, waiting]

theorem statusReply_answered {index : Nat} {query : Query}
    {reply : Except String (Option BlockItemStatus)}
    (asked : session.queries[index]? = some query) (answered : query.reply = some reply) :
    session.statusReply index = { session with
      page := session.page.refreshed reply
      queries := session.queries.eraseIdx index } := by
  simp [Session.statusReply, asked, answered]

/-- A reply that a node has not given yet changes nothing. -/
theorem statusReply_cases (session : Session) (index : Nat) :
    session.statusReply index = session ∨
      ∃ query reply, session.queries[index]? = some query ∧ query.reply = some reply ∧
        session.statusReply index = { session with
          page := session.page.refreshed reply
          queries := session.queries.eraseIdx index } := by
  cases asked : session.queries[index]? with
  | none => exact .inl (by simp [Session.statusReply, asked])
  | some query =>
      cases answered : query.reply with
      | none => exact .inl (by simp [Session.statusReply, asked, answered])
      | some reply =>
          exact .inr ⟨query, reply, rfl, answered, statusReply_answered asked answered⟩

/-- A submission of the list is for its press alone. -/
theorem Sound.erased (sound : session.Sound) {index press : Nat}
    (waiting : session.submissions[index]? = some press) :
    (session.submissions.eraseIdx index).Nodup ∧
      ∀ other, other ∈ session.submissions.eraseIdx index →
        other ∈ session.submissions ∧ other ≠ press := by
  obtain ⟨inside, rfl⟩ := List.getElem?_eq_some_iff.mp waiting
  rw [← List.Nodup.erase_getElem sound.distinct index inside]
  refine ⟨List.Nodup.erase _ sound.distinct, fun other held => ?_⟩
  exact ((List.Nodup.mem_erase_iff sound.distinct).mp held).symm

/-- A transaction that failed before the wallet was asked. -/
theorem Sound.refused (sound : session.Sound) (message : String) :
    Sound { session with
      page := session.page.submitted.failed message
      presses := session.presses + 1
      failed := session.failed ++ [session.presses] } where
  distinct := sound.distinct
  submitted press held := Nat.lt_succ_of_lt (sound.submitted press held)
  failed press held := by
    rcases List.mem_append.mp held with before | last
    · exact Nat.lt_succ_of_lt (sound.failed press before)
    · rw [List.mem_singleton.mp last]
      exact Nat.lt_succ_self _
  indices := sound.indices
  shown hash shown := by cases shown
  polled hash polled := (sound.polled hash polled).imp_left Nat.lt_succ_of_lt
  asked query held := (sound.asked query held).imp_left Nat.lt_succ_of_lt
  reported := sound.reported
  initialized index shown := by cases shown
  waiting waits := by cases waits

/-- A press that the wallet has to answer. -/
theorem Sound.sent (sound : session.Sound) :
    Sound { session with
      page := session.page.submitted
      presses := session.presses + 1
      submissions := session.submissions ++ [session.presses] } where
  distinct := by
    refine List.nodup_append.mpr ⟨sound.distinct, List.nodup_singleton _, ?_⟩
    rintro press held _ last rfl
    rw [List.mem_singleton.mp last] at held
    exact Nat.lt_irrefl _ (sound.submitted _ held)
  submitted press held := by
    rcases List.mem_append.mp held with before | last
    · exact Nat.lt_succ_of_lt (sound.submitted press before)
    · rw [List.mem_singleton.mp last]
      exact Nat.lt_succ_self _
  failed press held := Nat.lt_succ_of_lt (sound.failed press held)
  indices := sound.indices
  shown hash shown := by cases shown
  polled hash polled := (sound.polled hash polled).pressed
  asked query held := (sound.asked query held).pressed
  reported := sound.reported
  initialized index shown := by cases shown
  waiting _ := ⟨session.presses, rfl, fun held => Nat.lt_irrefl _ (sound.failed _ held)⟩

theorem Sound.press (sound : session.Sound) (form : DeployContractForm) :
    (session.press form).Sound := by
  rcases session.press_cases form with same | ⟨message, refused⟩ | sent
  · rw [same]
    exact sound
  · rw [refused]
    exact sound.refused message
  · rw [sent]
    exact sound.sent

/-- The page learns more hashes when the wallet answers. -/
theorem Sound.withdrawn (sound : session.Sound) {index press : Nat}
    (waiting : session.submissions[index]? = some press) :
    Sound { session with submissions := session.submissions.eraseIdx index } := by
  obtain ⟨distinct, fewer⟩ := sound.erased waiting
  have knows {hash : TransactionHash} (known : session.Knows hash) :
      hash.press < session.presses ∧ hash.press ∉ session.submissions.eraseIdx index :=
    known.imp_right fun unanswered held => unanswered (fewer _ held).1
  exact {
    sound with
    distinct
    submitted := fun other held => sound.submitted other (fewer other held).1
    shown := fun hash shown => knows (sound.shown hash shown)
    polled := fun hash polled => knows (sound.polled hash polled)
    asked := fun query held => knows (sound.asked query held)
    initialized := fun index shown =>
      (sound.initialized index shown).imp fun _ => And.imp_left knows }

theorem Sound.walletReply (sound : session.Sound) (index : Nat) (sent : Except String Unit) :
    (session.walletReply index sent).Sound := by
  cases waiting : session.submissions[index]? with
  | none =>
      rw [walletReply_unknown waiting]
      exact sound
  | some press =>
      have below : press < session.presses := sound.submitted press (List.mem_of_getElem? waiting)
      have withdrawn := sound.withdrawn waiting
      cases sent with
      | ok _ =>
          rw [walletReply_ok waiting]
          refine { withdrawn with shown := ?_ }
          rintro _ ⟨rfl⟩
          exact ⟨below, fun held => ((sound.erased waiting).2 press held).2 rfl⟩
      | error message =>
          rw [walletReply_error waiting]
          refine { withdrawn with failed := fun other held => ?_, waiting := fun waits => ?_ }
          · rcases List.mem_append.mp held with before | last
            · exact sound.failed other before
            · rw [List.mem_singleton.mp last]
              exact below
          · cases waits

/-- The interval polls the hash that was shown at the render. -/
theorem Sound.effect (sound : session.Sound) (client : Bool) :
    Sound { session with interval := if client then session.page.txHash else none } := by
  refine { sound with polled := fun hash polled => ?_ }
  cases client with
  | false => cases polled
  | true => exact sound.shown hash polled

theorem Sound.tick (sound : session.Sound) : session.tick.Sound := by
  rw [Session.tick]
  split
  · exact sound
  · rename_i hash polled
    refine { sound with asked := fun query held => ?_, reported := fun query held => ?_ }
    · rcases List.mem_append.mp held with before | last
      · exact sound.asked query before
      · rw [List.mem_singleton.mp last]
        exact sound.polled hash polled
    · rcases List.mem_append.mp held with before | last
      · exact sound.reported query before
      · rw [List.mem_singleton.mp last]
        rintro outcome ⟨⟩

/-- A contract that is initialized has an index of its own. -/
theorem Sound.finalize (sound : session.Sound) (hash : TransactionHash) (outcome : Outcome) :
    (session.finalize hash outcome).Sound := by
  rw [Session.finalize]
  split
  · rename_i fresh
    have grows {entry : TransactionHash × Outcome} (held : entry ∈ session.chain) :
        entry ∈ session.chain ++ [(hash, outcome)] := List.mem_append_left _ held
    have unused {one : TransactionHash} {index : Nat}
        (held : (one, .contractInitialized index) ∈ session.chain) :
        outcome ≠ .contractInitialized index := by
      rintro rfl
      cases (fresh.2.2 _ held).2 rfl
    refine { sound with
      indices := fun one two index first second => ?_
      reported := fun query held outcome finalized =>
        grows (sound.reported query held outcome finalized)
      initialized := fun index shown =>
        (sound.initialized index shown).imp fun _ => And.imp_right grows }
    rcases List.mem_append.mp first with old | new <;>
      rcases List.mem_append.mp second with earlier | later
    · exact sound.indices one two index old earlier
    · cases List.mem_singleton.mp later
      cases unused old rfl
    · cases List.mem_singleton.mp new
      cases unused earlier rfl
    · cases List.mem_singleton.mp new
      cases List.mem_singleton.mp later
      rfl
  · exact sound

/-- A finalized status comes from the chain. -/
theorem getBlockItemStatus_finalized {chain : List (TransactionHash × Outcome)}
    {hash : TransactionHash} {view : View} {outcome : Outcome}
    (finalized : getBlockItemStatus chain hash view = .ok (some (.finalized outcome))) :
    (hash, outcome) ∈ chain := by
  cases view with
  | latest =>
      rw [getBlockItemStatus] at finalized
      split at finalized
      · cases finalized
      · rename_i found
        cases finalized
        obtain ⟨before, after, rfl, _⟩ := List.lookup_eq_some_iff.mp found
        simp
  | _ => cases finalized

theorem Sound.answer (sound : session.Sound) (index : Nat) (view : View) :
    (session.answer index view).Sound := by
  have answered (query : Query) (held : query ∈ (session.answer index view).queries) :
      ∃ old ∈ session.queries, query = old ∨
        query = ⟨old.hash, some (getBlockItemStatus session.chain old.hash view)⟩ := by
    obtain ⟨place, found⟩ := List.mem_iff_getElem?.mp held
    rw [Session.answer, List.getElem?_modify] at found
    obtain ⟨old, before, rfl⟩ := Option.map_eq_some_iff.mp found
    refine ⟨old, List.mem_of_getElem? before, ?_⟩
    split
    · exact .inr rfl
    · exact .inl rfl
  refine { sound with asked := fun query held => ?_, reported := fun query held => ?_ }
  · obtain ⟨old, before, rfl | rfl⟩ := answered query held
    · exact sound.asked query before
    · exact sound.asked old before
  · obtain ⟨old, before, rfl | rfl⟩ := answered query held
    · exact sound.reported query before
    · intro outcome finalized
      exact getBlockItemStatus_finalized (Option.some.inj finalized)

theorem Sound.statusReply (sound : session.Sound) (index : Nat) :
    (session.statusReply index).Sound := by
  rcases session.statusReply_cases index with same | ⟨query, reply, asked, answered, replied⟩
  · rw [same]
    exact sound
  · have held : query ∈ session.queries := List.mem_of_getElem? asked
    rw [replied]
    refine { sound with
      shown := fun hash shown => sound.shown hash (by rwa [Page.refreshed_txHash] at shown)
      asked := fun other kept => sound.asked other (List.mem_of_mem_eraseIdx kept)
      reported := fun other kept => sound.reported other (List.mem_of_mem_eraseIdx kept)
      initialized := fun index shown => ?_
      waiting := fun waits => sound.waiting (Page.waits_of_refreshed waits) }
    rcases Page.refreshed_index shown with before | rfl
    · exact sound.initialized index before
    · exact ⟨query.hash, sound.asked query held, sound.reported query held _ answered⟩

theorem Sound.step (sound : session.Sound) (event : Event) : (session.step event).Sound := by
  cases event with
  | press form => exact sound.press form
  | walletReply index sent => exact sound.walletReply index sent
  | effect client => exact sound.effect client
  | tick => exact sound.tick
  | finalize hash outcome => exact sound.finalize hash outcome
  | answer index view => exact sound.answer index view
  | statusReply index => exact sound.statusReply index

end

end Session

end Web3Id.DeployCredentialContract
