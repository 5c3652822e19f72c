import Mathlib.Tactic.Common
import Web3Id.Construction.ProofExplorer.WalletConnection
import Web3Id.Library.PressHistory

namespace Web3Id.ProofExplorer

open Library

/-- The session is live, and no later one is. -/
structure MostRecent (sessions : List WalletSession) (index : Nat) (session : WalletSession) :
    Prop where
  opened : sessions[index]? = some session
  live : session.live = true
  last : ∀ later other, index < later → sessions[later]? = some other → other.live = false

namespace Connection

/-- The fields of the provider are those of the session. -/
structure Belongs (connection : Connection) (topic : Topic) (session : WalletSession) : Prop where
  held : connection.provider.topic = some topic
  recent : MostRecent connection.sessions topic.index session
  chain : connection.provider.chainID = session.chain
  account : getAccount session.namespaces = .ok connection.provider.connectedAccount

def Unset (connection : Connection) : Prop :=
  connection.provider.topic = none ∧ connection.provider.connectedAccount = none

/-- The fields belong to the most recent session, or there is none. -/
def Consistent (connection : Connection) : Prop :=
  connection.Unset ∨ ∃ topic session, connection.Belongs topic session

/-- A connect call failed, or the event is about another session. -/
def Elsewhere (connection : Connection) (topic : Topic) : ConnectionEvent → Prop
  | .connected _ (.approved _) => False
  | .connected _ _ => True
  | .sessionUpdate other _ => other ≠ topic
  | .sessionDelete other => other ≠ topic
  | .disconnected index _ => ∀ other, connection.disconnecting[index]? = some other → other ≠ topic
  | _ => False

/-- The request goes to a live session, with its chain. -/
def Reaches (connection : Connection) (request : ClientRequest) : Prop :=
  ∃ session, connection.sessions[request.topic.index]? = some session ∧ session.live = true ∧
    request.chainId = session.chain

/-- The fields are consistent after the event, what happens elsewhere leaves them alone, and a
request reaches a live session. -/
def Agrees (connection : Connection) (event : ConnectionEvent) : Prop :=
  (connection.step event).Consistent ∧
    (∀ topic, connection.provider.topic = some topic → connection.Elsewhere topic event →
      (connection.step event).provider = connection.provider) ∧
    ∀ request, connection.sends event = some request → connection.Reaches request

/-- A connect call changes the chain only without a session. A new session has an account and the
chain of the last call, or none of its fields are set. An update has an account when it is about the
session of the fields, and the same account otherwise. Only this session is deleted. -/
def Undisturbed (connection : Connection) : ConnectionEvent → Prop
  | .connect useOldWalletConnectConstants =>
      connection.provider.topic = none ∨
        (connection.provider.connect useOldWalletConnectConstants).chainID =
          connection.provider.chainID
  | .connected index (.approved namespaces) =>
      ∀ chain, connection.connecting[index]? = some chain →
        match getAccount namespaces with
        | .ok _ => chain = connection.provider.chainID
        | .error _ => connection.provider.topic = none
  | .sessionUpdate topic namespaces =>
      match getAccount namespaces with
      | .ok account =>
          connection.provider.topic = some topic ∨ account = connection.provider.connectedAccount
      | .error _ => connection.provider.topic ≠ some topic
  | .sessionDelete topic =>
      connection.provider.topic = none ∨ connection.provider.topic = some topic
  | .disconnected index true =>
      ∀ topic, connection.disconnecting[index]? = some topic →
        connection.provider.topic = none ∨ connection.provider.topic = some topic
  | _ => True

theorem loaded_consistent (opened : List WalletSession) : (loaded opened).Consistent :=
  .inl ⟨rfl, rfl⟩

end Connection

namespace MostRecent

variable {sessions : List WalletSession} {index : Nat} {session : WalletSession}

/-- A new session is the most recent one, and the only one that is. -/
theorem snoc (sessions : List WalletSession) (live : session.live = true) :
    MostRecent (sessions ++ [session]) sessions.length session where
  opened := by simp
  live := live
  last later other after found := by
    have bound := (List.getElem?_eq_some_iff.mp found).1
    simp only [List.length_append, List.length_singleton] at bound
    omega

theorem eq_length {fresh : WalletSession} (live : fresh.live = true)
    (recent : MostRecent (sessions ++ [fresh]) index session) :
    index = sessions.length ∧ session = fresh := by
  have bound := (List.getElem?_eq_some_iff.mp recent.opened).1
  simp only [List.length_append, List.length_singleton] at bound
  have place : index = sessions.length := by
    by_contra different
    have ended := recent.last sessions.length fresh (by omega) (by simp)
    rw [live] at ended
    cases ended
  have opened := recent.opened
  rw [place] at opened
  simp only [List.getElem?_concat_length, Option.some.injEq] at opened
  exact ⟨place, opened.symm⟩

/-- New namespaces of a session keep the most recent one. -/
theorem rename (recent : MostRecent sessions index session) (place : Nat)
    (namespaces : Namespaces) :
    MostRecent
      (sessions.modify place fun session => { session with namespaces := namespaces }) index
      (if place = index then { session with namespaces := namespaces } else session) where
  opened := by
    rw [List.getElem?_modify, recent.opened]
    split <;> rfl
  live := by
    split <;> exact recent.live
  last later other after found := by
    rw [List.getElem?_modify] at found
    obtain ⟨old, present, changed⟩ := Option.map_eq_some_iff.mp found
    have ended := recent.last later old after present
    rw [← changed]
    split <;> exact ended

end MostRecent

/-- An update changes the account only. -/
@[simp] theorem WalletConnectProvider.onSessionUpdate_topic (self : WalletConnectProvider)
    (namespaces : Namespaces) : (self.onSessionUpdate namespaces).topic = self.topic := by
  unfold onSessionUpdate
  split <;> rfl

theorem WalletConnectProvider.onSessionUpdate_eq {self : WalletConnectProvider}
    {namespaces : Namespaces}
    (same : (self.onSessionUpdate namespaces).connectedAccount = self.connectedAccount) :
    self.onSessionUpdate namespaces = self := by
  unfold onSessionUpdate at same ⊢
  split
  · rfl
  · rename_i account found
    rw [found] at same
    obtain ⟨topic, chainID, connectedAccount⟩ := self
    cases same
    rfl

namespace Connection

variable {connection : Connection}

/-- A request takes both of its values from the provider. -/
theorem sends_fields {event : ConnectionEvent} {request : ClientRequest}
    (sent : connection.sends event = some request) :
    connection.provider.topic = some request.topic ∧
      request.chainId = connection.provider.chainID := by
  have made : ∃ method, (connection.provider.request method).toOption = some request := by
    cases event with
    | requestVerifiablePresentation => exact ⟨_, sent⟩
    | requestVerifiablePresentationV1 => exact ⟨_, sent⟩
    | _ => cases sent
  obtain ⟨method, made⟩ := made
  unfold WalletConnectProvider.request at made
  split at made
  · cases made
  · rename_i topic held
    split at made
    · cases made
    · split at made
      · cases made
      · cases made
        exact ⟨held, rfl⟩

/-- A consistent provider sends its requests to a live session. -/
theorem Consistent.reaches (consistent : connection.Consistent) {event : ConnectionEvent}
    {request : ClientRequest} (sent : connection.sends event = some request) :
    connection.Reaches request := by
  obtain ⟨held, chain⟩ := sends_fields sent
  rcases consistent with unset | ⟨topic, session, belongs⟩
  · rw [unset.1] at held
    cases held
  · have same : topic = request.topic := Option.some.inj (belongs.held.symm.trans held)
    rw [same] at belongs
    exact ⟨session, belongs.recent.opened, belongs.recent.live, chain.trans belongs.chain⟩

/-- Without a topic there is no account either. -/
theorem Consistent.unset (consistent : connection.Consistent)
    (missing : connection.provider.topic = none) : connection.Unset := by
  rcases consistent with unset | ⟨topic, session, belongs⟩
  · exact unset
  · rw [belongs.held] at missing
    cases missing

theorem Consistent.belongs (consistent : connection.Consistent) {topic : Topic}
    (held : connection.provider.topic = some topic) :
    ∃ session, connection.Belongs topic session := by
  rcases consistent with unset | ⟨other, session, belongs⟩
  · rw [unset.1] at held
    cases held
  · have same : other = topic := Option.some.inj (belongs.held.symm.trans held)
    exact ⟨session, same ▸ belongs⟩

/-- A connect call is consistent when it keeps the chain of the session. -/
theorem Consistent.connect_iff (consistent : connection.Consistent) (old : Bool) :
    (connection.step (.connect old)).Consistent ↔ connection.Undisturbed (.connect old) := by
  constructor
  · rintro (unset | ⟨topic, session, belongs⟩)
    · exact .inl unset.1
    · obtain ⟨present, before⟩ := consistent.belongs belongs.held
      have same : session = present :=
        Option.some.inj (belongs.recent.opened.symm.trans before.recent.opened)
      exact .inr (belongs.chain.trans (same ▸ before.chain.symm))
  · rintro (missing | same)
    · exact .inl (consistent.unset missing)
    · rcases consistent with unset | ⟨topic, session, belongs⟩
      · exact .inl unset
      · exact .inr ⟨topic, session, belongs.held, belongs.recent, same.trans belongs.chain,
          belongs.account⟩

/-- An approved session is consistent with the chain of the last call. -/
theorem Consistent.connected_iff (consistent : connection.Consistent) (index : Nat)
    (namespaces : Namespaces) :
    (connection.step (.connected index (.approved namespaces))).Consistent ↔
      connection.Undisturbed (.connected index (.approved namespaces)) := by
  cases waiting : connection.connecting[index]? with
  | none => simp [step, Undisturbed, waiting, consistent]
  | some chain =>
      cases account : getAccount namespaces with
      | error _ =>
          simp only [step, Undisturbed, waiting, WalletConnectProvider.approved, account,
            Option.some.injEq, forall_eq']
          constructor
          · rintro (unset | ⟨topic, session, belongs⟩)
            · exact unset.1
            · obtain ⟨place, same⟩ := MostRecent.eq_length rfl belongs.recent
              have opened := belongs.account
              rw [same, account] at opened
              cases opened
          · exact fun missing => .inl (consistent.unset missing)
      | ok found =>
          simp only [step, Undisturbed, waiting, WalletConnectProvider.approved, account,
            Option.some.injEq, forall_eq']
          constructor
          · rintro (unset | ⟨topic, session, belongs⟩)
            · cases unset.1
            · obtain ⟨place, same⟩ := MostRecent.eq_length rfl belongs.recent
              rw [belongs.chain, same]
          · rintro rfl
            exact .inr ⟨_, _, rfl, .snoc _ rfl, rfl, account⟩

/-- An update about another session, with the same account, is consistent. -/
theorem Consistent.updated_elsewhere (consistent : connection.Consistent) {topic : Topic}
    (other : connection.provider.topic ≠ some topic) (namespaces : Namespaces)
    (same : connection.provider.onSessionUpdate namespaces = connection.provider) :
    (connection.step (.sessionUpdate topic namespaces)).Consistent := by
  rcases consistent with unset | ⟨held, session, belongs⟩
  · refine .inl ?_
    rw [Unset]
    simp only [step, same]
    exact unset
  · have apart : topic.index ≠ held.index := by
      intro equal
      obtain ⟨place⟩ := topic
      obtain ⟨index⟩ := held
      cases equal
      exact other belongs.held
    have recent := belongs.recent.rename topic.index namespaces
    rw [if_neg apart] at recent
    refine .inr ⟨held, session, ?_, recent, ?_, ?_⟩ <;> simp only [step, same]
    · exact belongs.held
    · exact belongs.chain
    · exact belongs.account

/-- An update of the session of the fields is consistent when it has an account. -/
theorem Belongs.updated_iff {topic : Topic} {session : WalletSession}
    (belongs : connection.Belongs topic session) (namespaces : Namespaces) :
    (connection.step (.sessionUpdate topic namespaces)).Consistent ↔
      ∃ account, getAccount namespaces = .ok account := by
  have recent := belongs.recent.rename topic.index namespaces
  rw [if_pos rfl] at recent
  cases account : getAccount namespaces with
  | error _ =>
      have same : connection.provider.onSessionUpdate namespaces = connection.provider := by
        simp [WalletConnectProvider.onSessionUpdate, account]
      refine iff_of_false ?_ (by rintro ⟨_, found⟩; cases found)
      rintro (unset | ⟨other, changed, after⟩)
      · have missing := unset.1
        simp only [step, same, belongs.held] at missing
        cases missing
      · have held := after.held
        simp only [step, same, belongs.held, Option.some.injEq] at held
        subst held
        have equal := Option.some.inj (recent.opened.symm.trans after.recent.opened)
        have found := after.account
        rw [← equal, account] at found
        cases found
  | ok found =>
      refine iff_of_true (.inr ⟨topic, _, ?_, recent, ?_, ?_⟩) ⟨found, rfl⟩ <;>
        simp only [step, WalletConnectProvider.onSessionUpdate, account]
      · exact belongs.held
      · exact belongs.chain

/-- The two parts that an update has to meet. -/
theorem Consistent.update_iff (consistent : connection.Consistent) (topic : Topic)
    (namespaces : Namespaces) :
    ((connection.step (.sessionUpdate topic namespaces)).Consistent ∧
      ∀ held, connection.provider.topic = some held → topic ≠ held →
        connection.provider.onSessionUpdate namespaces = connection.provider) ↔
      connection.Undisturbed (.sessionUpdate topic namespaces) := by
  by_cases own : connection.provider.topic = some topic
  · obtain ⟨session, belongs⟩ := consistent.belongs own
    have spared : ∀ held, connection.provider.topic = some held → topic ≠ held →
        connection.provider.onSessionUpdate namespaces = connection.provider :=
      fun held found apart => absurd (Option.some.inj (own.symm.trans found)) apart
    rw [and_iff_left spared, belongs.updated_iff, Undisturbed]
    cases getAccount namespaces with
    | error _ => simp [own]
    | ok account => simp [own]
  · have kept : connection.Undisturbed (.sessionUpdate topic namespaces) ↔
        connection.provider.onSessionUpdate namespaces = connection.provider := by
      rw [Undisturbed, WalletConnectProvider.onSessionUpdate]
      cases getAccount namespaces with
      | error _ => simp [own]
      | ok account =>
          obtain ⟨provider, sessions, connecting, disconnecting⟩ := connection
          obtain ⟨held, chainID, connectedAccount⟩ := provider
          simpa using fun same => absurd same own
    rw [kept]
    constructor
    · rintro ⟨after, spared⟩
      cases missing : connection.provider.topic with
      | some held => exact spared held missing fun same => own (same ▸ missing)
      | none =>
          rcases after with unset | ⟨held, session, belongs⟩
          · exact WalletConnectProvider.onSessionUpdate_eq
              (unset.2.trans (consistent.unset missing).2.symm)
          · have held := belongs.held
            simp [step, missing] at held
    · intro same
      exact ⟨consistent.updated_elsewhere own namespaces same, fun _ _ _ => same⟩

/-- Clearing the fields spares the current session when it is the one that ends. -/
theorem cleared_iff (connection : Connection) (topic : Topic) :
    (∀ held, connection.provider.topic = some held → topic ≠ held →
      connection.provider.onSessionDelete = connection.provider) ↔
      connection.provider.topic = none ∨ connection.provider.topic = some topic := by
  constructor
  · intro spared
    cases found : connection.provider.topic with
    | none => exact .inl rfl
    | some held =>
        refine .inr ?_
        by_contra apart
        have same := spared held found fun equal => apart (equal ▸ rfl)
        have cleared := congrArg WalletConnectProvider.topic same
        rw [found] at cleared
        cases cleared
  · rintro (missing | own) held found apart
    · rw [missing] at found
      cases found
    · exact absurd (Option.some.inj (own.symm.trans found)) apart

/-- An event that changes neither the fields nor the sessions stays consistent. -/
theorem Consistent.same {other : Connection} (consistent : connection.Consistent)
    (provider : other.provider = connection.provider)
    (sessions : other.sessions = connection.sessions) : other.Consistent := by
  obtain ⟨_, _, connecting, disconnecting⟩ := other
  subst provider sessions
  rcases consistent with unset | ⟨topic, session, belongs⟩
  · exact .inl unset
  · exact .inr ⟨topic, session, belongs.held, belongs.recent, belongs.chain, belongs.account⟩

/-- A failed connect call leaves everything as it was. -/
theorem Consistent.failed (consistent : connection.Consistent) {index : Nat} {approval : Approval}
    (failed : ∀ namespaces, approval ≠ .approved namespaces) :
    (connection.step (.connected index approval)).Consistent ∧
      ∀ held, connection.provider.topic = some held →
        connection.Elsewhere held (.connected index approval) →
          (connection.step (.connected index approval)).provider = connection.provider := by
  have same : (connection.step (.connected index approval)).provider = connection.provider ∧
      (connection.step (.connected index approval)).sessions = connection.sessions := by
    simp only [step]
    split
    · exact ⟨rfl, rfl⟩
    · cases approval with
      | approved namespaces => exact absurd rfl (failed namespaces)
      | _ => exact ⟨rfl, rfl⟩
  exact ⟨consistent.same same.1 same.2, fun _ _ _ => same.1⟩

/-- A disconnect call waits for the client. -/
theorem step_disconnect_same :
    (connection.step .disconnect).provider = connection.provider ∧
      (connection.step .disconnect).sessions = connection.sessions := by
  simp only [step]
  split <;> exact ⟨rfl, rfl⟩

/-- The end of a disconnect call clears the fields. -/
theorem Consistent.disconnected_iff (consistent : connection.Consistent) (index : Nat)
    (succeeded : Bool) :
    ((connection.step (.disconnected index succeeded)).Consistent ∧
      ∀ held, connection.provider.topic = some held →
        connection.Elsewhere held (.disconnected index succeeded) →
          (connection.step (.disconnected index succeeded)).provider = connection.provider) ↔
      connection.Undisturbed (.disconnected index succeeded) := by
  cases waiting : connection.disconnecting[index]? with
  | none =>
      have still : connection.step (.disconnected index succeeded) = connection := by
        simp [step, waiting]
      rw [still]
      refine iff_of_true ⟨consistent, fun _ _ _ => rfl⟩ ?_
      cases succeeded <;> simp [Undisturbed, waiting]
  | some topic =>
      cases succeeded with
      | false =>
          have provider : (connection.step (.disconnected index false)).provider =
              connection.provider := by simp [step, waiting]
          have sessions : (connection.step (.disconnected index false)).sessions =
              connection.sessions := by simp [step, waiting]
          exact iff_of_true ⟨consistent.same provider sessions, fun _ _ _ => provider⟩ trivial
      | true =>
          have provider : (connection.step (.disconnected index true)).provider =
              connection.provider.onSessionDelete := by
            simp [step, waiting, WalletConnectProvider.disconnected,
              WalletConnectProvider.onSessionDelete]
          have cleared : (connection.step (.disconnected index true)).Consistent := by
            refine .inl ?_
            rw [Unset, provider]
            exact ⟨rfl, rfl⟩
          rw [and_iff_right cleared, provider]
          simpa [Elsewhere, Undisturbed, waiting] using cleared_iff connection topic

/-- From consistent fields exactly the undisturbed events agree. -/
theorem Consistent.agrees_iff (consistent : connection.Consistent) (event : ConnectionEvent) :
    connection.Agrees event ↔ connection.Undisturbed event := by
  have reaches : ∀ request, connection.sends event = some request → connection.Reaches request :=
    fun _ sent => consistent.reaches sent
  rw [Agrees, and_iff_left reaches]
  cases event with
  | connect old =>
      rw [consistent.connect_iff]
      exact and_iff_left fun _ _ elsewhere => elsewhere.elim
  | connected index approval =>
      cases approval with
      | approved namespaces =>
          rw [consistent.connected_iff]
          exact and_iff_left fun _ _ elsewhere => elsewhere.elim
      | _ => exact iff_of_true (consistent.failed (by simp)) trivial
  | sessionUpdate topic namespaces => exact consistent.update_iff topic namespaces
  | sessionDelete topic =>
      have cleared : (connection.step (.sessionDelete topic)).Consistent := .inl ⟨rfl, rfl⟩
      rw [and_iff_right cleared]
      exact cleared_iff connection topic
  | disconnect =>
      obtain ⟨provider, sessions⟩ := connection.step_disconnect_same
      exact iff_of_true ⟨consistent.same provider sessions, fun _ _ _ => provider⟩ trivial
  | disconnected index succeeded => exact consistent.disconnected_iff index succeeded
  | _ => exact iff_of_true ⟨consistent, fun _ _ elsewhere => elsewhere.elim⟩ trivial

/-- The fields of the provider belong to the most recent session at every moment of a run, what
happens elsewhere leaves them alone and every request reaches a live session, exactly when every
event of the run is undisturbed. -/
theorem walletConnection_agrees (opened : List WalletSession) (events : List ConnectionEvent) :
    PressHistory.Each Connection.step Agrees (loaded opened) events ↔
      PressHistory.Each Connection.step Undisturbed (loaded opened) events := by
  have means (connection : Connection) (event : ConnectionEvent)
      (consistent : connection.Consistent) :
      connection.Agrees event ↔ connection.Undisturbed event := consistent.agrees_iff event
  have keeps (connection : Connection) (event : ConnectionEvent)
      (consistent : connection.Consistent) (undisturbed : connection.Undisturbed event) :
      (connection.step event).Consistent := ((means connection event consistent).mpr undisturbed).1
  exact PressHistory.each_congr keeps means (loaded_consistent opened) events

/-- The accounts that a wallet approves. -/
def sampleNamespaces : Namespaces := ⟨[("ccd", ["ccd:4221332d34e1694168c2a0c0b3fd0f27:3kBx"])]⟩

/-- A second connect call changes the chain before the wallet rejects it. -/
theorem walletConnection_disturbed :
    ¬PressHistory.Each Connection.step Agrees (loaded [])
      [.connect false, .connected 0 (.approved sampleNamespaces), .connect true,
        .connected 0 .rejected] := by
  rintro ⟨-, -, ⟨unset | ⟨topic, session, belongs⟩, -⟩, -⟩
  · cases unset.1
  · obtain ⟨place, same⟩ := MostRecent.eq_length rfl (belongs.recent : MostRecent ([] ++ [_]) _ _)
    have chain := belongs.chain
    rw [same] at chain
    exact absurd chain (by decide)

end Connection

end Web3Id.ProofExplorer
