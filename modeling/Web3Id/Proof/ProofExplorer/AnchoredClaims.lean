import Web3Id.Construction.ProofExplorer.Anchor
import Web3Id.Library.PressHistory

namespace Web3Id.ProofExplorer

open Library

variable {Atom : Type}

/-- The providers and the atomic statements of the identity statements. -/
def identityStatements (statement : List (TopLevelStatement Atom)) : List (List Nat × List Atom) :=
  statement.filterMap fun stmt =>
    match stmt with
    | .id statement => some (statement.idCredIdps.map IdentityProvider.id, statement.statement)
    | _ => none

/-- The claims that an identity statement becomes. -/
def identityClaims (claimsType : SubjectClaimsType) (asked : List Nat × List Atom) :
    SubjectClaims Atom where
  source := claimsType.source
  statements := asked.2
  issuers := asked.1.map (IdentityProviderDID.mk network)

theorem getSubjectClaims_eq (statement : List (TopLevelStatement Atom))
    (claimsType : SubjectClaimsType) :
    getSubjectClaims statement claimsType =
      (identityStatements statement).map (identityClaims claimsType) := by
  rw [getSubjectClaims, identityStatements, List.map_filterMap]
  congr 1
  funext stmt
  cases stmt <;> simp [identityClaims, Function.comp_def]

theorem SubjectClaimsType.source_injective {one other : SubjectClaimsType}
    (same : one.source = other.source) : one = other := by
  cases one <;> cases other <;> first | rfl | cases same

/-- Claims show their identity statement and their type. -/
theorem identityClaims_injective {one other : SubjectClaimsType}
    {asked wanted : List Nat × List Atom}
    (same : identityClaims one asked = identityClaims other wanted) :
    one = other ∧ asked = wanted := by
  simp only [identityClaims, SubjectClaims.mk.injEq] at same
  obtain ⟨source, statements, issuers⟩ := same
  have mk_injective : Function.Injective (IdentityProviderDID.mk network) :=
    fun first second equal => (IdentityProviderDID.mk.inj equal).2
  exact ⟨SubjectClaimsType.source_injective source,
    Prod.ext (List.map_injective_iff.mpr mk_injective issuers) statements⟩

/-- The claims are the same exactly for the same identity statements under the same type. -/
theorem map_identityClaims_iff (one other : SubjectClaimsType)
    (asked wanted : List (List Nat × List Atom)) :
    asked.map (identityClaims one) = wanted.map (identityClaims other) ↔
      asked = wanted ∧ (one = other ∨ asked = []) := by
  constructor
  · intro same
    have equal : asked = wanted := by
      induction asked generalizing wanted with
      | nil => exact (List.map_eq_nil_iff.mp same.symm).symm
      | cons first asked ih =>
          cases wanted with
          | nil => cases same
          | cons second wanted =>
              obtain ⟨head, tail⟩ := List.cons.inj same
              rw [(identityClaims_injective head).2, ih wanted tail]
    refine ⟨equal, ?_⟩
    subst equal
    cases asked with
    | nil => exact .inr rfl
    | cons first asked => exact .inl (identityClaims_injective (List.cons.inj same).1).1
  · rintro ⟨rfl, rfl | rfl⟩ <;> rfl

/-- The wallet gets the submission of the press. -/
theorem createAnchorAndSubmitService_ok {provider : WalletProvider}
    {submission result : Submission Atom}
    (submitted : createAnchorAndSubmitService provider submission = .ok result) :
    result = submission := by
  unfold createAnchorAndSubmitService at submitted
  cases empty : submission.statements.isEmpty with
  | true => simp [empty, throw, throwThe, MonadExceptOf.throw, bind, Except.bind] at submitted
  | false =>
      cases sent : provider.sendRegisterDataTransaction with
      | error message => simp [empty, sent, bind, Except.bind] at submitted
      | ok _ =>
          simp only [empty, sent, bind, Except.bind, pure, Except.pure] at submitted
          exact (Except.ok.inj submitted).symm

namespace Session

/-- A request has the context and the claims of the anchor with its hash. -/
def Agrees (session : Session Atom) (event : Event Atom) : Prop :=
  event = .proveV1 → ∀ request, session.proveV1 = some (.ok request) →
    ∃ submission, session.chain[request.anchorTransactionHash.place]? = some submission ∧
      request.context = submission.anchor.context ∧
      request.subjectClaims = submission.anchor.subjectClaims

/-- A proof with a hash finds the identity statements of the press that submitted its anchor, and
its claims type unless there are none. -/
def Unedited (session : Session Atom) (event : Event Atom) : Prop :=
  event = .proveV1 → session.explorer.provider.isSome → session.explorer.builder.statement ≠ [] →
    ∀ hash, session.explorer.anchorTransactionHash = some hash →
      ∃ submission, session.chain[hash.place]? = some submission ∧
        identityStatements session.explorer.builder.statement =
          identityStatements submission.statements ∧
        (session.explorer.claimsType = submission.claimsType ∨
          identityStatements session.explorer.builder.statement = [])

/-- All submissions have the context of the nonce. -/
def Kept (session : Session Atom) : Prop :=
  ∀ submission ∈ session.pending ++ session.chain,
    submission.context = createSimpleContext session.explorer.nonce

theorem loaded_kept (nonce : Bytes) : (loaded nonce : Session Atom).Kept :=
  fun _ listed => absurd listed List.not_mem_nil

variable {session : Session Atom}

/-- A request is made from a list that is not empty and a hash. -/
theorem proveV1_iff (request : VerificationRequest Atom) :
    session.proveV1 = some (.ok request) ↔
      session.explorer.provider.isSome ∧ session.explorer.builder.statement ≠ [] ∧
        session.explorer.anchorTransactionHash = some request.anchorTransactionHash ∧
        request.context = createSimpleContext session.explorer.nonce ∧
        request.subjectClaims =
          getSubjectClaims session.explorer.builder.statement session.explorer.claimsType := by
  obtain ⟨context, claims, hash⟩ := request
  rw [proveV1, Option.map_eq_some_iff, Option.isSome_iff_exists]
  unfold submitProof
  cases session.explorer.builder.statement with
  | nil => simp
  | cons top statements =>
      cases session.explorer.anchorTransactionHash with
      | none => simp
      | some held => simp [eq_comm, and_comm, and_assoc, and_left_comm]

/-- A submission has the context of its press. -/
theorem Kept.createAnchorAndSubmit (kept : session.Kept) :
    session.createAnchorAndSubmit.Kept := by
  unfold Session.createAnchorAndSubmit
  split
  · exact kept
  · rename_i provider connected
    simp only
    split
    · exact kept
    · rename_i submission submitted
      have own : submission.context = createSimpleContext session.explorer.nonce := by
        rw [createAnchorAndSubmitService_ok submitted]
      intro other listed
      simp only [List.append_assoc, List.mem_append, List.mem_singleton] at listed
      rcases listed with old | rfl | sent
      · exact kept other (List.mem_append_left _ old)
      · exact own
      · exact kept other (List.mem_append_right _ sent)

theorem Kept.answer (kept : session.Kept) (index : Nat) (sent : Bool) :
    (session.answer index sent).Kept := by
  unfold Session.answer
  split
  · exact kept
  · rename_i submission waiting
    have old : ∀ other ∈ session.pending.eraseIdx index,
        other.context = createSimpleContext session.explorer.nonce := fun other listed =>
      kept other (List.mem_append_left _ (List.eraseIdx_subset listed))
    cases sent with
    | false =>
        intro other listed
        rcases List.mem_append.mp listed with listed | listed
        · exact old other listed
        · exact kept other (List.mem_append_right _ listed)
    | true =>
        intro other listed
        simp only [if_true, List.mem_append, List.mem_singleton] at listed
        rcases listed with listed | listed | rfl
        · exact old other listed
        · exact kept other (List.mem_append_right _ listed)
        · exact kept other (List.mem_append_left _ (List.mem_of_getElem? waiting))

theorem Kept.step (kept : session.Kept) (event : Event Atom) : (session.step event).Kept := by
  cases event with
  | createAnchorAndSubmit => exact kept.createAnchorAndSubmit
  | answer index sent => exact kept.answer index sent
  | _ => exact kept

/-- The claims agree exactly when what they are made from does. -/
theorem Kept.agrees_iff (kept : session.Kept) (event : Event Atom) :
    session.Agrees event ↔ session.Unedited event := by
  have made : ∀ hash, session.explorer.provider.isSome → session.explorer.builder.statement ≠ [] →
      session.explorer.anchorTransactionHash = some hash →
      session.proveV1 = some (.ok ⟨createSimpleContext session.explorer.nonce,
        getSubjectClaims session.explorer.builder.statement session.explorer.claimsType, hash⟩) :=
    fun hash connected nonempty held => (proveV1_iff _).mpr ⟨connected, nonempty, held, rfl, rfl⟩
  have same (submission : Submission Atom) :
      getSubjectClaims session.explorer.builder.statement session.explorer.claimsType =
          submission.anchor.subjectClaims ↔
        identityStatements session.explorer.builder.statement =
            identityStatements submission.statements ∧
          (session.explorer.claimsType = submission.claimsType ∨
            identityStatements session.explorer.builder.statement = []) := by
    rw [Submission.anchor, getSubjectClaims_eq, getSubjectClaims_eq, map_identityClaims_iff]
  constructor
  · intro agrees press connected nonempty hash held
    obtain ⟨submission, sent, -, claims⟩ := agrees press _ (made hash connected nonempty held)
    exact ⟨submission, sent, (same submission).mp claims⟩
  · intro unedited press request created
    obtain ⟨connected, nonempty, held, context, claims⟩ := (proveV1_iff request).mp created
    obtain ⟨submission, sent, equal⟩ := unedited press connected nonempty _ held
    refine ⟨submission, sent, ?_, claims.trans ((same submission).mpr equal)⟩
    rw [context, ← kept submission (List.mem_append_right _ (List.mem_of_getElem? sent))]
    rfl

/-- Every request of a run agrees with its anchor exactly when no identity statement and no claims
type was edited since the anchor was submitted. -/
theorem anchoredClaims_agree (nonce : Bytes) (events : List (Event Atom)) :
    PressHistory.Each Session.step Agrees (loaded nonce) events ↔
      PressHistory.Each Session.step Unedited (loaded nonce) events := by
  have keeps (session : Session Atom) (event : Event Atom) (kept : session.Kept)
      (_ : session.Unedited event) : (session.step event).Kept := kept.step event
  have means (session : Session Atom) (event : Event Atom) (kept : session.Kept) :
      session.Agrees event ↔ session.Unedited event := kept.agrees_iff event
  exact PressHistory.each_congr keeps means (loaded_kept nonce) events

/-- A statement that is added while the transaction is sent is not anchored. -/
theorem anchoredClaims_stale :
    ¬PressHistory.Each Session.step Agrees (loaded [1])
      [.setProvider (.browserWallet (some "3kBx")),
        .edit (.addIdentityCredentialStatement [] ["firstName"]), .createAnchorAndSubmit,
        .edit (.addIdentityCredentialStatement [] ["lastName"]), .answer 0 true, .proveV1] := by
  rintro ⟨-, -, -, -, -, agrees, -⟩
  obtain ⟨submission, sent, -, claims⟩ := agrees rfl
    ⟨createSimpleContext [1],
      [⟨[.identityCredential, .accountCredential], ["firstName", "lastName"], []⟩], ⟨0⟩⟩ rfl
  cases sent
  exact absurd claims (by decide)

end Session

end Web3Id.ProofExplorer
