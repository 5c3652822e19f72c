import Web3Id.Construction.ProofExplorer.StatementBuilder
import Web3Id.Library.PressHistory

namespace Web3Id.ProofExplorer

open Library

variable {Atom : Type}

/-- The account and the identity column share one flag. -/
def StatementType.isAccount (column : StatementType) : Bool := column ≠ .web3id

namespace Edit

def column : Edit Atom → Option StatementType
  | .addIdentityCredentialStatement .. => some .id
  | .addAccountStatement .. => some .account
  | .addWeb3IdStatement .. => some .web3id
  | _ => none

def atoms : Edit Atom → List Atom
  | .addIdentityCredentialStatement _ a => a
  | .addAccountStatement _ a => a
  | .addWeb3IdStatement _ a => a
  | _ => []

/-- Each atomic statement keeps the column that it is added through. -/
def marked : Edit Atom → Edit (StatementType × Atom)
  | .addIdentityCredentialStatement idps a =>
      .addIdentityCredentialStatement idps (a.map (Prod.mk .id))
  | .addAccountStatement idps a => .addAccountStatement idps (a.map (Prod.mk .account))
  | .addWeb3IdStatement issuers a => .addWeb3IdStatement issuers (a.map (Prod.mk .web3id))
  | .handleAddTopLevel => .handleAddTopLevel
  | .clearLast => .clearLast

end Edit

/-- A new statement is started until the next add is accepted. -/
structure Trail (Atom : Type) where
  builder : Builder (StatementType × Atom)
  started : Bool

namespace Trail

def loaded : Trail Atom := ⟨Builder.loaded, false⟩

def edit (trail : Trail Atom) (edit : Edit Atom) : Trail Atom where
  builder := trail.builder.edit edit.marked
  started :=
    match edit.column with
    | some column => trail.started && trail.builder.mixes column
    | none => trail.started || edit matches .handleAddTopLevel

end Trail

/-- Each atomic statement is in a statement of its column. -/
def Placed (statements : List (TopLevelStatement (StatementType × Atom))) : Prop :=
  ∀ top ∈ statements, ∀ atom ∈ top.atoms, atom.1 = top.type

def AppendsOne (before after : List (TopLevelStatement Atom)) : Prop :=
  ∃ fresh, after = before ++ [fresh]

def ChangesLast (before after : List (TopLevelStatement Atom)) : Prop :=
  ∃ first last a, before = first ++ [last] ∧ after = first ++ [last.concat a]

/-- The atomic statements are placed after the edit. A refused add leaves the list as it is. An
accepted add appends a statement, or changes the last one when none was started. -/
def Trail.Agrees (trail : Trail Atom) (edit : Edit Atom) : Prop :=
  Placed (trail.edit edit).builder.statement ∧
    ∀ column, edit.column = some column →
      if trail.builder.mixes column then
        (trail.edit edit).builder.statement = trail.builder.statement
      else
        AppendsOne trail.builder.statement (trail.edit edit).builder.statement ∨
          trail.started = false ∧
            ChangesLast trail.builder.statement (trail.edit edit).builder.statement

/-- An add is refused, appends a statement, adds nothing, or finds its own type in the last one. -/
def Trail.Fits (trail : Trail Atom) (edit : Edit Atom) : Prop :=
  ∀ column, edit.column = some column →
    trail.builder.mixes column = true ∨ trail.builder.appends column.isAccount = true ∨
      edit.atoms = [] ∨ ∃ last, trail.builder.statement.getLast? = some last ∧ last.type = column

/-- What the builder keeps between the edits. -/
structure Trail.Kept (trail : Trail Atom) : Prop where
  placed : Placed trail.builder.statement
  started : trail.started = true → trail.builder.newStatement = true

theorem Trail.loaded_kept : (loaded : Trail Atom).Kept where
  placed _ listed := absurd listed List.not_mem_nil
  started := by simp [loaded]

@[simp] theorem TopLevelStatement.concat_type (a : List Atom) (top : TopLevelStatement Atom) :
    (top.concat a).type = top.type := by
  cases top <;> rfl

@[simp] theorem TopLevelStatement.concat_atoms (a : List Atom) (top : TopLevelStatement Atom) :
    (top.concat a).atoms = top.atoms ++ a := by
  cases top <;> rfl

/-- The three columns add in the same way. -/
theorem Edit.marked_add {edit : Edit Atom} {column : StatementType}
    (through : edit.column = some column) :
    ∃ fresh : TopLevelStatement (StatementType × Atom), fresh.type = column ∧
      fresh.atoms = edit.atoms.map (Prod.mk column) ∧
      ∀ builder : Builder (StatementType × Atom), builder.edit edit.marked =
        builder.addStatement column column.isAccount fresh (edit.atoms.map (Prod.mk column)) := by
  cases edit with
  | handleAddTopLevel => cases through
  | clearLast => cases through
  | _ =>
      cases through
      exact ⟨_, rfl, rfl, fun _ => rfl⟩

section Lists

variable {statements : List (TopLevelStatement (StatementType × Atom))}

/-- The appended statement is placed when it has its own atoms. -/
theorem Placed.append (placed : Placed statements)
    {fresh : TopLevelStatement (StatementType × Atom)} {atoms : List Atom}
    (own : fresh.atoms = atoms.map (Prod.mk fresh.type)) : Placed (statements ++ [fresh]) := by
  intro top listed atom inside
  rcases List.mem_append.mp listed with listed | single
  · exact placed top listed atom inside
  · rw [List.mem_singleton.mp single] at inside ⊢
    rw [own] at inside
    obtain ⟨_, _, rfl⟩ := List.mem_map.mp inside
    rfl

theorem Placed.dropLast (placed : Placed statements) : Placed statements.dropLast :=
  fun top listed => placed top ((List.dropLast_sublist statements).subset listed)

/-- Atoms that join the last statement are placed exactly when it has their type. -/
theorem placed_concat_iff (placed : Placed statements)
    {last : TopLevelStatement (StatementType × Atom)} (final : statements.getLast? = some last)
    (column : StatementType) (atoms : List Atom) :
    Placed (statements.dropLast ++ [last.concat (atoms.map (Prod.mk column))]) ↔
      atoms = [] ∨ last.type = column := by
  constructor
  · intro after
    cases atoms with
    | nil => exact .inl rfl
    | cons atom atoms =>
        have joined : (column, atom) ∈
            (last.concat ((atom :: atoms).map (Prod.mk column))).atoms := by simp
        have type := after _ (List.mem_append_right _ (List.mem_singleton_self _)) _ joined
        rw [TopLevelStatement.concat_type] at type
        exact .inr type.symm
  · intro fits top listed atom inside
    rcases List.mem_append.mp listed with listed | single
    · exact placed.dropLast top listed atom inside
    · rw [List.mem_singleton.mp single] at inside ⊢
      rw [TopLevelStatement.concat_atoms, List.mem_append] at inside
      rw [TopLevelStatement.concat_type]
      rcases inside with old | new
      · exact placed last (List.mem_of_getLast? final) atom old
      · obtain ⟨_, member, rfl⟩ := List.mem_map.mp new
        rcases fits with rfl | type
        · cases member
        · exact type.symm

end Lists

namespace Builder

variable {builder : Builder Atom} {column : StatementType} {account : Bool}
  {fresh : TopLevelStatement Atom} {a : List Atom}

theorem addStatement_refused (refused : builder.mixes column = true) :
    builder.addStatement column account fresh a = builder := if_pos refused

theorem addStatement_appends (accepted : builder.mixes column = false)
    (appends : builder.appends account = true) :
    builder.addStatement column account fresh a =
      ⟨some column, account, false, builder.statement ++ [fresh]⟩ := by
  simp [addStatement, accepted, appends]

/-- The statements join the last one of a list that is not empty, while none was started. -/
theorem addStatement_joins (accepted : builder.mixes column = false)
    (joins : builder.appends account = false) :
    builder.newStatement = false ∧ ∃ last, builder.statement.getLast? = some last ∧
      builder.addStatement column account fresh a =
        { builder with
          currentStatementType := some column
          statement := builder.statement.dropLast ++ [last.concat a] } := by
  have parts := joins
  simp only [appends, Bool.or_eq_false_iff, List.isEmpty_eq_false_iff] at parts
  obtain ⟨⟨-, started⟩, nonempty⟩ := parts
  have final := List.getLast?_eq_some_getLast nonempty
  exact ⟨started, _, final, by simp [addStatement, accepted, joins, final]⟩

end Builder

namespace Trail

variable {trail : Trail Atom}

/-- An edit that is no add starts or clears. -/
theorem Kept.other (kept : trail.Kept) {edit : Edit Atom} (other : edit.column = none) :
    (trail.edit edit).Kept := by
  cases edit with
  | handleAddTopLevel => exact ⟨kept.placed, fun _ => rfl⟩
  | clearLast =>
      refine ⟨kept.placed.dropLast, fun started => kept.started ?_⟩
      simpa [Trail.edit, Edit.column] using started
  | _ => cases other

/-- An add agrees when it fits. -/
theorem Kept.agrees_iff (kept : trail.Kept) (edit : Edit Atom) :
    trail.Agrees edit ↔ trail.Fits edit := by
  cases through : edit.column with
  | none =>
      refine iff_of_true ⟨(kept.other through).placed, ?_⟩ ?_
      · rw [through]
        simp
      · rw [Fits, through]
        simp
  | some column =>
      obtain ⟨fresh, type, own, adds⟩ := Edit.marked_add through
      have statement : (trail.edit edit).builder = trail.builder.edit edit.marked := rfl
      simp only [Agrees, Fits, through, Option.some.injEq, forall_eq', statement, adds]
      cases refused : trail.builder.mixes column with
      | true =>
          rw [Builder.addStatement_refused refused]
          simp [kept.placed]
      | false =>
          cases appends : trail.builder.appends column.isAccount with
          | true =>
              rw [Builder.addStatement_appends refused appends]
              have placed := kept.placed.append (by rw [own, type])
              simpa using ⟨placed, .inl ⟨fresh, rfl⟩⟩
          | false =>
              obtain ⟨started, last, final, joined⟩ := Builder.addStatement_joins refused appends
              rw [joined]
              have waits : trail.started = false := by
                rw [Bool.eq_false_iff]
                exact fun waiting => by simp [kept.started waiting] at started
              have changes : ChangesLast trail.builder.statement
                  (trail.builder.statement.dropLast ++
                    [last.concat (edit.atoms.map (Prod.mk column))]) :=
                ⟨_, last, _, (List.dropLast_append_getLast? last final).symm, rfl⟩
              simp only [placed_concat_iff kept.placed final]
              simp [final, waits, changes]

/-- An edit that agrees keeps what the builder keeps. -/
theorem Kept.edit (kept : trail.Kept) {edit : Edit Atom} (fits : trail.Fits edit) :
    (trail.edit edit).Kept := by
  cases through : edit.column with
  | none => exact kept.other through
  | some column =>
      refine ⟨((kept.agrees_iff edit).mpr fits).1, ?_⟩
      obtain ⟨fresh, -, -, adds⟩ := Edit.marked_add through
      intro started
      have parts : (trail.started && trail.builder.mixes column) = true := by
        simpa [Trail.edit, through] using started
      obtain ⟨waiting, refused⟩ := Bool.and_eq_true_iff.mp parts
      have same : (trail.edit edit).builder = trail.builder :=
        (adds trail.builder).trans (Builder.addStatement_refused refused)
      rw [same]
      exact kept.started waiting

/-- Every edit of a run keeps the statements in their columns, and every add is refused, changes the
last statement or appends one, exactly when all edits fit. -/
theorem statementBuilder_agrees (edits : List (Edit Atom)) :
    PressHistory.Each Trail.edit Agrees loaded edits ↔
      PressHistory.Each Trail.edit Fits loaded edits := by
  have keeps (trail : Trail Atom) (edit : Edit Atom) (kept : trail.Kept) (fits : trail.Fits edit) :
      (trail.edit edit).Kept := kept.edit fits
  have means (trail : Trail Atom) (edit : Edit Atom) (kept : trail.Kept) :
      trail.Agrees edit ↔ trail.Fits edit := kept.agrees_iff edit
  exact PressHistory.each_congr keeps means loaded_kept edits

/-- After the last statement is cleared, an identity statement joins the account statement. -/
theorem statementBuilder_misplaces :
    ¬PressHistory.Each Trail.edit Agrees loaded
      [.addAccountStatement [] ["nationality"], .handleAddTopLevel,
        .addIdentityCredentialStatement [] ["firstName"], .clearLast,
        .addIdentityCredentialStatement [] ["lastName"]] := by
  rintro ⟨-, -, -, -, ⟨placed, -⟩, -⟩
  have joined := placed (.account ⟨[], [(.account, "nationality"), (.id, "lastName")]⟩) (by decide)
    (.id, "lastName") (by decide)
  cases joined

end Trail

end Web3Id.ProofExplorer
