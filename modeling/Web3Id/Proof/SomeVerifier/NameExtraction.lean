import Mathlib.Algebra.Ring.Nat
import Web3Id.Construction.SomeVerifier.Server

namespace Web3Id.SomeVerifier.AppState

/-- A pair of a statement and a proof reveals a string under the tag. -/
inductive RevealsName (attributeTag : AttributeTag) :
    StatementWithProof AttributeTag → String → Prop
  | pair (name : String) (proof : Bytes) :
      RevealsName attributeTag
        (.revealAttribute attributeTag, .revealAttribute (.string name) proof) name

/-- The list has exactly two pairs, in either order. -/
inductive NamePairs : List (StatementWithProof AttributeTag) → String → String → Prop
  | firstLast {first last : StatementWithProof AttributeTag} {firstName lastName : String}
      (one : RevealsName .firstName first firstName) (other : RevealsName .lastName last lastName) :
      NamePairs [first, last] firstName lastName
  | lastFirst {first last : StatementWithProof AttributeTag} {firstName lastName : String}
      (one : RevealsName .lastName last lastName) (other : RevealsName .firstName first firstName) :
      NamePairs [last, first] firstName lastName

/-- Every pair reveals a first name or a last name, and both occur. -/
structure NameLists (proofs : List (StatementWithProof AttributeTag)) : Prop where
  names : ∀ pair ∈ proofs, ∃ name,
    RevealsName .firstName pair name ∨ RevealsName .lastName pair name
  first : ∃ pair ∈ proofs, ∃ name, RevealsName .firstName pair name
  last : ∃ pair ∈ proofs, ∃ name, RevealsName .lastName pair name

/-- One pair of the loop sets one of the names, or ends the loop. -/
theorem readNames_cons (pair : StatementWithProof AttributeTag)
    (proofs : List (StatementWithProof AttributeTag)) (names : Option String × Option String) :
    (∃ name, RevealsName .firstName pair name ∧
      readNames (pair :: proofs) names = readNames proofs (some name, names.2)) ∨
    (∃ name, RevealsName .lastName pair name ∧
      readNames (pair :: proofs) names = readNames proofs (names.1, some name)) ∨
    (∀ name, ¬ RevealsName .firstName pair name ∧ ¬ RevealsName .lastName pair name) ∧
      readNames (pair :: proofs) names = .error .invalidStatement := by
  rcases pair with ⟨statement, proof⟩
  have other : (∀ tag name value, (statement, proof) ≠
      (.revealAttribute tag, .revealAttribute (.string name) value)) →
      (∀ name, ¬ RevealsName .firstName (statement, proof) name ∧
        ¬ RevealsName .lastName (statement, proof) name) ∧
      readNames ((statement, proof) :: proofs) names = .error .invalidStatement := by
    intro different
    refine ⟨fun name => ⟨?_, ?_⟩, ?_⟩
    · rintro ⟨⟩
      exact different _ _ _ rfl
    · rintro ⟨⟩
      exact different _ _ _ rfl
    · unfold readNames
      split
      · rename_i nothing
        nomatch nothing
      · rename_i same
        exact absurd (List.cons.inj same).1 (different _ _ _)
      · rfl
  by_cases reveals : ∃ tag name value, (statement, proof) =
      (.revealAttribute tag, .revealAttribute (.string name) value)
  · obtain ⟨tag, name, value, same⟩ := reveals
    cases same
    by_cases first : tag = .firstName
    · subst first
      exact .inl ⟨name, .pair name value, by simp [readNames]⟩
    · by_cases last : tag = .lastName
      · subst last
        exact .inr (.inl ⟨name, .pair name value, by simp [readNames, first]⟩)
      · refine .inr (.inr ⟨fun text => ⟨?_, ?_⟩, by simp [readNames, first, last]⟩)
        · rintro ⟨⟩
          exact first rfl
        · rintro ⟨⟩
          exact last rfl
  · exact .inr (.inr (other fun tag name value same => reveals ⟨tag, name, value, same⟩))

theorem RevealsName.unique {attributeTag other : AttributeTag}
    {pair : StatementWithProof AttributeTag} {name text : String}
    (one : RevealsName attributeTag pair name) (two : RevealsName other pair text) :
    attributeTag = other ∧ name = text := by
  cases one
  cases two
  exact ⟨rfl, rfl⟩

/-- The loop ends with both names when every pair is a name and none is missing. -/
theorem readNames_both (proofs : List (StatementWithProof AttributeTag))
    (names : Option String × Option String) :
    (∃ firstName lastName, readNames proofs names = .ok (some firstName, some lastName)) ↔
      (∀ pair ∈ proofs, ∃ name,
        RevealsName .firstName pair name ∨ RevealsName .lastName pair name) ∧
      (names.1.isSome = true ∨ ∃ pair ∈ proofs, ∃ name, RevealsName .firstName pair name) ∧
      (names.2.isSome = true ∨ ∃ pair ∈ proofs, ∃ name, RevealsName .lastName pair name) := by
  induction proofs generalizing names with
  | nil =>
      obtain ⟨first, last⟩ := names
      cases first <;> cases last <;> simp [readNames]
  | cons pair proofs ih =>
      have different : AttributeTag.firstName ≠ AttributeTag.lastName := by decide
      rcases readNames_cons pair proofs names with
        ⟨name, first, run⟩ | ⟨name, last, run⟩ | ⟨neither, run⟩
      · have notLast : ∀ text, ¬ RevealsName .lastName pair text :=
          fun text last => different (first.unique last).1
        rw [run, ih]
        simp only [List.mem_cons, forall_eq_or_imp, exists_eq_or_imp, notLast, exists_false,
          false_or, or_false, Option.isSome_some, true_or, true_and]
        exact ⟨fun ⟨rest, last⟩ => ⟨⟨⟨name, first⟩, rest⟩, .inr (.inl ⟨name, first⟩), last⟩,
          fun ⟨rest, _, last⟩ => ⟨rest.2, last⟩⟩
      · have notFirst : ∀ text, ¬ RevealsName .firstName pair text :=
          fun text first => different (first.unique last).1
        rw [run, ih]
        simp only [List.mem_cons, forall_eq_or_imp, exists_eq_or_imp, notFirst, exists_false,
          false_or, Option.isSome_some, true_or, and_true]
        exact ⟨fun ⟨rest, first⟩ => ⟨⟨⟨name, last⟩, rest⟩, first, .inr (.inl ⟨name, last⟩)⟩,
          fun ⟨rest, first, _⟩ => ⟨rest.2, first⟩⟩
      · rw [run]
        constructor
        · intro found
          obtain ⟨_, _, absurd⟩ := found
          cases absurd
        · intro lists
          obtain ⟨shows_, -⟩ := lists
          obtain ⟨name, first | last⟩ := shows_ pair List.mem_cons_self
          · exact absurd first (neither name).1
          · exact absurd last (neither name).2

theorem NameLists.iff_readNames {proofs : List (StatementWithProof AttributeTag)} :
    NameLists proofs ↔
      ∃ firstName lastName, readNames proofs (none, none) = .ok (some firstName, some lastName) := by
  rw [readNames_both]
  simp only [Option.isSome_none, Bool.false_eq_true, false_or]
  exact ⟨fun lists => ⟨lists.names, lists.first, lists.last⟩, fun ⟨names, first, last⟩ =>
    ⟨names, first, last⟩⟩

/-- Two pairs give both names exactly when they are a first name and a last name. -/
theorem readNames_pair (one two : StatementWithProof AttributeTag) (firstName lastName : String) :
    readNames [one, two] (none, none) = .ok (some firstName, some lastName) ↔
      NamePairs [one, two] firstName lastName := by
  constructor
  · intro both
    rcases readNames_cons one [two] (none, none) with
      ⟨name, shown, run⟩ | ⟨name, shown, run⟩ | ⟨-, run⟩
    · rw [run] at both
      rcases readNames_cons two [] (some name, none) with
        ⟨text, too, rest⟩ | ⟨text, too, rest⟩ | ⟨-, rest⟩
      · rw [rest] at both
        nomatch both
      · rw [rest] at both
        cases both
        exact .firstLast shown too
      · nomatch rest.symm.trans both
    · rw [run] at both
      rcases readNames_cons two [] (none, some name) with
        ⟨text, too, rest⟩ | ⟨text, too, rest⟩ | ⟨-, rest⟩
      · rw [rest] at both
        cases both
        exact .lastFirst shown too
      · rw [rest] at both
        nomatch both
      · nomatch rest.symm.trans both
    · nomatch run.symm.trans both
  · intro pairs
    cases pairs with
    | firstLast one other =>
        cases one
        cases other
        rfl
    | lastFirst one other =>
        cases one
        cases other
        rfl

/-- The check refuses no list that fits into memory. -/
theorem refusesLength_iff (length : Nat) :
    refusesLength length = true ↔ length % 2 ^ 64 = 2 ^ 64 - 3 := by
  have bits : (~~~(BitVec.ofNat 64 length)).toNat = 2 ^ 64 - 1 - length % 2 ^ 64 := by
    rw [BitVec.toNat_not, BitVec.toNat_ofNat]
  have two : (2 : BitVec 64).toNat = 2 := rfl
  rw [refusesLength, decide_eq_true_iff, ← BitVec.toNat_inj, bits, two]
  omega

variable {self : AppState} {entry after : VerificationsEntry}

/-- An account credential is accepted with the names that the loop has found. -/
theorem account_accepted (created : DateTime) (network : Network) (credId : Bytes) (issuer : UInt32)
    (proofs : List (StatementWithProof AttributeTag)) :
    self.proofToVerificationsEntry entry (.account created network credId issuer proofs) =
        .ok after ↔
      proofs.length % 2 ^ 64 ≠ 2 ^ 64 - 3 ∧ entry.fullName = none ∧ ∃ firstName lastName,
        readNames proofs (none, none) = .ok (some firstName, some lastName) ∧
        after = { entry with fullName := some ⟨firstName, lastName⟩ } := by
  rw [ne_eq, ← refusesLength_iff, proofToVerificationsEntry]
  cases refusesLength proofs.length with
  | true => simp
  | false =>
      simp only [Bool.false_eq_true, if_false, not_false_eq_true, true_and]
      split
      · rename_i failed
        simp [failed]
      · rename_i firstName lastName found
        cases empty : entry.fullName with
        | some name => simp
        | none =>
            simp only [Option.isSome_none, Bool.false_eq_true, if_false, Except.ok.injEq,
              true_and, found, Prod.mk.injEq, Option.some.injEq]
            constructor
            · intro same
              exact ⟨firstName, lastName, ⟨rfl, rfl⟩, same.symm⟩
            · rintro ⟨_, _, ⟨rfl, rfl⟩, same⟩
              exact same.symm
      · rename_i names missing found
        obtain ⟨first, last⟩ := names
        simp only [found, reduceCtorEq, false_iff, not_and]
        rintro - ⟨firstName, lastName, both, -⟩
        cases both
        exact missing _ _ rfl

/-- The code accepts the list exactly when it is a first and a last name for an empty full name. -/
def ExtractsNames (self : AppState) (entry : VerificationsEntry) (created : DateTime)
    (network : Network) (credId : Bytes) (issuer : UInt32)
    (proofs : List (StatementWithProof AttributeTag)) : Prop :=
  ∀ after, self.proofToVerificationsEntry entry (.account created network credId issuer proofs) =
      .ok after ↔
    ∃ firstName lastName, NamePairs proofs firstName lastName ∧ entry.fullName = none ∧
      after = { entry with fullName := some ⟨firstName, lastName⟩ }

theorem NamePairs.length {proofs : List (StatementWithProof AttributeTag)}
    {firstName lastName : String} (pairs : NamePairs proofs firstName lastName) : proofs.length = 2 := by
  cases pairs <;> rfl

/-- The names are extracted as documented, unless the list is longer than two and repeats names. -/
theorem proofToVerificationsEntry_names (self : AppState) (entry : VerificationsEntry)
    (created : DateTime) (network : Network) (credId : Bytes) (issuer : UInt32)
    (proofs : List (StatementWithProof AttributeTag)) :
    self.ExtractsNames entry created network credId issuer proofs ↔
      ¬ (proofs.length ≠ 2 ∧ proofs.length % 2 ^ 64 ≠ 2 ^ 64 - 3 ∧ entry.fullName = none ∧
        NameLists proofs) := by
  simp only [ExtractsNames, account_accepted]
  by_cases pair : proofs.length = 2
  · match proofs, pair with
    | [one, two], _ =>
        simp only [readNames_pair, List.length_cons, List.length_nil]
        refine iff_of_true (fun after => ⟨?_, ?_⟩) (by simp)
        · intro extracted
          obtain ⟨-, empty, firstName, lastName, pairs, same⟩ := extracted
          exact ⟨firstName, lastName, pairs, empty, same⟩
        · intro named
          obtain ⟨firstName, lastName, pairs, empty, same⟩ := named
          exact ⟨by decide, empty, firstName, lastName, pairs, same⟩
  · constructor
    · rintro extracts ⟨-, short, empty, lists⟩
      obtain ⟨firstName, lastName, found⟩ := NameLists.iff_readNames.mp lists
      obtain ⟨_, _, pairs, -⟩ :=
        (extracts _).mp ⟨short, empty, firstName, lastName, found, rfl⟩
      exact pair pairs.length
    · intro refused after
      constructor
      · intro extracted
        obtain ⟨short, empty, firstName, lastName, found, -⟩ := extracted
        exact absurd ⟨pair, short, empty, NameLists.iff_readNames.mpr ⟨_, _, found⟩⟩ refused
      · intro named
        obtain ⟨_, _, pairs, -⟩ := named
        exact absurd pairs.length pair

/-- The first of three pairs is forgotten. -/
def repeatedNames : List (StatementWithProof AttributeTag) :=
  [(.revealAttribute .firstName, .revealAttribute (.string "A") []),
    (.revealAttribute .lastName, .revealAttribute (.string "B") []),
    (.revealAttribute .firstName, .revealAttribute (.string "C") [])]

theorem proofToVerificationsEntry_repeats :
    ¬ ∀ (self : AppState) (entry : VerificationsEntry) (created : DateTime) (network : Network)
      (credId : Bytes) (issuer : UInt32) (proofs : List (StatementWithProof AttributeTag)),
      self.ExtractsNames entry created network credId issuer proofs := by
  intro always
  have extracts := always ⟨⟨1, 0⟩, ⟨2, 0⟩, .testnet, []⟩ ⟨none, none, [], none⟩ ⟨0⟩ .testnet [3] 0
    repeatedNames
  obtain ⟨_, _, pairs, -⟩ := (extracts ⟨none, none, [], some ⟨"C", "B"⟩⟩).mp rfl
  exact absurd pairs.length (by decide)

end Web3Id.SomeVerifier.AppState
