import Mathlib.Data.List.Forall2
import Mathlib.Tactic.Common
import Web3Id.Construction.ProofExplorer.AttributeForms
import Web3Id.Library.PressHistory

namespace Web3Id.ProofExplorer

open Library

/-- Types are encoded in three ways. -/
inductive Encoding where
  | integer
  | dateTime
  | plain
  deriving DecidableEq, Repr

def encodingOf (type : Option String) : Encoding :=
  if type = some "number" ∨ type = some "integer" then .integer
  else if type = some "date-time" then .dateTime
  else .plain

/-- The value stands for the text. -/
inductive Encodes : Encoding → String → AttributeType → Prop
  | integer {text : String} {value : Int} (number : bigInt text = some value) :
      Encodes .integer text (.bigint value)
  | dateTime (text : String) : Encodes .dateTime text (.timestamp text)
  | plain (text : String) : Encodes .plain text (.string text)

theorem convert_iff (type : Option String) (text : String) (value : AttributeType) :
    convert type text = some value ↔ Encodes (encodingOf type) text value := by
  unfold convert encodingOf
  split_ifs with number date
  · rw [Option.map_eq_some_iff]
    constructor
    · rintro ⟨value, found, rfl⟩
      exact .integer found
    · rintro ⟨found⟩
      exact ⟨_, found, rfl⟩
  · constructor
    · rintro ⟨⟩
      exact .dateTime text
    · rintro ⟨⟩
      rfl
  · constructor
    · rintro ⟨⟩
      exact .plain text
    · rintro ⟨⟩
      rfl

/-- A value shows its encoding. -/
theorem Encodes.unique {one other : Encoding} {text : String} {value : AttributeType}
    (first : Encodes one text value) (second : Encodes other text value) : one = other := by
  cases first <;> cases second <;> rfl

/-- Only an integer can fail to be converted. -/
theorem convert_isSome_iff (type : Option String) (text : String) :
    (convert type text).isSome ↔ encodingOf type = .integer → (bigInt text).isSome := by
  unfold convert encodingOf
  split_ifs <;> simp

/-- A list is converted when each of its elements is. -/
theorem mapM_eq_some_iff {A B : Type} {f : A → Option B} {list : List A} {values : List B} :
    list.mapM f = some values ↔
      List.Forall₂ (fun element value => f element = some value) list values := by
  induction list generalizing values with
  | nil => simp [eq_comm]
  | cons element list ih =>
      simp only [List.mapM_cons, bind, Option.bind_eq_some_iff, pure, Option.some.injEq, ih]
      constructor
      · rintro ⟨value, first, others, rest, rfl⟩
        exact .cons first rest
      · rintro (_ | ⟨first, rest⟩)
        exact ⟨_, first, _, rest, rfl⟩

theorem mapM_isSome_iff {A B : Type} {f : A → Option B} {list : List A} :
    (list.mapM f).isSome ↔ ∀ element ∈ list, (f element).isSome := by
  induction list with
  | nil => simp
  | cons element list ih =>
      rw [List.forall_mem_cons, ← ih, List.mapM_cons]
      cases f element <;> cases list.mapM f <;> simp

/-- Before an option is chosen, the tag of a statement is the title of the first one. -/
def tagOf (first : AttributeOption) : Option AttributeOption → String
  | none => first.value
  | some option => option.label

theorem tagOf_iff (first : AttributeOption) (chosen : Option AttributeOption) :
    tagOf first chosen = (chosen.getD first).label ↔
      chosen.isSome ∨ first.value = first.label := by
  cases chosen <;> simp [tagOf]

/-- The form, the option that was chosen last, and what was chosen when a bound was last typed. -/
structure RangeTrail where
  first : AttributeOption
  form : AttributeInRange
  chosen : Option AttributeOption
  lowerUnder : Option (Option AttributeOption)
  upperUnder : Option (Option AttributeOption)

inductive RangeEvent where
  | select (option : AttributeOption)
  | typeLower (value : String)
  | typeUpper (value : String)
  | add
  deriving DecidableEq, Repr

namespace RangeTrail

def mount (first : AttributeOption) : RangeTrail :=
  ⟨first, .mount first, none, none, none⟩

def step (trail : RangeTrail) : RangeEvent → RangeTrail
  | .select option =>
      { trail with form := trail.form.handleChange option, chosen := some option }
  | .typeLower value =>
      { trail with form := trail.form.onLowerChange value, lowerUnder := some trail.chosen }
  | .typeUpper value =>
      { trail with form := trail.form.onUpperChange value, upperUnder := some trail.chosen }
  | .add => trail

/-- The selection shows the first option until another one is chosen. -/
def current (trail : RangeTrail) : AttributeOption := trail.chosen.getD trail.first

/-- A statement has the tag of the current option, and its bounds are encoded by its type. -/
def Agrees (trail : RangeTrail) (event : RangeEvent) : Prop :=
  event = .add → ∀ statement, trail.form.onClickAdd = some statement →
    ∃ lower upper, statement = .attributeInRange trail.current.label lower upper ∧
      Encodes (encodingOf trail.current.type) trail.form.lower.1 lower ∧
      Encodes (encodingOf trail.current.type) trail.form.upper.1 upper

/-- A bound has no type before it is typed, and the tag of the first option before an option is
chosen. -/
def typeUnder (first : AttributeOption) : Option (Option AttributeOption) → Option String
  | none => none
  | some none => some first.label
  | some (some option) => option.type

/-- An option was chosen, or the first one has its tag as its title, and both bounds were typed for
the encoding of the current option; or a bound is taken for an integer that it is not. -/
def Typed (trail : RangeTrail) (event : RangeEvent) : Prop :=
  event = .add →
    convert (typeUnder trail.first trail.lowerUnder) trail.form.lower.1 = none ∨
      convert (typeUnder trail.first trail.upperUnder) trail.form.upper.1 = none ∨
      (trail.chosen.isSome ∨ trail.first.value = trail.first.label) ∧
        encodingOf (typeUnder trail.first trail.lowerUnder) = encodingOf trail.current.type ∧
        encodingOf (typeUnder trail.first trail.upperUnder) = encodingOf trail.current.type

/-- What the form keeps. -/
structure Kept (trail : RangeTrail) : Prop where
  selected : trail.form.selected =
    (tagOf trail.first trail.chosen, typeUnder trail.first (some trail.chosen))
  lower : trail.form.lower.2 = typeUnder trail.first trail.lowerUnder
  upper : trail.form.upper.2 = typeUnder trail.first trail.upperUnder

theorem mount_kept (first : AttributeOption) : (mount first).Kept := ⟨rfl, rfl, rfl⟩

variable {trail : RangeTrail}

theorem Kept.step (kept : trail.Kept) (event : RangeEvent) : (trail.step event).Kept := by
  obtain ⟨selected, lower, upper⟩ := kept
  have typed : trail.form.selected.2 = typeUnder trail.first (some trail.chosen) := by rw [selected]
  cases event with
  | select option => exact ⟨rfl, lower, upper⟩
  | typeLower value => exact ⟨selected, typed, upper⟩
  | typeUpper value => exact ⟨selected, lower, typed⟩
  | add => exact ⟨selected, lower, upper⟩

/-- A statement is made when both bounds are converted. -/
theorem Kept.onClickAdd_iff (kept : trail.Kept) (statement : AtomicStatement) :
    trail.form.onClickAdd = some statement ↔ ∃ lower upper,
      convert (typeUnder trail.first trail.lowerUnder) trail.form.lower.1 = some lower ∧
        convert (typeUnder trail.first trail.upperUnder) trail.form.upper.1 = some upper ∧
        .attributeInRange (tagOf trail.first trail.chosen) lower upper = statement := by
  simp only [AttributeInRange.onClickAdd, kept.lower, kept.upper, kept.selected, bind,
    Option.bind_eq_some_iff, pure, Option.some.injEq]
  constructor
  · rintro ⟨lower, low, upper, high, same⟩
    exact ⟨lower, upper, low, high, same⟩
  · rintro ⟨lower, upper, low, high, same⟩
    exact ⟨lower, low, upper, high, same⟩

/-- Two converted bounds make a statement that agrees when they are typed. -/
theorem Kept.agrees_iff (kept : trail.Kept) (event : RangeEvent) :
    trail.Agrees event ↔ trail.Typed event := by
  refine forall_congr' fun _ => ?_
  cases low : convert (typeUnder trail.first trail.lowerUnder) trail.form.lower.1 with
  | none => simp [kept.onClickAdd_iff, low]
  | some lower =>
      cases high : convert (typeUnder trail.first trail.upperUnder) trail.form.upper.1 with
      | none => simp [kept.onClickAdd_iff, high]
      | some upper =>
          have lowers := (convert_iff _ _ _).mp low
          have uppers := (convert_iff _ _ _).mp high
          have made := (kept.onClickAdd_iff _).mpr ⟨lower, upper, low, high, rfl⟩
          rw [made, ← tagOf_iff]
          constructor
          · intro agrees
            obtain ⟨_, _, same, least, greatest⟩ := agrees _ rfl
            obtain ⟨tag, rfl, rfl⟩ := AtomicStatement.attributeInRange.inj same
            exact .inr (.inr ⟨tag, lowers.unique least, uppers.unique greatest⟩)
          · rintro (missing | missing | ⟨tag, least, greatest⟩) statement same
            · cases missing
            · cases missing
            · cases same
              exact ⟨lower, upper, by rw [tag]; rfl, least ▸ lowers, greatest ▸ uppers⟩

end RangeTrail

/-- The form is gone once its rendering has thrown. -/
structure SetTrail where
  first : AttributeOption
  form : Option AttributeInSet
  chosen : Option AttributeOption

inductive SetEvent where
  | select (option : AttributeOption)
  | type (value : String)
  | add
  deriving DecidableEq, Repr

namespace SetTrail

/-- A form stays when it can be rendered. -/
def render (form : AttributeInSet) : Option AttributeInSet :=
  if form.proofSet.isSome then some form else none

def mount (first : AttributeOption) : SetTrail := ⟨first, render (.mount first), none⟩

def step (trail : SetTrail) : SetEvent → SetTrail
  | .select option =>
      { trail with
        form := trail.form.bind fun form => render (form.handleChange option)
        chosen := some option }
  | .type value =>
      { trail with form := trail.form.bind fun form => render (form.onSetChange value) }
  | .add => trail

def current (trail : SetTrail) : AttributeOption := trail.chosen.getD trail.first

/-- The statements of the two kinds of the form. -/
def statement (member : Bool) (attributeTag : String) (set : List AttributeType) :
    AtomicStatement :=
  if member then .attributeInSet attributeTag set else .attributeNotInSet attributeTag set

/-- An event other than an add keeps the form. A statement has the tag of the current option, and
its elements are encoded by its type. -/
def Agrees (member : Bool) (trail : SetTrail) (event : SetEvent) : Prop :=
  (trail.step event).form.isSome ∧
    (event = .add → ∀ form ∈ trail.form, ∀ made, form.onClickAdd member = some made →
      ∃ set, made = statement member trail.current.label set ∧
        List.Forall₂ (Encodes (encodingOf trail.current.type)) (AttributeInSet.elements form.set)
          set)

/-- Every element of the text is an integer when the type asks for one. -/
def Convertible (type : Option String) (set : String) : Prop :=
  encodingOf type = .integer → ∀ element ∈ AttributeInSet.elements set, (bigInt element).isSome

/-- A choice finds a text for its type, a text is typed for the type of the current option, and a
statement is added after a choice or for a first option that has its tag as its title. -/
def Typed (trail : SetTrail) : SetEvent → Prop
  | .select option => ∀ form ∈ trail.form, Convertible option.type form.set
  | .type value => Convertible trail.current.type value
  | .add => trail.chosen.isSome ∨ trail.first.value = trail.first.label

/-- The form is there, and its type is the one of the current option. -/
structure Kept (trail : SetTrail) (form : AttributeInSet) : Prop where
  shown : trail.form = some form
  selected : form.selected = (tagOf trail.first trail.chosen, trail.current.type)
  rendered : form.proofSet.isSome

/-- A form can be rendered when its text can be converted. -/
theorem proofSet_isSome_iff (form : AttributeInSet) :
    form.proofSet.isSome ↔ Convertible form.selected.2 form.set := by
  rw [AttributeInSet.proofSet, mapM_isSome_iff]
  simp only [convert_isSome_iff, Convertible]
  exact ⟨fun every integer element listed => every element listed integer,
    fun every element listed integer => every integer element listed⟩

theorem render_isSome_iff (form : AttributeInSet) :
    (render form).isSome ↔ Convertible form.selected.2 form.set := by
  rw [← proofSet_isSome_iff, render]
  split <;> simp [*]

theorem render_eq {form : AttributeInSet} (rendered : form.proofSet.isSome) :
    render form = some form := if_pos rendered

/-- The empty text is zero. -/
theorem mount_kept (first : AttributeOption) : (mount first).Kept (.mount first) := by
  have rendered : (AttributeInSet.mount first).proofSet.isSome := by
    rw [proofSet_isSome_iff]
    intro _ element listed
    have single : AttributeInSet.elements "" = [""] := by decide
    rw [AttributeInSet.mount, single, List.mem_singleton] at listed
    rw [listed]
    decide
  exact ⟨render_eq rendered, rfl, rendered⟩

variable {trail : SetTrail} {form : AttributeInSet}

/-- The statement has the converted elements under the tag of the form. -/
theorem Kept.onClickAdd_iff (kept : trail.Kept form) (member : Bool) (made : AtomicStatement) :
    form.onClickAdd member = some made ↔ ∃ set,
      List.Forall₂ (Encodes (encodingOf trail.current.type)) (AttributeInSet.elements form.set) set ∧
        statement member (tagOf trail.first trail.chosen) set = made := by
  rw [AttributeInSet.onClickAdd, Option.map_eq_some_iff]
  simp only [AttributeInSet.proofSet, mapM_eq_some_iff, kept.selected, convert_iff]
  rfl

theorem statement_tag {member : Bool} {one other : String} {set elements : List AttributeType}
    (same : statement member one set = statement member other elements) : one = other := by
  cases member <;> cases same <;> rfl

/-- An add agrees when its tag is the one of the current option. -/
theorem Kept.add_iff (kept : trail.Kept form) (member : Bool) :
    trail.Agrees member .add ↔ trail.Typed .add := by
  have shown : (trail.step .add).form.isSome := by
    rw [SetTrail.step, kept.shown]
    rfl
  rw [Agrees, and_iff_right shown, Typed, ← tagOf_iff, kept.shown]
  constructor
  · intro agrees
    obtain ⟨made, added⟩ : ∃ made, form.onClickAdd member = some made := by
      obtain ⟨set, converted⟩ := Option.isSome_iff_exists.mp kept.rendered
      exact ⟨_, by rw [AttributeInSet.onClickAdd, converted]; rfl⟩
    obtain ⟨elements, -, own⟩ := (kept.onClickAdd_iff member made).mp added
    obtain ⟨set, same, -⟩ := agrees rfl form rfl made added
    exact statement_tag (own.trans same)
  · intro tag _ other shown made added
    cases shown
    obtain ⟨set, encoded, own⟩ := (kept.onClickAdd_iff member made).mp added
    exact ⟨set, by rw [← own, tag]; rfl, encoded⟩

/-- The other events agree when the form is rendered after them. -/
theorem Kept.rendered_iff (kept : trail.Kept form) (member : Bool) {event : SetEvent}
    (other : event ≠ .add) : trail.Agrees member event ↔ trail.Typed event := by
  rw [Agrees, and_iff_left fun add => absurd add other]
  cases event with
  | select option =>
      simp only [SetTrail.step, kept.shown, Option.bind_some, render_isSome_iff, Typed]
      simp [AttributeInSet.handleChange]
  | type value =>
      simp only [SetTrail.step, kept.shown, Option.bind_some, render_isSome_iff, Typed]
      simp [AttributeInSet.onSetChange, kept.selected]
  | add => exact absurd rfl other

theorem Kept.agrees_iff (kept : trail.Kept form) (member : Bool) (event : SetEvent) :
    trail.Agrees member event ↔ trail.Typed event := by
  by_cases add : event = .add
  · rw [add]
    exact kept.add_iff member
  · exact kept.rendered_iff member add

/-- A typed event keeps the form and its type. -/
theorem Kept.step (kept : trail.Kept form) {event : SetEvent} (typed : trail.Typed event) :
    ∃ next, (trail.step event).Kept next := by
  cases event with
  | select option =>
      have rendered : (form.handleChange option).proofSet.isSome :=
        (proofSet_isSome_iff _).mpr (typed form kept.shown)
      refine ⟨form.handleChange option, ?_, rfl, rendered⟩
      simp [SetTrail.step, kept.shown, render_eq rendered]
  | type value =>
      have rendered : (form.onSetChange value).proofSet.isSome := by
        have convertible : Convertible trail.current.type value := typed
        rw [proofSet_isSome_iff]
        simpa [AttributeInSet.onSetChange, kept.selected] using convertible
      refine ⟨form.onSetChange value, ?_, kept.selected, rendered⟩
      simp [SetTrail.step, kept.shown, render_eq rendered]
  | add => exact ⟨form, kept.shown, kept.selected, kept.rendered⟩

end SetTrail

/-- No event but an add throws, and every statement of the two forms has the tag of the current
option and encodes its texts by its type, exactly when every event of the two is typed. -/
theorem typedForms_agree (first : AttributeOption) (member : Bool) :
    (∀ events, PressHistory.Each RangeTrail.step RangeTrail.Agrees (.mount first) events ↔
      PressHistory.Each RangeTrail.step RangeTrail.Typed (.mount first) events) ∧
    ∀ events, PressHistory.Each SetTrail.step (SetTrail.Agrees member) (.mount first) events ↔
      PressHistory.Each SetTrail.step SetTrail.Typed (.mount first) events := by
  constructor
  · have keeps (trail : RangeTrail) (event : RangeEvent) (kept : trail.Kept)
        (_ : trail.Typed event) : (trail.step event).Kept := kept.step event
    have means (trail : RangeTrail) (event : RangeEvent) (kept : trail.Kept) :
        trail.Agrees event ↔ trail.Typed event := kept.agrees_iff event
    exact PressHistory.each_congr keeps means (RangeTrail.mount_kept first)
  · have keeps (trail : SetTrail) (event : SetEvent) (kept : ∃ form, trail.Kept form)
        (typed : trail.Typed event) : ∃ form, (trail.step event).Kept form :=
      kept.elim fun _ kept => kept.step typed
    have means (trail : SetTrail) (event : SetEvent) (kept : ∃ form, trail.Kept form) :
        trail.Agrees member event ↔ trail.Typed event :=
      kept.elim fun _ kept => kept.agrees_iff member event
    exact PressHistory.each_congr keeps means ⟨_, SetTrail.mount_kept first⟩

/-- The first option is added under its title, and the sign of a negative number ends the form. -/
theorem typedForms_disagree :
    ¬PressHistory.Each RangeTrail.step RangeTrail.Agrees
        (.mount ⟨"Age of the holder", "age", some "integer"⟩) [.add] ∧
      ¬PressHistory.Each SetTrail.step (SetTrail.Agrees true)
        (.mount ⟨"Age of the holder", "age", some "integer"⟩) [.type "-"] := by
  constructor
  · rintro ⟨agrees, -⟩
    obtain ⟨lower, upper, same, -⟩ := agrees rfl _ rfl
    obtain ⟨tag, -⟩ := AtomicStatement.attributeInRange.inj same
    exact absurd tag (by decide)
  · rintro ⟨⟨shown, -⟩, -⟩
    exact absurd shown (by decide)

end Web3Id.ProofExplorer
