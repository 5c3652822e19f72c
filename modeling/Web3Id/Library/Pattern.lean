import Mathlib.Data.List.Basic
import Mathlib.Logic.Relation
import Mathlib.Tactic.Common

namespace Web3Id.Library

/-- The patterns of regular expressions with lookahead. -/
inductive Pattern where
  | empty
  | one (allows : Char → Bool)
  | sequence (first second : Pattern)
  | oneOrMore (body : Pattern)
  | ahead (body : Pattern)
  | notAhead (body : Pattern)

namespace Pattern

def times (body : Pattern) : Nat → Pattern
  | 0 => .empty
  | count + 1 => .sequence body (times body count)

/-- Repetitions take as much as they can, and none of them takes nothing. -/
def many (step : List Char → List (List Char)) : Nat → List Char → List (List Char)
  | 0, text => [text]
  | fuel + 1, text =>
      ((step text).filter fun rest => rest.length < text.length).flatMap (many step fuel) ++ [text]

/-- What can remain after a match at the start, in the order of a matcher that backtracks. -/
def rests : Pattern → List Char → List (List Char)
  | .empty, text => [text]
  | .one _, [] => []
  | .one allows, c :: text => if allows c then [text] else []
  | .sequence first second, text => (first.rests text).flatMap second.rests
  | .oneOrMore body, text =>
      (body.rests text).flatMap fun rest => many body.rests rest.length rest
  | .ahead body, text => if (body.rests text).isEmpty then [] else [text]
  | .notAhead body, text => if (body.rests text).isEmpty then [text] else []

/-- The replacement of every match. The count is of characters that the last match still takes. -/
def replaceFrom (pattern : Pattern) (replacement : List Char → List Char) :
    Nat → List Char → List Char
  | 0, [] => if (pattern.rests []).isEmpty then [] else replacement []
  | _ + 1, [] => []
  | taken + 1, _ :: text => replaceFrom pattern replacement taken text
  | 0, c :: text =>
      match (pattern.rests (c :: text)).head? with
      | none => c :: replaceFrom pattern replacement 0 text
      | some rest =>
          match (c :: text).length - rest.length with
          | 0 => replacement [] ++ c :: replaceFrom pattern replacement 0 text
          | taken + 1 =>
              replacement ((c :: text).take (taken + 1)) ++
                replaceFrom pattern replacement taken text

def replaceAll (pattern : Pattern) (replacement : List Char → List Char) (text : List Char) :
    List Char :=
  pattern.replaceFrom replacement 0 text

section Replacement

variable {pattern : Pattern} (replacement : List Char → List Char) {c : Char} {text : List Char}

theorem replaceAll_of_one (found : pattern.rests (c :: text) = [text]) :
    pattern.replaceAll replacement (c :: text) =
      replacement [c] ++ pattern.replaceAll replacement text := by
  simp [replaceAll, replaceFrom, found]

theorem replaceAll_of_none (none : pattern.rests (c :: text) = []) :
    pattern.replaceAll replacement (c :: text) = c :: pattern.replaceAll replacement text := by
  simp [replaceAll, replaceFrom, none]

end Replacement

theorem length_le_of_mem_many {step : List Char → List (List Char)}
    (keeps : ∀ text, ∀ rest ∈ step text, rest.length ≤ text.length) {fuel : Nat}
    {text rest : List Char} (member : rest ∈ many step fuel text) : rest.length ≤ text.length := by
  induction fuel generalizing text with
  | zero =>
      rw [many, List.mem_singleton] at member
      exact Nat.le_of_eq (congrArg List.length member)
  | succ fuel ih =>
      rw [many, List.mem_append, List.mem_singleton, List.mem_flatMap] at member
      rcases member with ⟨middle, kept, member⟩ | same
      · exact Nat.le_trans (ih member) (keeps text middle (List.mem_filter.mp kept).1)
      · exact Nat.le_of_eq (congrArg List.length same)

/-- A match never adds to the text. -/
theorem length_le_of_mem_rests (pattern : Pattern) {text rest : List Char}
    (member : rest ∈ pattern.rests text) : rest.length ≤ text.length := by
  induction pattern generalizing text rest with
  | empty =>
      rw [rests, List.mem_singleton] at member
      exact Nat.le_of_eq (congrArg List.length member)
  | one allows =>
      cases text with
      | nil => cases member
      | cons c text =>
          rw [rests] at member
          split at member
          · rw [List.mem_singleton.mp member]
            exact Nat.le_succ _
          · cases member
  | sequence first second left right =>
      obtain ⟨middle, one, other⟩ := List.mem_flatMap.mp member
      exact Nat.le_trans (right other) (left one)
  | oneOrMore body ih =>
      obtain ⟨middle, one, others⟩ := List.mem_flatMap.mp member
      exact Nat.le_trans (length_le_of_mem_many (fun _ _ step => ih step) others) (ih one)
  | ahead body ih =>
      rw [rests] at member
      split at member
      · cases member
      · exact Nat.le_of_eq (congrArg List.length (List.mem_singleton.mp member))
  | notAhead body ih =>
      rw [rests] at member
      split at member
      · exact Nat.le_of_eq (congrArg List.length (List.mem_singleton.mp member))
      · cases member

/-- Every match takes at least one character. -/
def Consumes (pattern : Pattern) : Prop :=
  ∀ text, ∀ rest ∈ pattern.rests text, rest.length < text.length

theorem one_consumes (allows : Char → Bool) : (one allows).Consumes := by
  intro text rest member
  cases text with
  | nil => cases member
  | cons c text =>
      rw [rests] at member
      split at member
      · rw [List.mem_singleton.mp member]
        exact Nat.lt_succ_self _
      · cases member

theorem Consumes.sequence {first : Pattern} (consumes : first.Consumes) (second : Pattern) :
    (first.sequence second).Consumes := by
  intro text rest member
  obtain ⟨middle, one, other⟩ := List.mem_flatMap.mp member
  exact Nat.lt_of_le_of_lt (length_le_of_mem_rests second other) (consumes text middle one)

theorem Consumes.times {body : Pattern} (consumes : body.Consumes) (count : Nat) :
    (body.times (count + 1)).Consumes := consumes.sequence _

/-- One match leaves the rest of the text. -/
def Leaves (pattern : Pattern) (text rest : List Char) : Prop := rest ∈ pattern.rests text

section Repetition

variable {body : Pattern} {text rest : List Char}

theorem mem_sequence {first second : Pattern} :
    rest ∈ (first.sequence second).rests text ↔
      ∃ middle ∈ first.rests text, rest ∈ second.rests middle := by
  simp [rests, List.mem_flatMap]

theorem mem_many (consumes : body.Consumes) {fuel : Nat} (enough : text.length ≤ fuel) :
    rest ∈ many body.rests fuel text ↔ Relation.ReflTransGen body.Leaves text rest := by
  induction fuel generalizing text with
  | zero =>
      have nothing : text = [] := List.eq_nil_of_length_eq_zero (Nat.le_zero.mp enough)
      subst nothing
      constructor
      · intro member
        rw [List.mem_singleton.mp member]
      · intro steps
        rcases steps.cases_head with same | ⟨middle, step, _⟩
        · rw [← same]
          exact List.mem_singleton_self _
        · exact absurd (consumes _ _ step) (Nat.not_lt_zero _)
  | succ fuel ih =>
      have inner {middle : List Char} (step : body.Leaves text middle) :
          rest ∈ many body.rests fuel middle ↔ Relation.ReflTransGen body.Leaves middle rest := by
        have shorter := consumes _ _ step
        exact ih (by omega)
      rw [many, List.mem_append, List.mem_singleton, List.mem_flatMap]
      constructor
      · rintro (⟨middle, kept, member⟩ | same)
        · have step := (List.mem_filter.mp kept).1
          exact .head step ((inner step).mp member)
        · rw [same]
      · intro steps
        rcases steps.cases_head with same | ⟨middle, step, others⟩
        · exact .inr same.symm
        · refine .inl ⟨middle, List.mem_filter.mpr ⟨step, ?_⟩, (inner step).mpr others⟩
          exact decide_eq_true (consumes _ _ step)

/-- One or more repetitions are a chain of matches. -/
theorem mem_oneOrMore (consumes : body.Consumes) :
    rest ∈ body.oneOrMore.rests text ↔ Relation.TransGen body.Leaves text rest := by
  rw [rests, List.mem_flatMap, Relation.TransGen.head'_iff]
  exact exists_congr fun middle => and_congr_right fun _ => mem_many consumes (Nat.le_refl _)

end Repetition

section Runs

variable {allows : Char → Bool} {text : List Char}

/-- A run of allowed characters is taken from the front. -/
theorem mem_times_one (all : ∀ c ∈ text, allows c) (count : Nat) (rest : List Char) :
    rest ∈ ((one allows).times count).rests text ↔
      count ≤ text.length ∧ rest = text.drop count := by
  induction count generalizing text with
  | zero => simp [times, rests]
  | succ count ih =>
      rw [times, mem_sequence]
      cases text with
      | nil => simp [rests]
      | cons c text =>
          obtain ⟨first, others⟩ := List.forall_mem_cons.mp all
          simp [rests, first, ih others]

/-- Repeated runs of one length take a multiple of it. -/
theorem mem_oneOrMore_times (all : ∀ c ∈ text, allows c) (size : Nat) (rest : List Char) :
    rest ∈ ((one allows).times (size + 1)).oneOrMore.rests text ↔
      ∃ count, (count + 1) * (size + 1) ≤ text.length ∧
        rest = text.drop ((count + 1) * (size + 1)) := by
  have step {start : List Char} (allowed : ∀ c ∈ start, allows c) (next : List Char) :
      ((one allows).times (size + 1)).Leaves start next ↔
        size + 1 ≤ start.length ∧ next = start.drop (size + 1) :=
    mem_times_one allowed (size + 1) next
  rw [mem_oneOrMore ((one_consumes allows).times size)]
  constructor
  · intro chain
    induction chain with
    | single one =>
        obtain ⟨enough, same⟩ := (step all _).mp one
        exact ⟨0, by simpa using enough, by simpa using same⟩
    | tail _ next ih =>
        obtain ⟨count, enough, rfl⟩ := ih
        obtain ⟨more, same⟩ :=
          (step (fun c member => all c (List.mem_of_mem_drop member)) _).mp next
        rw [List.length_drop] at more
        rw [List.drop_drop] at same
        have grown : (count + 1 + 1) * (size + 1) = (count + 1) * (size + 1) + (size + 1) :=
          Nat.succ_mul _ _
        exact ⟨count + 1, by omega, by rw [same, grown]⟩
  · rintro ⟨count, enough, rfl⟩
    induction count with
    | zero => exact .single ((step all _).mpr ⟨by simpa using enough, by simp⟩)
    | succ count ih =>
        have grown : (count + 1 + 1) * (size + 1) = (count + 1) * (size + 1) + (size + 1) :=
          Nat.succ_mul _ _
        refine .tail (ih (by omega)) ((step ?_ _).mpr ⟨?_, ?_⟩)
        · exact fun c member => all c (List.mem_of_mem_drop member)
        · rw [List.length_drop]
          omega
        · rw [List.drop_drop, ← grown]

/-- Nothing allowed comes next in a run of allowed characters only at its end. -/
theorem rests_notAhead_one (all : ∀ c ∈ text, allows c) :
    (one allows).notAhead.rests text = if text = [] then [[]] else [] := by
  cases text with
  | nil => rfl
  | cons c text => simp [rests, all c (List.mem_cons_self ..)]

/-- Parts of one length can fill a run up to its end when they fill all of it. -/
theorem mem_filled (all : ∀ c ∈ text, allows c) (size : Nat) (rest : List Char) :
    rest ∈ (sequence ((one allows).times (size + 1)).oneOrMore (one allows).notAhead).rests text ↔
      rest = [] ∧ text ≠ [] ∧ size + 1 ∣ text.length := by
  rw [mem_sequence]
  constructor
  · rintro ⟨middle, repeated, ended⟩
    obtain ⟨count, enough, rfl⟩ := (mem_oneOrMore_times all size middle).mp repeated
    rw [rests_notAhead_one fun c member => all c (List.mem_of_mem_drop member)] at ended
    split at ended
    · rename_i nothing
      have length : text.length = (size + 1) * (count + 1) := by
        have most := List.drop_eq_nil_iff.mp nothing
        rw [Nat.mul_comm]
        omega
      refine ⟨List.mem_singleton.mp ended, ?_, ⟨count + 1, length⟩⟩
      rintro rfl
      exact absurd length (Nat.ne_of_lt (Nat.mul_pos (Nat.succ_pos _) (Nat.succ_pos _)))
    · cases ended
  · rintro ⟨rfl, nonempty, count, length⟩
    cases count with
    | zero => exact absurd (List.eq_nil_of_length_eq_zero length) nonempty
    | succ count =>
        rw [Nat.mul_comm] at length
        have whole : text.drop ((count + 1) * (size + 1)) = [] := by
          rw [← length, List.drop_length]
        refine ⟨[], (mem_oneOrMore_times all size _).mpr ⟨count, ?_, whole.symm⟩, ?_⟩
        · omega
        · exact List.mem_singleton_self _

/-- One character before parts that fill the rest of a run. -/
theorem rests_one_ahead {c : Char} (all : ∀ d ∈ c :: text, allows d) (size : Nat) :
    (sequence (one allows) (ahead (sequence ((one allows).times (size + 1)).oneOrMore
      (one allows).notAhead))).rests (c :: text) =
        if text ≠ [] ∧ size + 1 ∣ text.length then [text] else [] := by
  obtain ⟨first, others⟩ := List.forall_mem_cons.mp all
  have found : ((sequence ((one allows).times (size + 1)).oneOrMore
      (one allows).notAhead).rests text).isEmpty = true ↔
        ¬(text ≠ [] ∧ size + 1 ∣ text.length) := by
    rw [List.isEmpty_iff, List.eq_nil_iff_forall_not_mem]
    simp only [mem_filled others]
    exact ⟨fun none filled => none [] ⟨rfl, filled⟩, fun unfilled _ member => unfilled member.2⟩
  rw [rests, rests, if_pos first, List.flatMap_singleton, rests]
  by_cases filled : text ≠ [] ∧ size + 1 ∣ text.length
  · rw [if_neg fun empty => found.mp empty filled, if_pos filled]
  · rw [if_pos (found.mpr filled), if_neg filled]

end Runs

end Pattern

end Web3Id.Library
