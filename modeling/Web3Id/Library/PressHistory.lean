import Mathlib.Data.List.Basic
import Mathlib.Tactic.Common

namespace Web3Id.Library

variable {State Event : Type*}

namespace PressHistory

variable (step : State → Event → State)

/-- The state after the events of a history. -/
def after (start : State) (events : List Event) : State := events.foldl step start

/-- Each event of the history has the property in the state in which it happens. -/
def Each (holds : State → Event → Prop) : State → List Event → Prop
  | _, [] => True
  | state, event :: events => holds state event ∧ Each holds (step state event) events

/-- What the events of the history show, from the first to the last. -/
def collected {Value : Type*} (shows : State → Event → Option Value) :
    State → List Event → List Value
  | _, [] => []
  | state, event :: events =>
      (shows state event).toList ++ collected shows (step state event) events

end PressHistory

namespace PressHistory

variable {step : State → Event → State} {holds good : State → Event → Prop}

@[simp] theorem after_cons (start : State) (event : Event) (events : List Event) :
    after step start (event :: events) = after step (step start event) events := rfl

/-- A property that keeps the invariant may be replaced by what it means under the invariant. -/
theorem each_congr {kept : State → Prop}
    (keeps : ∀ state event, kept state → holds state event → kept (step state event))
    (means : ∀ state event, kept state → (good state event ↔ holds state event)) {start : State}
    (initial : kept start) (events : List Event) :
    Each step good start events ↔ Each step holds start events := by
  induction events generalizing start with
  | nil => exact Iff.rfl
  | cons event events ih =>
      rw [Each, Each, means start event initial]
      exact and_congr_right fun now => ih (keeps start event initial now)

/-- A field that takes what an event shows has the last value that was shown. -/
theorem field_after {Value : Type*} {shows : State → Event → Option Value} {field : State → Value}
    (takes : ∀ state event, field (step state event) = (shows state event).getD (field state))
    (start : State) (events : List Event) :
    field (after step start events) =
      (collected step shows start events).getLast?.getD (field start) := by
  induction events generalizing start with
  | nil => rfl
  | cons event events ih =>
      rw [after_cons, ih, takes, collected]
      cases shows start event with
      | none => simp
      | some value =>
          cases later : collected step shows (step start event) events with
          | nil => simp
          | cons first others => simp [List.getLast?_eq_some_getLast]

/-- A field that no event changes stays as it was. -/
theorem field_kept {Value : Type*} {field : State → Value}
    (kept : ∀ state event, field (step state event) = field state) (start : State)
    (events : List Event) : field (after step start events) = field start := by
  induction events generalizing start with
  | nil => rfl
  | cons event events ih => rw [after_cons, ih, kept]

end PressHistory

end Web3Id.Library
