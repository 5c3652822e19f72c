import Mathlib.Logic.Relation

namespace Web3Id.Library

variable {State Event : Type*}

/-- An execution performs the listed events one after the other. -/
inductive Execution (step : State → Event → State → Prop) : State → List Event → State → Prop
  | done (state : State) : Execution step state [] state
  | next {first second last : State} {event : Event} {events : List Event}
      (head : step first event second) (tail : Execution step second events last) :
      Execution step first (event :: events) last

namespace Execution

variable {step : State → Event → State → Prop}

/-- One step is an execution of one event. -/
theorem single {first last : State} {event : Event} (head : step first event last) :
    Execution step first [event] last := .next head (.done last)

/-- Two executions compose at their common state. -/
theorem append {first second last : State} {before after : List Event}
    (left : Execution step first before second) (right : Execution step second after last) :
    Execution step first (before ++ after) last := by
  induction left with
  | done state => exact right
  | next head _ ih => exact .next head (ih right)

/-- A property that every step of an execution preserves at its place holds at the end. -/
theorem invariant_at {holds : State → Prop} {start last : State} {events : List Event}
    (preserved : ∀ before event after first second, events = before ++ event :: after →
      Execution step start before first → holds first → step first event second → holds second)
    (run : Execution step start events last) (begins : holds start) : holds last := by
  suffices ∀ first rest, Execution step first rest last → ∀ before, events = before ++ rest →
      Execution step start before first → holds first → holds last from
    this start events run [] rfl (.done start) begins
  clear run
  intro first rest tail
  -- The part before grows by one event with every step of the rest.
  induction tail with
  | done state => exact fun _ _ _ held => held
  | @next first second _ event rest head _ ih =>
      intro before split left held
      have next : events = (before ++ [event]) ++ rest := by rw [split, List.append_cons]
      exact ih (before ++ [event]) next (left.append (.single head))
        (preserved before event rest first second split left held head)

/-- A property that the steps of good events preserve holds at the end of their executions. -/
theorem invariant_of {holds : State → Prop} (good : Event → Prop)
    (preserved : ∀ first event second, good event → holds first → step first event second →
      holds second)
    {first last : State} {events : List Event} (run : Execution step first events last)
    (all : ∀ event ∈ events, good event) (start : holds first) : holds last := by
  refine run.invariant_at ?_ start
  rintro before event after first second rfl - held head
  exact preserved first event second (all event (by simp)) held head

/-- A property that every step preserves holds at the end of an execution. -/
theorem invariant {holds : State → Prop}
    (preserved : ∀ first event second, holds first → step first event second → holds second)
    {first last : State} {events : List Event} (run : Execution step first events last)
    (start : holds first) : holds last :=
  run.invariant_of (fun _ => True) (fun first event second _ => preserved first event second)
    (fun _ _ => trivial) start

/-- What every step shows of its event, from an invariant, holds of every event of an execution. -/
theorem shown {holds : State → Prop} {good : Event → Prop}
    (shows : ∀ first event second, holds first → step first event second →
      good event ∧ holds second)
    {first last : State} {events : List Event} (run : Execution step first events last)
    (start : holds first) : ∀ event ∈ events, good event := by
  induction run with
  | done state => simp
  | next head _ ih =>
      obtain ⟨now, later⟩ := shows _ _ _ start head
      exact List.forall_mem_cons.mpr ⟨now, ih later⟩

/-- A weaker step relation has every execution of the stronger one. -/
theorem mono {weaker : State → Event → State → Prop}
    (implies : ∀ first event second, step first event second → weaker first event second)
    {first last : State} {events : List Event} (run : Execution step first events last) :
    Execution weaker first events last := by
  induction run with
  | done state => exact .done state
  | next head _ ih => exact .next (implies _ _ _ head) ih

/-- A loop that succeeds is an execution of its steps. -/
theorem of_foldlM {Error : Type*} {step : State → Event → Except Error State}
    {relation : State → Event → State → Prop}
    (performs : ∀ first event second, step first event = .ok second → relation first event second)
    {first last : State} {events : List Event} (folded : events.foldlM step first = .ok last) :
    Execution relation first events last := by
  induction events generalizing first with
  | nil =>
      cases folded
      exact .done _
  | cons event events ih =>
      rw [List.foldlM_cons] at folded
      cases head : step first event with
      | error error =>
          rw [head] at folded
          nomatch folded
      | ok second =>
          rw [head] at folded
          exact .next (performs _ _ _ head) (ih folded)

/-- A fold that does not get stuck is an execution of its steps. -/
theorem of_foldlM_some {step : State → Event → Option State} {first last : State}
    {events : List Event} (folded : events.foldlM step first = some last) :
    Execution (fun first event second => step first event = some second) first events last := by
  induction events generalizing first with
  | nil =>
      cases folded
      exact .done _
  | cons event events ih =>
      obtain ⟨second, head, tail⟩ := Option.bind_eq_some_iff.mp folded
      exact .next head (ih tail)

end Execution

end Web3Id.Library
