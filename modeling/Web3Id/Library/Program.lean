import Mathlib.Control.Basic

namespace Web3Id.Library

/-- A program returns a value or issues one call and continues with its reply. -/
inductive Program (Call : Type) (Reply : Call → Type) (A : Type) where
  | pure (value : A)
  | call (request : Call) (next : Reply request → Program Call Reply A)

namespace Program

variable {Call Other : Type} {Reply : Call → Type} {OtherReply : Other → Type} {A B State : Type}

/-- The continuation runs on the value that the first program returns. -/
def bind : Program Call Reply A → (A → Program Call Reply B) → Program Call Reply B
  | .pure value, next => next value
  | .call request rest, next => .call request fun reply => (rest reply).bind next

instance : Monad (Program Call Reply) where
  pure := .pure
  bind := .bind

@[simp] theorem pure_eq (value : A) :
    (Pure.pure value : Program Call Reply A) = .pure value := rfl

@[simp] theorem pure_bind (value : A) (next : A → Program Call Reply B) :
    (Program.pure value >>= next) = next value := rfl

@[simp] theorem call_bind (request : Call) (rest : Reply request → Program Call Reply A)
    (next : A → Program Call Reply B) :
    (Program.call request rest >>= next) = .call request fun reply => rest reply >>= next := rfl

/-- The handler answers each call and carries its own state along. -/
def run (handler : State → (request : Call) → Reply request × State) :
    State → Program Call Reply A → A × State
  | state, .pure value => (value, state)
  | state, .call request next =>
      run handler (handler state request).2 (next (handler state request).1)

@[simp] theorem run_pure (handler : State → (request : Call) → Reply request × State)
    (state : State) (value : A) : run handler state (.pure value) = (value, state) := rfl

@[simp] theorem run_call (handler : State → (request : Call) → Reply request × State)
    (state : State) (request : Call) (next : Reply request → Program Call Reply A) :
    run handler state (.call request next) =
      run handler (handler state request).2 (next (handler state request).1) := rfl

/-- A sequence runs its second part from the state that the first part leaves. -/
theorem run_bind (handler : State → (request : Call) → Reply request × State)
    (program : Program Call Reply A) (next : A → Program Call Reply B) (state : State) :
    run handler state (program >>= next) =
      run handler (run handler state program).2 (next (run handler state program).1) := by
  induction program generalizing state with
  | pure value => rfl
  | call request rest ih => exact ih _ _

/-- The replies are fixed for every call. -/
def answeredBy (replies : (request : Call) → Reply request) : Program Call Reply A → A
  | .pure value => value
  | .call request next => (next (replies request)).answeredBy replies

@[simp] theorem answeredBy_pure (replies : (request : Call) → Reply request) (value : A) :
    (Program.pure value).answeredBy replies = value := rfl

@[simp] theorem answeredBy_call (replies : (request : Call) → Reply request) (request : Call)
    (next : Reply request → Program Call Reply A) :
    (Program.call request next).answeredBy replies =
      (next (replies request)).answeredBy replies := rfl

/-- A sequence goes on with the value that its first part returns. -/
@[simp] theorem answeredBy_bind (replies : (request : Call) → Reply request)
    (program : Program Call Reply A) (next : A → Program Call Reply B) :
    (program >>= next).answeredBy replies =
      (next (program.answeredBy replies)).answeredBy replies := by
  induction program with
  | pure value => rfl
  | call request rest ih => exact ih _

/-- The first call of a program, if it makes one. -/
def firstCall : Program Call Reply A → Option Call
  | .pure _ => none
  | .call request _ => some request

/-- Each call becomes a call of another interface, whose reply is read back. -/
def hoist (forward : Call → Other)
    (back : (request : Call) → OtherReply (forward request) → Reply request) :
    Program Call Reply A → Program Other OtherReply A
  | .pure value => .pure value
  | .call request next =>
      .call (forward request) fun reply => (next (back request reply)).hoist forward back

@[simp] theorem hoist_pure (forward : Call → Other)
    (back : (request : Call) → OtherReply (forward request) → Reply request) (value : A) :
    (Program.pure value : Program Call Reply A).hoist forward back = .pure value := rfl

@[simp] theorem hoist_call (forward : Call → Other)
    (back : (request : Call) → OtherReply (forward request) → Reply request) (request : Call)
    (next : Reply request → Program Call Reply A) :
    (Program.call request next).hoist forward back =
      .call (forward request) fun reply => (next (back request reply)).hoist forward back := rfl

@[simp] theorem answeredBy_hoist (forward : Call → Other)
    (back : (request : Call) → OtherReply (forward request) → Reply request)
    (replies : (request : Other) → OtherReply request) (program : Program Call Reply A) :
    (program.hoist forward back).answeredBy replies =
      program.answeredBy fun request => back request (replies (forward request)) := by
  induction program with
  | pure value => rfl
  | call request rest ih => exact ih _

/-- The programs return the list of their values. -/
def joinAll : List (Program Call Reply A) → Program Call Reply (List A)
  | [] => .pure []
  | program :: programs => do
      let value ← program
      let values ← joinAll programs
      return value :: values

@[simp] theorem answeredBy_joinAll (replies : (request : Call) → Reply request)
    (programs : List (Program Call Reply A)) :
    (joinAll programs).answeredBy replies =
      programs.map fun program => program.answeredBy replies := by
  induction programs with
  | nil => rfl
  | cons program programs ih => simp [joinAll, ih]

/-- An environment that may choose its replies answers every call of a program. -/
inductive Answered (answers : State → (request : Call) → Reply request → State → Prop) :
    State → Program Call Reply A → State → A → Prop
  | pure (state : State) (value : A) : Answered answers state (.pure value) state value
  | call {first second last : State} {request : Call} {reply : Reply request}
      {next : Reply request → Program Call Reply A} {value : A}
      (answer : answers first request reply second)
      (rest : Answered answers second (next reply) last value) :
      Answered answers first (.call request next) last value

/-- A program without calls leaves the environment as it is. -/
theorem Answered.of_pure {answers : State → (request : Call) → Reply request → State → Prop}
    {first last : State} {value result : A}
    (run : Answered answers first (.pure value : Program Call Reply A) last result) :
    first = last ∧ value = result := by
  cases run
  exact ⟨rfl, rfl⟩

/-- The environment answers the first call before the program goes on. -/
theorem Answered.of_call {answers : State → (request : Call) → Reply request → State → Prop}
    {first last : State} {request : Call} {next : Reply request → Program Call Reply A} {value : A}
    (run : Answered answers first (.call request next) last value) :
    ∃ reply second, answers first request reply second ∧
      Answered answers second (next reply) last value := by
  cases run with
  | call answer rest => exact ⟨_, _, answer, rest⟩

/-- The environment answers the first part of a sequence before its second part. -/
theorem Answered.of_bind {answers : State → (request : Call) → Reply request → State → Prop}
    {program : Program Call Reply A} {next : A → Program Call Reply B} {first last : State}
    {value : B} (run : Answered answers first (program >>= next) last value) :
    ∃ middle result, Answered answers first program middle result ∧
      Answered answers middle (next result) last value := by
  induction program generalizing first with
  | pure result => exact ⟨first, result, .pure first result, run⟩
  | call request rest ih =>
      obtain ⟨reply, second, answer, run⟩ := run.of_call
      obtain ⟨middle, result, before, after⟩ := ih reply run
      exact ⟨middle, result, .call answer before, after⟩

end Program

end Web3Id.Library
