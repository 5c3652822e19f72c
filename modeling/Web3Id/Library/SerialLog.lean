import Mathlib.Data.List.Nodup
import Web3Id.Library.Execution

namespace Web3Id.Library

variable {Caller Choice Answer State : Type*}

/-- An entry records a caller, a choice of the environment, and the answer to the caller. -/
structure Entry (Caller Choice Answer : Type*) where
  caller : Caller
  choice : Choice
  answer : Answer

/-- The log serves each of its callers once, one after the other. -/
structure Serial (serves : Entry Caller Choice Answer → State → State → Prop) (start : State)
    (log : List (Entry Caller Choice Answer)) (last : State) : Prop where
  distinct : (log.map Entry.caller).Nodup
  replays : Execution (fun state entry after => serves entry state after) start log last

namespace Serial

variable {serves : Entry Caller Choice Answer → State → State → Prop} {start last after : State}
  {log : List (Entry Caller Choice Answer)}

theorem nil (start : State) : Serial serves start [] start := ⟨List.nodup_nil, .done start⟩

/-- A caller that is not in the log can be served at its end. -/
theorem snoc (serial : Serial serves start log last) {entry : Entry Caller Choice Answer}
    (new : entry.caller ∉ log.map Entry.caller) (served : serves entry last after) :
    Serial serves start (log ++ [entry]) after where
  distinct := by
    rw [List.map_append, List.map_singleton]
    exact List.nodup_append.mpr ⟨serial.distinct, List.nodup_singleton _,
      fun caller listed other single => by
        rintro rfl
        exact new (List.mem_singleton.mp single ▸ listed)⟩
  replays := serial.replays.append (.single served)

end Serial

section AnswerTo

variable [DecidableEq Caller] {log : List (Entry Caller Choice Answer)}
  {entry : Entry Caller Choice Answer} {caller : Caller}

/-- The answer that the log gives to a caller. -/
def answerTo (log : List (Entry Caller Choice Answer)) (caller : Caller) : Option Answer :=
  (log.find? fun entry => entry.caller = caller).map Entry.answer

theorem answerTo_eq_none : answerTo log caller = none ↔ caller ∉ log.map Entry.caller := by
  simp [answerTo, List.find?_eq_none]

theorem exists_of_answerTo {answer : Answer} (answered : answerTo log caller = some answer) :
    ∃ entry ∈ log, entry.caller = caller ∧ entry.answer = answer := by
  obtain ⟨entry, found, same⟩ := Option.map_eq_some_iff.mp answered
  have holds := List.find?_some found
  exact ⟨entry, List.mem_of_find?_eq_some found, of_decide_eq_true holds, same⟩

/-- A new entry answers its caller. -/
theorem answerTo_snoc_self (new : answerTo log entry.caller = none) :
    answerTo (log ++ [entry]) entry.caller = some entry.answer := by
  have missing := Option.map_eq_none_iff.mp new
  simp [answerTo, List.find?_append, missing]

/-- A new entry does not change the answers to the other callers. -/
theorem answerTo_snoc_other (other : caller ≠ entry.caller) :
    answerTo (log ++ [entry]) caller = answerTo log caller := by
  simp [answerTo, List.find?_append, other.symm]

end AnswerTo

end Web3Id.Library
