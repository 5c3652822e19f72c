import Mathlib.Data.List.Nodup
import Mathlib.Tactic.Common

namespace Web3Id.Library

variable {Key Value : Type*} [DecidableEq Key]

/-- An object whose keys are no numbers has them in the order of their first assignment. -/
def assign (object : List (Key × Value)) (key : Key) (value : Value) : List (Key × Value) :=
  if key ∈ object.map Prod.fst then
    object.map fun entry => if entry.1 = key then (key, value) else entry
  else object ++ [(key, value)]

/-- A new key is added at the end. -/
theorem assign_fresh {object : List (Key × Value)} {key : Key} (fresh : key ∉ object.map Prod.fst)
    (value : Value) : assign object key value = object ++ [(key, value)] := if_neg fresh

/-- Entries with different keys are assigned one after the other. -/
theorem foldl_assign {object entries : List (Key × Value)}
    (distinct : ((object ++ entries).map Prod.fst).Nodup) :
    entries.foldl (fun result entry => assign result entry.1 entry.2) object =
      object ++ entries := by
  induction entries generalizing object with
  | nil => simp
  | cons entry entries ih =>
      have fresh : entry.1 ∉ object.map Prod.fst := by
        intro listed
        rw [List.map_append, List.map_cons] at distinct
        exact List.disjoint_of_nodup_append distinct listed List.mem_cons_self
      rw [List.foldl_cons, assign_fresh fresh, ih (by simpa using distinct)]
      simp

end Web3Id.Library
