import Mathlib.Data.List.Pairwise

namespace Web3Id.Library

variable {Row Key : Type*}

/-- No two rows of the table have the same key. -/
def UniqueKey (key : Row → Key) (rows : List Row) : Prop :=
  rows.Pairwise fun row other => key row ≠ key other

namespace UniqueKey

variable {key : Row → Key} {rows : List Row}

theorem nil : UniqueKey key ([] : List Row) := List.Pairwise.nil

/-- Removing rows keeps a key unique. -/
theorem filter (unique : UniqueKey key rows) (keep : Row → Bool) :
    UniqueKey key (rows.filter keep) := List.Pairwise.filter keep unique

/-- A row with a new key keeps the key unique. -/
theorem snoc (unique : UniqueKey key rows) {row : Row} (fresh : ∀ other ∈ rows, key other ≠ key row) :
    UniqueKey key (rows ++ [row]) :=
  List.pairwise_append.mpr ⟨unique, List.pairwise_singleton _ row,
    fun other present _ listed => List.mem_singleton.mp listed ▸ fresh other present⟩

/-- Two rows with the same unique key are the same row. -/
theorem eq_of_key (unique : UniqueKey key rows) {row other : Row} (present : row ∈ rows)
    (too : other ∈ rows) (same : key row = key other) : row = other := by
  by_contra distinct
  have symmetric : Std.Symm fun row other : Row => key row ≠ key other := ⟨fun _ _ => Ne.symm⟩
  exact unique.forall present too distinct same

/-- A query for a unique key returns at most one row. -/
theorem filter_length_le [DecidableEq Key] (unique : UniqueKey key rows) (value : Key) :
    (rows.filter fun row => key row = value).length ≤ 1 := by
  have distinct := unique.filter fun row => key row = value
  match selected : rows.filter fun row => key row = value with
  | [] => simp
  | [row] => simp
  | row :: other :: rest =>
      have keyed : ∀ row ∈ rows.filter fun row => key row = value, key row = value :=
        fun row listed => of_decide_eq_true (List.mem_filter.mp listed).2
      rw [selected] at distinct keyed
      exact absurd ((keyed row (by simp)).trans (keyed other (by simp)).symm)
        (List.rel_of_pairwise_cons distinct (by simp))

/-- A query for the key of a row returns the row. -/
theorem filter_eq_singleton [DecidableEq Key] (unique : UniqueKey key rows) {row : Row}
    (present : row ∈ rows) : (rows.filter fun other => key other = key row) = [row] := by
  have short := unique.filter_length_le (key row)
  have listed : row ∈ rows.filter fun other => key other = key row :=
    List.mem_filter.mpr ⟨present, decide_eq_true rfl⟩
  match selected : rows.filter fun other => key other = key row with
  | [] => simp [selected] at listed
  | [other] =>
      rw [selected] at listed
      rw [List.mem_singleton.mp listed]
  | first :: second :: rest => simp [selected] at short

end UniqueKey

end Web3Id.Library
