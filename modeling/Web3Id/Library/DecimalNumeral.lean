import Mathlib.Algebra.Field.Rat
import Mathlib.Data.List.Count
import Mathlib.Data.List.TakeWhile
import Mathlib.Tactic.Common

namespace Web3Id.Library.DecimalNumeral

def value (digits : List Char) : ℚ := (Nat.ofDigitChars 10 digits 0 : ℕ)

/-- A numeral is a number of digits, perhaps with a point and more digits. -/
def read (text : List Char) : Option ℚ :=
  let whole := text.takeWhile Char.isDigit
  if whole = [] then none
  else
    match text.dropWhile Char.isDigit with
    | [] => some (value whole)
    | point :: fraction =>
        if point = '.' ∧ fraction ≠ [] ∧ fraction.all Char.isDigit then
          some (value (whole ++ fraction) / 10 ^ fraction.length)
        else none

/-- Points come before every whole number of parts at the end. -/
def separate (size : Nat) : List Char → List Char
  | [] => []
  | c :: text =>
      if text ≠ [] ∧ size ∣ text.length then c :: '.' :: separate size text
      else c :: separate size text

section Reading

theorem read_digits {text : List Char} (digits : ∀ c ∈ text, c.isDigit) (nonempty : text ≠ []) :
    read text = some (value text) := by
  have whole := List.takeWhile_eq_self_iff.mpr digits
  have nothing := List.dropWhile_eq_nil_iff.mpr digits
  simp only [read, whole, nothing, if_neg nonempty]

theorem read_point {whole fraction : List Char} (digits : ∀ c ∈ whole ++ fraction, c.isDigit)
    (nonempty : whole ≠ []) (more : fraction ≠ []) :
    read (whole ++ '.' :: fraction) =
      some (value (whole ++ fraction) / 10 ^ fraction.length) := by
  have first : ∀ c ∈ whole, c.isDigit := fun c member => digits c (List.mem_append_left _ member)
  have second : ∀ c ∈ fraction, c.isDigit := fun c member =>
    digits c (List.mem_append_right _ member)
  have taken : (whole ++ '.' :: fraction).takeWhile Char.isDigit = whole := by
    rw [List.takeWhile_append_of_pos first, List.takeWhile_cons_of_neg (by decide),
      List.append_nil]
  have dropped : (whole ++ '.' :: fraction).dropWhile Char.isDigit = '.' :: fraction := by
    rw [List.dropWhile_append_of_pos first, List.dropWhile_cons_of_neg (by decide)]
  simp [read, taken, dropped, nonempty, more, List.all_eq_true.mpr second]

/-- Digits are no points. -/
theorem count_point_digits {text : List Char} (digits : ∀ c ∈ text, c.isDigit) :
    text.count '.' = 0 :=
  List.count_eq_zero.mpr fun member => absurd (digits _ member) (by decide)

/-- A numeral has at most one point. -/
theorem count_point_le {text : List Char} {value : ℚ} (numeral : read text = some value) :
    text.count '.' ≤ 1 := by
  have whole : (text.takeWhile Char.isDigit).count '.' = 0 :=
    count_point_digits fun _ member => List.mem_takeWhile_imp member
  have split := List.takeWhile_append_dropWhile (p := Char.isDigit) (l := text)
  rw [← split, List.count_append, whole, Nat.zero_add]
  unfold read at numeral
  dsimp only at numeral
  split at numeral
  · cases numeral
  · split at numeral
    · rename_i nothing
      rw [nothing]
      exact Nat.zero_le _
    · rename_i point fraction rest
      split at numeral
      · rename_i shape
        rw [rest, List.count_cons, count_point_digits (List.all_eq_true.mp shape.2.2)]
        split <;> decide
      · cases numeral

end Reading

section Separation

variable {size : Nat}

theorem separate_cons (c : Char) (text : List Char) :
    separate size (c :: text) =
      if text ≠ [] ∧ size ∣ text.length then c :: '.' :: separate size text
      else c :: separate size text := rfl

theorem separate_short {text : List Char} (short : text.length ≤ size) :
    separate size text = text := by
  induction text with
  | nil => rfl
  | cons c text ih =>
      have room : text.length < size := short
      have undivided : ¬(text ≠ [] ∧ size ∣ text.length) := fun ⟨nonempty, divides⟩ =>
        absurd (Nat.le_of_dvd (List.length_pos_iff.mpr nonempty) divides) (Nat.not_le_of_lt room)
      rw [separate_cons, if_neg undivided, ih (Nat.le_of_lt room)]

/-- A whole number of parts at the end has a point before it. -/
theorem separate_append {whole fraction : List Char} (nonempty : whole ≠ []) (more : fraction ≠ [])
    (divides : size ∣ fraction.length) :
    separate size (whole ++ fraction) = separate size whole ++ '.' :: separate size fraction := by
  induction whole with
  | nil => exact absurd rfl nonempty
  | cons c whole ih =>
      cases whole with
      | nil => simp [separate, more, divides]
      | cons d whole =>
          have same : size ∣ (d :: whole ++ fraction).length ↔ size ∣ (d :: whole).length := by
            rw [List.length_append]
            exact (Nat.dvd_add_iff_left divides).symm
          rw [List.cons_append, separate_cons, separate_cons c (d :: whole),
            ih (List.cons_ne_nil _ _)]
          simp only [same, ne_eq, List.append_eq_nil_iff, reduceCtorEq, false_and,
            not_false_eq_true, true_and]
          split <;> rfl

/-- Digits with more than one part have a point before the last part. -/
theorem separate_split {text : List Char} (positive : 0 < size) (more : size < text.length) :
    ∃ whole fraction, text = whole ++ fraction ∧ whole ≠ [] ∧ fraction ≠ [] ∧
      fraction.length = size ∧ separate size text = separate size whole ++ '.' :: fraction := by
  have length : (text.drop (text.length - size)).length = size := by
    rw [List.length_drop]
    omega
  have nonempty : text.take (text.length - size) ≠ [] := by
    rw [← List.length_pos_iff, List.length_take]
    omega
  have rest : text.drop (text.length - size) ≠ [] := by
    rw [← List.length_pos_iff]
    omega
  refine ⟨_, _, (List.take_append_drop (text.length - size) text).symm, nonempty, rest, length, ?_⟩
  have shown := separate_append nonempty rest (by rw [length])
  rw [List.take_append_drop, separate_short (Nat.le_of_eq length)] at shown
  exact shown

/-- Digits with more than two parts get more than one point. -/
theorem two_le_count_point {text : List Char} (positive : 0 < size)
    (long : size + size < text.length) : 2 ≤ (separate size text).count '.' := by
  have several : size < text.length := by omega
  obtain ⟨whole, fraction, rfl, -, -, length, last⟩ := separate_split positive several
  rw [List.length_append] at long
  have still : size < whole.length := by omega
  obtain ⟨front, middle, -, -, -, -, other⟩ := separate_split positive still
  rw [last, other]
  simp only [List.count_append, List.count_cons_self]
  omega

/-- Digits are a numeral after the separation when it makes at most one point. -/
theorem read_separate {text : List Char} (digits : ∀ c ∈ text, c.isDigit) (nonempty : text ≠ [])
    (positive : 0 < size) :
    read (separate size text) =
      if text.length ≤ size then some (value text)
      else if text.length ≤ size + size then some (value text / 10 ^ size)
      else none := by
  by_cases short : text.length ≤ size
  · rw [if_pos short, separate_short short, read_digits digits nonempty]
  rw [if_neg short]
  by_cases middle : text.length ≤ size + size
  · obtain ⟨whole, fraction, rfl, first, second, length, last⟩ :=
      separate_split positive (Nat.lt_of_not_le short)
    rw [List.length_append] at middle
    rw [if_pos (by rwa [List.length_append]), last, separate_short (by omega),
      read_point digits first second, length]
  · rw [if_neg middle]
    have points := two_le_count_point positive (Nat.lt_of_not_le middle)
    cases numeral : read (separate size text) with
    | none => rfl
    | some value =>
        have most := count_point_le numeral
        omega

end Separation

end Web3Id.Library.DecimalNumeral
