import Mathlib.Tactic.Linarith
import Mathlib.Tactic.NormNum
import Web3Id.Construction.FrontEnd.AccountBalance
import Web3Id.Library.DecimalNumeral

namespace Web3Id.FrontEnd.Main

open Library

/-- The text is a numeral with at most one point, and its value in CCD is the amount. -/
def Denotes (text : String) (microCcdAmount : Nat) : Prop :=
  DecimalNumeral.read text.toList = some (microCcdAmount / 1000000 : ℚ)

/-- The pattern puts a point before every whole number of six digits at the end. -/
theorem replaceAll_separates {text : List Char} (digits : ∀ c ∈ text, c.isDigit) :
    separatorPattern.replaceAll (· ++ ['.']) text = DecimalNumeral.separate 6 text := by
  induction text with
  | nil => rfl
  | cons c text ih =>
      have found : separatorPattern.rests (c :: text) =
          if text ≠ [] ∧ 6 ∣ text.length then [text] else [] := Pattern.rests_one_ahead digits 5
      have others := ih fun d member => digits d (List.mem_cons_of_mem _ member)
      rw [DecimalNumeral.separate_cons]
      split
      · rename_i filled
        rw [if_pos filled] at found
        rw [Pattern.replaceAll_of_one _ found, others]
        rfl
      · rename_i unfilled
        rw [if_neg unfilled] at found
        rw [Pattern.replaceAll_of_none _ found, others]

/-- The amount is read as micro CCD below one CCD and not at all from a million CCD on. -/
theorem read_formattedBalance (main : Main) (microCcdAmount : Nat) :
    DecimalNumeral.read
        (main.getAccountInfo (.ok (some ⟨microCcdAmount⟩))).formattedBalance.toList =
      if microCcdAmount < 10 ^ 6 then some (microCcdAmount : ℚ)
      else if microCcdAmount < 10 ^ 12 then some (microCcdAmount / 1000000 : ℚ)
      else none := by
  have digits : ∀ c ∈ Nat.toDigits 10 microCcdAmount, c.isDigit := fun c member =>
    Nat.isDigit_of_mem_toDigits (by decide) (by decide) member
  have value : DecimalNumeral.value (Nat.toDigits 10 microCcdAmount) = microCcdAmount := by
    rw [DecimalNumeral.value, Nat.ofDigitChars_ten_toDigits]
  have shown : (main.getAccountInfo (.ok (some ⟨microCcdAmount⟩))).formattedBalance.toList =
      DecimalNumeral.separate 6 (Nat.toDigits 10 microCcdAmount) := by
    simp [getAccountInfo, formattedBalance, replaceAll_separates digits]
  rw [shown, DecimalNumeral.read_separate digits Nat.toDigits_ne_nil (by decide), value]
  simp only [Nat.length_toDigits_le_iff (by decide : 1 < 10) (by decide : 0 < 6),
    Nat.length_toDigits_le_iff (by decide : 1 < 10) (by decide : 0 < 6 + 6)]
  norm_num

/-- The displayed balance denotes the amount from one CCD to below a million CCD, and at zero. -/
theorem formattedBalance_denotes (main : Main) (microCcdAmount : Nat) :
    Denotes (main.getAccountInfo (.ok (some ⟨microCcdAmount⟩))).formattedBalance microCcdAmount ↔
      microCcdAmount = 0 ∨ 10 ^ 6 ≤ microCcdAmount ∧ microCcdAmount < 10 ^ 12 := by
  rw [Denotes, read_formattedBalance]
  split
  · rename_i small
    have same : (microCcdAmount : ℚ) = microCcdAmount / 1000000 ↔ microCcdAmount = 0 := by
      constructor
      · intro equal
        have nothing : (microCcdAmount : ℚ) = 0 := by linarith
        exact_mod_cast nothing
      · rintro rfl
        norm_num
    rw [Option.some.injEq, same]
    omega
  · split
    · rename_i large middle
      exact iff_of_true rfl (.inr ⟨Nat.le_of_not_lt large, middle⟩)
    · rename_i large larger
      refine iff_of_false (fun none => by cases none) ?_
      omega

/-- Half a CCD is shown as half a million. -/
theorem formattedBalance_misleads :
    ¬Denotes (loaded.getAccountInfo (.ok (some ⟨500000⟩))).formattedBalance 500000 := by
  rw [Denotes, read_formattedBalance]
  norm_num

end Web3Id.FrontEnd.Main
