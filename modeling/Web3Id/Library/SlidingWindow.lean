import Mathlib.Data.List.Infix
import Mathlib.Data.List.Count

namespace Web3Id.Library

variable {A : Type*} [DecidableEq A]

/-- Each entry of a newest-first history was admitted while the previous `size` entries held
fewer than `limit` copies of it. -/
def Paced (limit size : Nat) : List A → Prop
  | [] => True
  | entry :: earlier => (earlier.take size).count entry < limit ∧ Paced limit size earlier

/-- A prefix of bounded length counts no more copies than the window of that length. -/
theorem count_prefix_le_take {segment history : List A} (isPrefix : segment <+: history)
    {size : Nat} (short : segment.length ≤ size) (entry : A) :
    segment.count entry ≤ (history.take size).count entry := by
  have inside : segment <+: history.take size :=
    List.prefix_take_iff.mpr ⟨isPrefix, short⟩
  exact inside.sublist.count_le entry

/-- Any `size + 1` consecutive entries of a paced history hold at most `limit` copies of one. -/
theorem Paced.count_infix_le {limit size : Nat} {history segment : List A}
    (paced : Paced limit size history) (inside : segment <:+: history)
    (short : segment.length ≤ size + 1) (entry : A) : segment.count entry ≤ limit := by
  induction history generalizing segment with
  | nil =>
      rw [List.infix_nil.mp inside]
      exact Nat.zero_le _
  | cons newest earlier ih =>
      rcases List.infix_cons_iff.mp inside with isPrefix | older
      · rcases List.prefix_cons_iff.mp isPrefix with empty | ⟨rest, same, restPrefix⟩
        · rw [empty]
          exact Nat.zero_le _
        · subst same
          have restShort : rest.length ≤ size := by simpa using short
          by_cases equal : newest = entry
          · subst equal
            have bound := count_prefix_le_take restPrefix restShort newest
            rw [List.count_cons_self]
            exact Nat.lt_of_le_of_lt bound paced.1
          · rw [List.count_cons_of_ne equal]
            exact ih paced.2 restPrefix.isInfix (Nat.le_succ_of_le restShort)
      · exact ih paced.2 older short

end Web3Id.Library
