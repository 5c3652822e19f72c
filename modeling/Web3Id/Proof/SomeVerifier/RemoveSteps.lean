import Web3Id.Proof.SomeVerifier.SerialInvariant

namespace Web3Id.SomeVerifier

open Library

section Removal

variable {n : Nat} {db : Db} {calls : Fin n → Call} {system after : System n}
  {log : List (Entry (Fin n) (Option Nat) CallResult)} {i : Fin n}
  {credId : CredentialHolderId} {platform : Platform} {program : DbProgram CallResult}
  {deleted ids : List Nat}

namespace SerialInvariant

/-- A removal that finds nothing is decided. -/
theorem miss (inv : SerialInvariant db calls system log) (new : answerTo log i = none)
    (call : calls i = .remove credId platform)
    (nothing : system.committed.selected platform credId.publicKey = [])
    (lookups : List (Platform × BitVec 256)) :
    SerialInvariant db calls
      (system.set i ⟨execute .commit fun _ => .pure (.ok (.removed false)), [], [], [], none,
        lookups⟩) (log ++ [⟨i, none, .removed false⟩]) := by
  have served := serves_remove call inv.consistent
  rw [Tables.removed, nothing, Tables.erase_nil] at served
  refine inv.serve new served (inv.valid.drop _ lookups) (by simp) ?_ fun j _ => inv.relies j
  rw [call]
  exact .missing

/-- The deletions of a removal delete the verifications of its credential. -/
theorem mem_removed (inv : SerialInvariant db calls system log)
    (sound : (⟨program, deleted, [], [], none, [(platform, credId.publicKey)]⟩ :
      Transaction).Sound system.committed)
    (relies : (⟨program, deleted, [], [], none, [(platform, credId.publicKey)]⟩ :
      Transaction).Relies system.committed) (id : Nat) :
    id ∈ deleted ↔ id ∈ system.committed.selected platform credId.publicKey := by
  rw [relies.mem_deleted inv.consistent sound rfl]
  simp

/-- A removal selects the verification of its credential, or finds nothing. -/
theorem seek (inv : SerialInvariant db calls system log) (new : answerTo log i = none)
    (call : calls i = .remove credId platform)
    (found : system.txs i = ⟨(Call.remove credId platform).body, [], [], [], none, []⟩)
    (stepped : system.perform i (Call.remove credId platform).body = some after) :
    ∃ later, SerialInvariant db calls after later := by
  have atMostOne := (inv.consistent.erase []).selected_length_le platform credId.publicKey
  rcases System.perform_look found stepped with rfl | ⟨nothing, rfl⟩
  · refine ⟨log, inv.look new found rfl ?_⟩
    rw [call]
    exact .finding atMostOne
  · rw [Tables.erase_nil] at nothing
    exact ⟨_, inv.miss new call nothing _⟩

/-- A removal deletes the verification of its credential, or finds that it has disappeared. -/
theorem find (inv : SerialInvariant db calls system log) (new : answerTo log i = none)
    (call : calls i = .remove credId platform) (atMostOne : ids.length ≤ 1)
    (found : system.txs i = ⟨(Call.remove credId platform).body, [], [], [], some ids,
      [(platform, credId.publicKey)]⟩)
    (stepped : system.perform i (Call.remove credId platform).body = some after) :
    ∃ later, SerialInvariant db calls after later := by
  obtain ⟨unlocked, rfl⟩ := System.perform_delete found stepped
  obtain ⟨sound, before⟩ := inv.undecided new found
  cases remaining : Transaction.present system.committed [] ids with
  | nil =>
      have relies := before.delete inv.consistent (calls i).program
      have sound := sound.delete (calls i).program
      rw [remaining] at relies sound
      have nothing : system.committed.selected platform credId.publicKey = [] :=
        List.eq_nil_iff_forall_not_mem.mpr fun id listed =>
          List.not_mem_nil ((inv.mem_removed sound relies id).mpr listed)
      exact ⟨_, inv.miss new call nothing _⟩
  | cons id rest =>
      have shorter : (id :: rest).length ≤ ids.length := remaining ▸ List.length_filter_le _ _
      have notMore : ¬ 1 < (id :: rest).length := by omega
      have following : afterRemoval (id :: rest) =
          execute .commit fun _ => .pure (.ok (.removed true)) := if_neg notMore
      have stage : Stage (calls i) none
          ⟨execute .commit fun _ => .pure (.ok (.removed true)),
            [] ++ Transaction.present system.committed [] ids, [], [], none,
            [(platform, credId.publicKey)]⟩ := by
        rw [call, remaining]
        exact .removing (by simp)
      have kept := inv.delete new found unlocked stage
      rw [remaining] at kept
      refine ⟨log, ?_⟩
      change SerialInvariant db calls (system.set i (Transaction.resume _ (afterRemoval _))) log
      rw [following]
      exact kept

/-- The commit of a removal decides that a verification was removed. -/
theorem commitRemoval (inv : SerialInvariant db calls system log) (new : answerTo log i = none)
    (call : calls i = .remove credId platform) (nonempty : deleted ≠ [])
    (found : system.txs i = ⟨program, deleted, [], [], none, [(platform, credId.publicKey)]⟩) :
    SerialInvariant db calls
      ({ system with committed := (system.txs i).view system.committed }.set i
        ⟨.pure (.ok (.removed true)), [], [], [], none, []⟩)
      (log ++ [⟨i, none, .removed true⟩]) := by
  obtain ⟨sound, before⟩ := inv.undecided new found
  have same := inv.mem_removed sound before
  have served := serves_remove call inv.consistent
  have consistent := inv.consistent.erase deleted
  have nonempty : (system.committed.selected platform credId.publicKey).isEmpty = false := by
    obtain ⟨id, listed⟩ := List.exists_mem_of_ne_nil deleted nonempty
    exact List.isEmpty_eq_false_iff.mpr (List.ne_nil_of_mem ((same id).mp listed))
  have view : (system.txs i).view system.committed =
      (system.committed.removed credId.publicKey platform).2 := by
    rw [found]
    exact system.committed.erase_congr same
  rw [← view, Tables.removed, nonempty] at served
  refine inv.commit new served ?_ (by simp) ?_
  · rw [found]
    exact consistent
  · rw [found]
    simp

end SerialInvariant

end Removal

end Web3Id.SomeVerifier
