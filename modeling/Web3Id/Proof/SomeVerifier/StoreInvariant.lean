import Web3Id.Proof.SomeVerifier.EntrySlots
import Web3Id.Proof.SomeVerifier.ServerOutcome

namespace Web3Id.SomeVerifier

open Library

/-- The verification has a row on the platform. -/
def Tables.Owns (tables : Tables) (platform : Platform) (id : Nat) : Prop :=
  ∃ row ∈ tables.platform platform, row.verificationId = some id

def AtLeastTwo (one two three : Prop) : Prop := (one ∧ two) ∨ (one ∧ three) ∨ (two ∧ three)

theorem AtLeastTwo.imp {one two three one' two' three' : Prop} (holds : AtLeastTwo one two three)
    (first : one → one') (second : two → two') (third : three → three') :
    AtLeastTwo one' two' three' :=
  Or.imp (And.imp first second) (Or.imp (And.imp first third) (And.imp second third)) holds

/-- Every verification has two of the rows of its platforms and the full name. -/
def Tables.Complete (tables : Tables) : Prop :=
  ∀ row ∈ tables.verifications, AtLeastTwo (tables.Owns .telegram row.id)
    (tables.Owns .discord row.id) (row.firstName.isSome = true)

/-- The schema holds, and every verification is reachable from a platform and complete. -/
structure Tables.Sound (tables : Tables) : Prop where
  consistent : tables.Consistent
  reachable : ∀ row ∈ tables.verifications, ∃ platform, tables.Owns platform row.id
  complete : tables.Complete

/-- Two of the three slots include a row of a platform. -/
theorem Tables.Complete.reachable {tables : Tables} (complete : tables.Complete) :
    ∀ row ∈ tables.verifications, ∃ platform, tables.Owns platform row.id := by
  intro row present
  rcases complete row present with ⟨telegram, -⟩ | ⟨telegram, -⟩ | ⟨discord, -⟩
  · exact ⟨.telegram, telegram⟩
  · exact ⟨.telegram, telegram⟩
  · exact ⟨.discord, discord⟩

/-- A verification that is not deleted keeps its rows. -/
theorem Tables.Owns.erase {tables : Tables} {platform : Platform} {id : Nat}
    (owns : tables.Owns platform id) {ids : List Nat} (kept : id ∉ ids) :
    (tables.erase ids).Owns platform id := by
  obtain ⟨row, present, points⟩ := owns
  refine ⟨row, mem_erase_platform.mpr ⟨present, ?_⟩, points⟩
  intro other target
  cases points.symm.trans target
  exact kept

/-- A deletion removes verifications as a whole. -/
theorem Tables.Complete.erase {tables : Tables} (complete : tables.Complete) (ids : List Nat) :
    (tables.erase ids).Complete := by
  intro row present
  obtain ⟨before, kept⟩ := mem_erase_verifications.mp present
  exact (complete row before).imp (·.erase kept) (·.erase kept) id

/-- The rows that an entry leaves in place are still there. -/
theorem Tables.Owns.withEntry {tables : Tables} {entry : VerificationsEntry} {platform : Platform}
    {id other : Nat} (owns : (tables.erase (tables.overlapping entry.slots)).Owns platform other) :
    (tables.withEntry entry id).Owns platform other := by
  obtain ⟨row, present, points⟩ := owns
  exact ⟨row, mem_withEntry_platform.mpr (.inl present), points⟩

/-- The new verification owns a row for each filled slot. -/
theorem Tables.owns_withEntry {tables : Tables} {entry : VerificationsEntry} {platform : Platform}
    {id : Nat} (filled : (entry.platformEntry platform).isSome = true) :
    (tables.withEntry entry id).Owns platform id := by
  obtain ⟨slot, same⟩ := Option.isSome_iff_exists.mp filled
  exact ⟨slot.row id, mem_withEntry_platform.mpr (.inr ⟨slot, same, rfl⟩), rfl⟩

/-- Two filled slots are two of the three. -/
theorem VerificationsEntry.atLeastTwo {entry : VerificationsEntry} (enough : 2 ≤ entry.filled) :
    AtLeastTwo ((entry.platformEntry .telegram).isSome = true)
      ((entry.platformEntry .discord).isSome = true) (entry.fullName.isSome = true) := by
  obtain ⟨telegram, discord, presentation, fullName⟩ := entry
  cases telegram <;> cases discord <;> cases fullName <;>
    simp_all [filled, platformEntry, AtLeastTwo]

/-- An entry with two filled slots keeps the tables complete. -/
theorem Tables.Complete.withEntry {tables : Tables} (complete : tables.Complete)
    {entry : VerificationsEntry} (enough : 2 ≤ entry.filled) (id : Nat) :
    (tables.withEntry entry id).Complete := by
  intro row present
  rcases mem_withEntry_verifications.mp present with ⟨before, kept⟩ | rfl
  · exact (complete row before).imp (fun owns => (owns.erase kept).withEntry)
      (fun owns => (owns.erase kept).withEntry) (fun named => named)
  · refine entry.atLeastTwo enough |>.imp owns_withEntry owns_withEntry ?_
    simp [VerificationsEntry.row]

/-- An accepted presentation with two credentials fills two slots. -/
theorem AppState.enough_filled {sdk : Sdk} {self : AppState} {proof : Presentation}
    {entry : VerificationsEntry} (entered : self.proofsToEntry sdk proof = .ok entry)
    (enough : 2 ≤ proof.verifiableCredential.length) : 2 ≤ entry.filled := by
  have counted := filled_length (proofsToEntry_execution entered)
  simp only [VerificationsEntry.filled, VerificationsEntry.fromPresentation, Option.isSome_none,
    Bool.toNat_false] at counted
  unfold VerificationsEntry.filled
  omega

/-- Every outcome of a request keeps the verifications complete. -/
theorem AppState.Outcome.complete {sdk : Sdk} {self : AppState} {db : Db} {event : Event}
    {result : Except Error StatusCode × Db} (outcome : self.Outcome sdk db event result)
    (complete : db.tables.Complete) : result.2.tables.Complete := by
  cases outcome with
  | refused _ _ tables => exact tables ▸ complete
  | created _ _ _ enough entered _ => exact complete.withEntry (enough_filled entered enough) _
  | removed => exact complete.erase _

/-- After every list of requests the store is sound. -/
theorem someVerifier_storeInvariant (sdk : Sdk) (self : AppState) (events : List Event) :
    (self.serveAll sdk Db.empty events).tables.Sound := by
  have start : Db.empty.tables.Complete := by
    intro row present
    nomatch present
  obtain ⟨consistent, complete⟩ := self.serveAll_invariant sdk (fun db => db.tables.Complete)
    start Db.empty_consistent events fun _ _ _ _ _ complete outcome => outcome.complete complete
  exact ⟨consistent.tables, complete.reachable, complete⟩

end Web3Id.SomeVerifier
