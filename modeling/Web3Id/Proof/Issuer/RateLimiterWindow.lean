import Web3Id.Construction.Issuer.RateLimiter
import Mathlib.Data.List.Count
import Mathlib.Tactic.Common

namespace Web3Id.SomeIssuer

/-- The limiter remembers this many registrations; a capacity of zero still keeps one. -/
def RateLimiter.window (self : RateLimiter) : Nat := max 1 self.maxQueueSize

/-- A mapping agrees with a queue when it holds exactly the nonzero counts of the queue. -/
def Counts (mapping : AList fun _ : String => Nat) (queue : List String) : Prop :=
  ∀ key, mapping.lookup key = if 0 < queue.count key then some (queue.count key) else none

/-- The limiter represents a newest-first history when the queue is its window and the mapping
agrees with the queue. -/
structure RateLimiter.Represents (limiter : RateLimiter) (history : List String) : Prop where
  queue : limiter.queue = history.take limiter.window
  mapping : Counts limiter.mapping limiter.queue

theorem Counts.getD {mapping : AList fun _ : String => Nat} {queue : List String}
    (counts : Counts mapping queue) (key : String) :
    (mapping.lookup key).getD 0 = queue.count key := by
  rw [counts key]
  split
  · rfl
  · simp only [Option.getD_none]
    omega

/-- The empty mapping agrees with the empty queue. -/
theorem Counts.empty : Counts ∅ [] := by
  intro key
  simp

/-- The mapping never holds more keys than the queue has entries. -/
theorem Counts.keys_le {mapping : AList fun _ : String => Nat} {queue : List String}
    (counts : Counts mapping queue) : mapping.keys.length ≤ queue.length := by
  have listed : mapping.keys ⊆ queue := by
    intro key member
    obtain ⟨count, found⟩ := Option.isSome_iff_exists.mp (AList.lookup_isSome.mpr member)
    rw [counts key] at found
    split at found
    · rename_i positive
      exact List.count_pos_iff.mp positive
    · cases found
  exact (List.subperm_of_subset mapping.keys_nodup listed).length_le

/-- Incrementing one count agrees with adding one user to the queue. -/
theorem Counts.insert {mapping : AList fun _ : String => Nat} {queue : List String}
    (counts : Counts mapping queue) (new : String) :
    Counts (mapping.insert new ((mapping.lookup new).getD 0 + 1)) (new :: queue) := by
  intro key
  rw [counts.getD]
  by_cases same : key = new
  · subst same
    simp [AList.lookup_insert]
  · rw [AList.lookup_insert_ne same, counts key, List.count_cons_of_ne (Ne.symm same)]

/-- The lookup of an evicted user succeeds, and its count can be decremented. -/
theorem Counts.evicted {mapping : AList fun _ : String => Nat} {queue : List String} {last : String}
    (counts : Counts mapping (queue ++ [last])) :
    mapping.lookup last = some (queue.count last + 1) := by
  rw [counts last]
  simp

/-- Decrementing one count agrees with removing the last user of the queue. -/
theorem Counts.decrement {mapping : AList fun _ : String => Nat} {queue : List String}
    {last : String} (counts : Counts mapping (queue ++ [last])) :
    Counts (decrement mapping last) queue := by
  intro key
  have present := counts.evicted
  have other (different : key ≠ last) :
      mapping.lookup key = if 0 < queue.count key then some (queue.count key) else none := by
    rw [counts key, List.count_append, List.count_singleton]
    simp [Ne.symm different]
  unfold SomeIssuer.decrement
  rw [present]
  simp only [Nat.add_sub_cancel]
  by_cases same : key = last
  · subst same
    split
    · rename_i zero
      simp [zero]
    · rename_i positive
      rw [AList.lookup_insert, if_pos (Nat.pos_of_ne_zero positive)]
  · split
    · rw [AList.lookup_erase_ne same, other same]
    · rw [AList.lookup_insert_ne same, other same]

/-- The window never shrinks to nothing. -/
theorem RateLimiter.window_pos (self : RateLimiter) : 0 < self.window := by
  unfold window
  omega

@[simp] theorem updateLimit_multiplicity (self : RateLimiter) (new : String) :
    (self.updateLimit new).multiplicity = self.multiplicity := by
  unfold RateLimiter.updateLimit
  dsimp only
  split
  · split <;> rfl
  · rfl

@[simp] theorem updateLimit_maxQueueSize (self : RateLimiter) (new : String) :
    (self.updateLimit new).maxQueueSize = self.maxQueueSize := by
  unfold RateLimiter.updateLimit
  dsimp only
  split
  · split <;> rfl
  · rfl

/-- A full queue drops its last user, so a window of the longer history remains. -/
theorem RateLimiter.window_full {self : RateLimiter} {history : List String} {last : String}
    (full : self.maxQueueSize ≤ (history.take self.window).length)
    (present : (history.take self.window).getLast? = some last) :
    (history.take self.window).dropLast = history.take (self.window - 1) := by
  have nonempty : history.take self.window ≠ [] := by
    intro empty
    rw [empty] at present
    cases present
  have length : (history.take self.window).length = self.window := by
    have positive := List.length_pos_of_ne_nil nonempty
    have bound := List.length_take_le self.window history
    unfold RateLimiter.window at full positive bound ⊢
    omega
  rw [List.dropLast_eq_take, length, List.take_take]
  congr 1
  omega

/-- One update extends the represented history by the new user. -/
theorem RateLimiter.Represents.updateLimit {self : RateLimiter} {history : List String}
    (represents : self.Represents history) (new : String) :
    (self.updateLimit new).Represents (new :: history) := by
  have inserted := represents.mapping.insert new
  have keeps : (new :: history).take self.window = new :: history.take (self.window - 1) := by
    rw [← List.take_succ_cons, Nat.sub_add_cancel self.window_pos]
  unfold RateLimiter.updateLimit
  dsimp only
  split
  · rename_i full
    split
    · -- the evicted user may be the new one, so the increment comes first
      rename_i last present
      have shape : self.queue = self.queue.dropLast ++ [last] :=
        (List.dropLast_append_getLast? last present).symm
      constructor
      · change new :: self.queue.dropLast = (new :: history).take self.window
        rw [keeps, represents.queue]
        rw [represents.queue] at full present
        rw [RateLimiter.window_full full present]
      · rw [shape] at inserted
        have counts : Counts _ ((new :: self.queue.dropLast) ++ [last]) := inserted
        exact counts.decrement
    · rename_i empty
      have nothing : self.queue = [] := List.getLast?_eq_none_iff.mp empty
      constructor
      · change new :: self.queue = (new :: history).take self.window
        rw [keeps, nothing]
        have short := represents.queue
        rw [nothing] at short
        have noHistory : history = [] := by
          rcases List.take_eq_nil_iff.mp short.symm with zero | empty
          · have positive := self.window_pos
            omega
          · exact empty
        rw [noHistory]
        simp
      · exact inserted
  · rename_i room
    constructor
    · change new :: self.queue = (new :: history).take self.window
      have short : history.length < self.maxQueueSize := by
        rw [represents.queue, List.length_take] at room
        unfold RateLimiter.window at room
        omega
      have large : self.maxQueueSize ≤ self.window := le_max_right _ _
      rw [represents.queue, keeps, List.take_of_length_le (by omega),
        List.take_of_length_le (by omega)]
    · exact inserted

/-- A new limiter represents the empty history. -/
theorem SyncState.new_represents (nonce maxQueueSize multiplicity : Nat) :
    (SyncState.new nonce maxQueueSize multiplicity).limit.Represents [] :=
  ⟨by simp [SyncState.new], Counts.empty⟩

/-- The check compares the count of the user in the window with the multiplicity. -/
theorem RateLimiter.Represents.checkLimit {self : RateLimiter} {history : List String}
    (represents : self.Represents history) (new : String) :
    self.checkLimit new = true ↔ (history.take self.window).count new < self.multiplicity := by
  unfold RateLimiter.checkLimit
  rw [represents.mapping.getD, represents.queue]
  exact decide_eq_true_iff

/-- The mapping of an update once the new user is counted. -/
def RateLimiter.counted (self : RateLimiter) (new : String) : AList fun _ : String => Nat :=
  self.mapping.insert new ((self.mapping.lookup new).getD 0 + 1)

/-- The user that an update evicts. -/
def RateLimiter.evicted (self : RateLimiter) : Option String :=
  if self.queue.length ≥ self.maxQueueSize then self.queue.getLast? else none

theorem updateLimit_evicted {self : RateLimiter} {last : String} (new : String)
    (evicted : self.evicted = some last) :
    (self.updateLimit new).mapping = decrement (self.counted new) last := by
  unfold RateLimiter.evicted at evicted
  split at evicted
  · rename_i full
    simp only [RateLimiter.updateLimit, if_pos full, evicted]
    rfl
  · cases evicted

/-- The limiter keeps the counts of its queue, which is the newest part of the updates, and finds a
count to decrement for every user that it evicts. -/
structure RateLimiter.Keeps (limiter : RateLimiter) (capacity : Nat) (updates : List String) :
    Prop where
  counts : ∀ key, (limiter.mapping.lookup key).getD 0 = limiter.queue.count key
  nonzero : ∀ key, limiter.mapping.lookup key ≠ some 0
  newest : limiter.queue = updates.reverse.take (max 1 capacity)
  keys : limiter.mapping.keys.length ≤ limiter.queue.length
  evicts : ∀ new last, limiter.evicted = some last →
    ∃ occupied, (limiter.counted new).lookup last = some occupied ∧ 0 < occupied ∧
      (limiter.updateLimit new).mapping = decrement (limiter.counted new) last

theorem Counts.ne_zero {mapping : AList fun _ : String => Nat} {queue : List String}
    (counts : Counts mapping queue) (key : String) : mapping.lookup key ≠ some 0 := by
  rw [counts key]
  split
  · rename_i positive
    intro zero
    rw [Option.some.inj zero] at positive
    exact absurd positive (Nat.lt_irrefl 0)
  · exact (Option.some_ne_none 0).symm

/-- The evicted user was counted before, so its count is positive. -/
theorem RateLimiter.Represents.evicts {self : RateLimiter} {history : List String}
    (represents : self.Represents history) (new : String) {last : String}
    (evicted : self.evicted = some last) :
    ∃ occupied, (self.counted new).lookup last = some occupied ∧ 0 < occupied := by
  have present : self.queue.getLast? = some last := by
    unfold RateLimiter.evicted at evicted
    split at evicted
    · exact evicted
    · cases evicted
  have shape : self.queue = self.queue.dropLast ++ [last] :=
    (List.dropLast_append_getLast? last present).symm
  have inserted := represents.mapping.insert new
  rw [shape] at inserted
  have counts : Counts (self.counted new) ((new :: self.queue.dropLast) ++ [last]) := inserted
  exact ⟨_, counts.evicted, Nat.succ_pos _⟩

theorem RateLimiter.Represents.keeps {self : RateLimiter} {updates : List String}
    (represents : self.Represents updates.reverse) : self.Keeps self.maxQueueSize updates where
  counts := represents.mapping.getD
  nonzero := represents.mapping.ne_zero
  newest := represents.queue
  keys := represents.mapping.keys_le
  evicts new last evicted := by
    obtain ⟨occupied, found, positive⟩ := represents.evicts new evicted
    exact ⟨occupied, found, positive, updateLimit_evicted new evicted⟩

/-- Every run of updates is represented, newest first, and leaves the capacity alone. -/
theorem foldl_updateLimit_represents (updates : List String) {self : RateLimiter}
    {history : List String} (represents : self.Represents history) :
    (updates.foldl RateLimiter.updateLimit self).Represents (updates.reverse ++ history) ∧
      (updates.foldl RateLimiter.updateLimit self).maxQueueSize = self.maxQueueSize := by
  induction updates generalizing self history with
  | nil => exact ⟨represents, rfl⟩
  | cons new updates ih =>
      obtain ⟨after, capacity⟩ := ih (represents.updateLimit new)
      rw [List.foldl_cons, List.reverse_cons, List.append_assoc]
      exact ⟨after, capacity.trans (updateLimit_maxQueueSize self new)⟩

/-- A new limiter keeps its counts through every sequence of updates. -/
theorem rateLimiter_keeps (nonce maxQueueSize multiplicity : Nat) (updates : List String) :
    (updates.foldl RateLimiter.updateLimit
      (SyncState.new nonce maxQueueSize multiplicity).limit).Keeps maxQueueSize updates := by
  have start := SyncState.new_represents nonce maxQueueSize multiplicity
  obtain ⟨represents, capacity⟩ := foldl_updateLimit_represents updates start
  rw [List.append_nil] at represents
  have keeps := represents.keeps
  rw [capacity] at keeps
  exact keeps

end Web3Id.SomeIssuer
