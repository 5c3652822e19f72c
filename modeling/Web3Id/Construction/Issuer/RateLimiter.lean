import Mathlib.Data.List.AList

/-
This file is the rate limiter of the Telegram and Discord issuers.
-/

namespace Web3Id.SomeIssuer

/-- The queue keeps the newest user first, and the mapping counts the users of the queue. -/
structure RateLimiter where
  multiplicity : Nat
  maxQueueSize : Nat
  queue : List String
  mapping : AList fun _ : String => Nat
  deriving DecidableEq

def RateLimiter.checkLimit (self : RateLimiter) (new : String) : Bool :=
  let multiplicity := (self.mapping.lookup new).getD 0
  multiplicity < self.multiplicity

/-- The eviction decrements one count and removes the key at zero. -/
def decrement (mapping : AList fun _ : String => Nat) (last : String) :
    AList fun _ : String => Nat :=
  match mapping.lookup last with
  | some occupied =>
      if occupied - 1 = 0 then mapping.erase last else mapping.insert last (occupied - 1)
  | none => mapping

def RateLimiter.updateLimit (self : RateLimiter) (new : String) : RateLimiter :=
  let mapping := self.mapping.insert new ((self.mapping.lookup new).getD 0 + 1)
  if self.queue.length ≥ self.maxQueueSize then
    match self.queue.getLast? with
    | some last =>
        { self with queue := new :: self.queue.dropLast, mapping := decrement mapping last }
    | none => { self with queue := new :: self.queue, mapping := mapping }
  else { self with queue := new :: self.queue, mapping := mapping }

structure SyncState where
  nonce : Nat
  limit : RateLimiter
  deriving DecidableEq

def SyncState.new (nonce maxQueueSize multiplicity : Nat) : SyncState where
  nonce := nonce
  limit :=
    { queue := []
      mapping := ∅
      multiplicity := multiplicity
      maxQueueSize := maxQueueSize }

end Web3Id.SomeIssuer
