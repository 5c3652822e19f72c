import Mathlib.Data.Fintype.Defs
import Mathlib.Logic.Function.Basic

namespace Web3Id.Library

/-- A broadcast channel keeps its last messages for every receiver that was there when they were
sent. A receiver counts the messages before its next one, and the channel is open while a sender is
left. -/
structure Broadcast (Receiver Message : Type) where
  capacity : Nat
  log : List Message
  seen : Receiver → Option Nat
  isOpen : Bool

/-- A receiver that is too slow is told how many messages it has missed. -/
inductive Received (Message : Type) where
  | message (message : Message)
  | lagged (missed : Nat)
  | closed
  | pending
  deriving DecidableEq, Repr

namespace Broadcast

variable {Receiver Message : Type}

def empty (capacity : Nat) : Broadcast Receiver Message := ⟨capacity, [], fun _ => none, true⟩

/-- The last sender is gone. -/
def close (channel : Broadcast Receiver Message) : Broadcast Receiver Message :=
  { channel with isOpen := false }

section Receivers

variable [DecidableEq Receiver]

/-- A new receiver sees the messages that are sent from now on. -/
def subscribe (channel : Broadcast Receiver Message) (receiver : Receiver) :
    Broadcast Receiver Message :=
  { channel with seen := Function.update channel.seen receiver (some channel.log.length) }

def drop (channel : Broadcast Receiver Message) (receiver : Receiver) :
    Broadcast Receiver Message :=
  { channel with seen := Function.update channel.seen receiver none }

end Receivers

/-- A message without any receiver is refused. -/
def send [Fintype Receiver] (channel : Broadcast Receiver Message) (message : Message) :
    Option (Broadcast Receiver Message) :=
  if ∃ receiver, (channel.seen receiver).isSome then
    some { channel with log := channel.log ++ [message] }
  else none

/-- What a receiver finds when it looks for its next message. -/
def receive (channel : Broadcast Receiver Message) (receiver : Receiver) : Received Message :=
  match channel.seen receiver with
  | none => .closed
  | some seen =>
      if seen + channel.capacity < channel.log.length then
        .lagged (channel.log.length - channel.capacity - seen)
      else
        match channel.log[seen]? with
        | some message => .message message
        | none => if channel.isOpen then .pending else .closed

/-- The receiver has every message of the channel before it. -/
def Fresh (channel : Broadcast Receiver Message) (receiver : Receiver) : Prop :=
  channel.seen receiver = some 0

/-- A fresh receiver finds the first message, while the channel keeps all messages. -/
theorem Fresh.receive {channel : Broadcast Receiver Message} {receiver : Receiver}
    (fresh : channel.Fresh receiver) (room : channel.log.length ≤ channel.capacity) :
    channel.receive receiver = match channel.log with
      | message :: _ => .message message
      | [] => if channel.isOpen then .pending else .closed := by
  rw [Fresh] at fresh
  unfold Broadcast.receive
  rw [fresh]
  simp only [Nat.zero_add, Nat.not_lt.mpr room, if_false]
  cases channel.log <;> rfl

end Broadcast

end Web3Id.Library
