import Mathlib.Data.List.Nodup
import Mathlib.Data.List.Range
import Mathlib.Logic.Function.Basic
import Web3Id.Library.Program

namespace Web3Id.Library

/-- A worker takes jobs from a bounded channel and runs one iteration for each of them. An
iteration returns the next state, the answer for the client, and whether the loop goes on. -/
structure Worker (State Clock Job Call Reply Answer : Type) where
  capacity : Nat
  iteration : State → Clock → Job → Program Call (fun _ => Reply) (State × Answer × Bool)

namespace Worker

variable {State Clock Job Call Reply Answer : Type}

/-- A client first waits for room in the channel and then for its answer. -/
inductive Client (Job Answer : Type) where
  | sending (job : Job)
  | waiting
  | answered (answer : Answer)
  | returned (answer : Answer)
  | failed
  | cancelled

/-- A busy worker waits for the reply to a call that serves one client. -/
inductive Phase (State Call Reply Answer : Type) where
  | idle
  | busy (client : Nat) (program : Program Call (fun _ => Reply) (State × Answer × Bool))
  | stopped

/-- A stopped worker has dropped its end of the channel. -/
def Phase.running : Phase State Call Reply Answer → Bool
  | .stopped => false
  | _ => true

/-- A completed call names the client that it served. -/
structure Sent (Call Reply : Type) where
  client : Nat
  call : Call
  reply : Reply

/-- The system holds the clients, the channel, the worker, and the history of both ends. -/
structure System (State Job Call Reply Answer : Type) where
  clients : Nat → Option (Client Job Answer)
  queue : List (Nat × Job)
  state : State
  phase : Phase State Call Reply Answer
  enqueued : List Nat
  dequeued : List Nat
  sent : List (Sent Call Reply)

/-- The system starts with an idle worker and an empty channel. -/
def System.initial (state : State) : System State Job Call Reply Answer :=
  ⟨fun _ => none, [], state, .idle, [], [], []⟩

/-- The events are the moves of the clients, of the worker, and of its environment. -/
inductive Event (Clock Job Reply : Type) where
  | connect (client : Nat) (job : Job)
  | enqueue (client : Nat)
  | refuse (client : Nat)
  | dequeue (clock : Clock)
  | reply (reply : Reply)
  | cancel (client : Nat)
  | read (client : Nat)
  | abandon (client : Nat)

/-- The answer reaches a client that still waits, and is dropped otherwise. -/
def System.deliver (system : System State Job Call Reply Answer) (client : Nat) (answer : Answer) :
    Nat → Option (Client Job Answer) :=
  match system.clients client with
  | some .waiting => Function.update system.clients client (some (.answered answer))
  | _ => system.clients

/-- The worker waits for its next reply, or ends the iteration with the answer. -/
def System.settle (system : System State Job Call Reply Answer) (client : Nat) :
    Program Call (fun _ => Reply) (State × Answer × Bool) → System State Job Call Reply Answer
  | .pure (state, answer, continues) =>
      { system with
        state := state
        phase := if continues then .idle else .stopped
        clients := system.deliver client answer }
  | program => { system with phase := .busy client program }

/-- The worker removes the oldest job of the channel. -/
def System.take (system : System State Job Call Reply Answer) (client : Nat)
    (rest : List (Nat × Job)) : System State Job Call Reply Answer :=
  { system with queue := rest, dequeued := system.dequeued ++ [client] }

/-- The history keeps each completed call. -/
def System.record (system : System State Job Call Reply Answer) (sent : Sent Call Reply) :
    System State Job Call Reply Answer := { system with sent := system.sent ++ [sent] }

/-- Each event acts where it is enabled and leaves the system as it is elsewhere. -/
def System.step (worker : Worker State Clock Job Call Reply Answer)
    (system : System State Job Call Reply Answer) :
    Event Clock Job Reply → System State Job Call Reply Answer
  | .connect client job =>
      match system.clients client with
      | none => { system with clients := Function.update system.clients client (some (.sending job)) }
      | some _ => system
  | .enqueue client =>
      match system.clients client with
      | some (.sending job) =>
          if system.phase.running ∧ system.queue.length < worker.capacity then
            { system with
              clients := Function.update system.clients client (some .waiting)
              queue := system.queue ++ [(client, job)]
              enqueued := system.enqueued ++ [client] }
          else system
      | _ => system
  | .refuse client =>
      match system.clients client with
      | some (.sending _) =>
          if system.phase.running then system
          else { system with clients := Function.update system.clients client (some .failed) }
      | _ => system
  | .dequeue clock =>
      match system.phase, system.queue with
      | .idle, (client, job) :: rest =>
          (system.take client rest).settle client (worker.iteration system.state clock job)
      | _, _ => system
  | .reply reply =>
      match system.phase with
      | .busy client (.call call next) =>
          (system.record ⟨client, call, reply⟩).settle client (next reply)
      | _ => system
  | .cancel client =>
      match system.clients client with
      | some (.sending _) | some .waiting | some (.answered _) =>
          { system with clients := Function.update system.clients client (some .cancelled) }
      | _ => system
  | .read client =>
      match system.clients client with
      | some (.answered answer) =>
          { system with clients := Function.update system.clients client (some (.returned answer)) }
      | _ => system
  | .abandon client =>
      match system.clients client with
      | some .waiting =>
          if system.phase.running then system
          else { system with clients := Function.update system.clients client (some .failed) }
      | _ => system

/-- The events act one after the other. -/
def System.run (worker : Worker State Clock Job Call Reply Answer)
    (system : System State Job Call Reply Answer) (events : List (Event Clock Job Reply)) :
    System State Job Call Reply Answer := events.foldl (System.step worker) system

end Worker

end Web3Id.Library
