import Mathlib.Data.Fintype.Defs
import Mathlib.Data.Finset.Insert
import Web3Id.Library.Broadcast

/-
This file is the start and the shutdown of an issuer service: its tasks, the channel that tells
them to stop, and the main function that waits for them.
-/

namespace Web3Id.Issuer

open Library

/-- The tasks that send a message on the channel when they end. -/
inductive Task where
  | shutdownSignal
  | prometheus
  | transactionSender
  | server
  deriving DecidableEq, Repr

instance : Fintype Task :=
  ⟨{.shutdownSignal, .prometheus, .transactionSender, .server}, by
    intro task
    cases task <;> decide⟩

inductive TaskState where
  | notStarted
  | running
  | finished
  | panicked
  | aborted
  deriving DecidableEq, Repr

/-- Each receiver waits in its own `shutdown_trigger`. -/
inductive Receiver where
  | died
  | prometheus
  | server
  deriving DecidableEq, Repr

instance : Fintype Receiver :=
  ⟨{.died, .prometheus, .server}, by
    intro receiver
    cases receiver <;> decide⟩

/-- The future that waits for a trigger belongs to a task, or to the main function. -/
def Receiver.task : Receiver → Option Task
  | .died => none
  | .prometheus => some .prometheus
  | .server => some .server

/-- How the main function ends. -/
inductive Outcome where
  | failedToStart
  | stopped
  | terminatedForcefully
  deriving DecidableEq, Repr

/-- The next statement of `start_services`. -/
inductive Stage where
  | channel
  | prometheusReceiver
  | serverReceiver
  | setShutdown
  | startPrometheus
  | startSender
  | startServer
  | awaitTrigger
  | awaitServer
  | returned (outcome : Outcome)
  deriving DecidableEq, Repr

/-- The messages in the log about the channel. -/
inductive LogMessage where
  | channelClosed
  | unableToNotify
  deriving DecidableEq, Repr

structure Services where
  prometheusAddress : Bool
  stage : Stage
  died : Broadcast Receiver Unit
  tasks : Task → TaskState
  triggered : Receiver → Bool
  log : List LogMessage

def Services.start (prometheusAddress : Bool) : Services where
  prometheusAddress := prometheusAddress
  stage := .channel
  died := .empty 10
  tasks _ := .notStarted
  triggered _ := false
  log := []

/-- The tasks end or panic, the futures look at the channel, and the main function goes on. Its
statement fails when the signal handler cannot be set or the address cannot be bound. -/
inductive ServiceEvent where
  | main
  | mainFails
  | poll (receiver : Receiver)
  | finish (task : Task)
  | panic (task : Task)
  | timeout
  deriving DecidableEq, Repr

namespace Services

def spawn (self : Services) (task : Task) : Services :=
  { self with tasks := Function.update self.tasks task .running }

/-- The end of the main function ends the process. -/
def finish (self : Services) (outcome : Outcome) : Services :=
  { self with
    stage := .returned outcome
    died := self.died.close
    tasks := fun task => if self.tasks task = .running then .aborted else self.tasks task }

/-- The main function goes on by one statement. -/
def main (self : Services) : Services :=
  match self.stage with
  | .channel =>
      { self with stage := .prometheusReceiver, died := self.died.subscribe .died }
  | .prometheusReceiver =>
      { self with stage := .serverReceiver, died := self.died.subscribe .prometheus }
  | .serverReceiver => { self with stage := .setShutdown, died := self.died.subscribe .server }
  | .setShutdown => { self.spawn .shutdownSignal with stage := .startPrometheus }
  | .startPrometheus =>
      if self.prometheusAddress then { self.spawn .prometheus with stage := .startSender }
      else { self with stage := .startSender }
  | .startSender => { self.spawn .transactionSender with stage := .startServer }
  | .startServer => { self.spawn .server with stage := .awaitTrigger }
  | .awaitServer => if self.tasks .server = .running then self else self.finish .stopped
  | .awaitTrigger | .returned _ => self

/-- A future looks at the channel while its task or the main function waits for it. -/
def polls (self : Services) (receiver : Receiver) : Bool :=
  !self.triggered receiver &&
    match receiver.task with
    | none => self.stage = .awaitTrigger
    | some task => self.tasks task = .running

/-- The future ends with any answer of the channel, and an error is logged. -/
def shutdownTrigger (self : Services) (receiver : Receiver) : Services :=
  let self := { self with
    died := self.died.drop receiver
    triggered := Function.update self.triggered receiver true }
  match receiver with
  | .died => { self with stage := .awaitServer }
  | _ => self

def logs (self : Services) (message : LogMessage) : Services :=
  { self with log := self.log ++ [message] }

def poll (self : Services) (receiver : Receiver) : Services :=
  match self.died.receive receiver with
  | .pending => self
  | .message _ => self.shutdownTrigger receiver
  | .closed | .lagged _ => (self.logs .channelClosed).shutdownTrigger receiver

/-- A task that ends drops the future that it waits for. -/
def dropReceiver (self : Services) (task : Task) : Broadcast Receiver Unit :=
  match task with
  | .prometheus => self.died.drop .prometheus
  | .server => self.died.drop .server
  | _ => self.died

/-- The wrapper of `spawn_cancel` sends a message after a normal end and ignores an error, and the
task for the signals logs one. -/
def finishTask (self : Services) (task : Task) : Services :=
  let tasks := Function.update self.tasks task .finished
  match (self.dropReceiver task).send () with
  | some died => { self with tasks := tasks, died := died }
  | none =>
      let self := { self with tasks := tasks, died := self.dropReceiver task }
      if task = .shutdownSignal then self.logs .unableToNotify else self

def step (self : Services) : ServiceEvent → Services
  | .main => self.main
  | .mainFails =>
      match self.stage with
      | .setShutdown | .startServer => self.finish .failedToStart
      | _ => self
  | .poll receiver => if self.polls receiver then self.poll receiver else self
  | .finish task => if self.tasks task = .running then self.finishTask task else self
  | .panic task =>
      if self.tasks task = .running then
        { self with
          tasks := Function.update self.tasks task .panicked
          died := self.dropReceiver task }
      else self
  | .timeout =>
      match self.stage with
      | .awaitServer =>
          if self.tasks .server = .running then self.finish .terminatedForcefully else self
      | _ => self

def run (self : Services) (events : List ServiceEvent) : Services := events.foldl step self

end Services

end Web3Id.Issuer
