import Web3Id.Construction.Issuer.IssueCredential
import Web3Id.Construction.Issuer.Node
import Web3Id.Library.ChannelWorker

/-
This file puts the request handler of the generic issuer service in front of its worker.
-/

namespace Web3Id.Web3IdIssuer

open Library Library.Worker

/-- The clients of the worker are the request handlers of the generic issuer. -/
abbrev IssuerSystem :=
  System IssuerWorker IssueChannelData RegisterCall RegisterReply (Except Error TransactionHash)

/-- The service runs one handler for each request. -/
structure Service where
  requests : Nat → Option (Except String IssueRequest)
  system : IssuerSystem

def Service.start (worker : IssuerWorker) : Service := ⟨fun _ => none, .initial worker⟩

/-- The requests come to the handlers, and everything else happens at the channel and the worker. -/
inductive HttpEvent where
  | request (client : Nat) (request : Except String IssueRequest)
  | worker (event : Event UInt64 IssueChannelData RegisterReply)

namespace Service

/-- A handler with a job brings it to the channel. -/
def handle (sdk : Sdk) (state : State) (randomness : Nat → String → Bytes) (capacity : Nat)
    (service : Service) (client : Nat) (request : Except String IssueRequest) : Service :=
  let requests := Function.update service.requests client (some request)
  match (issueCredential sdk state (randomness client) request).firstCall with
  | none => { service with requests := requests }
  | some job => ⟨requests, service.system.step (channelWorker capacity) (.connect client job)⟩

def step (sdk : Sdk) (state : State) (randomness : Nat → String → Bytes) (capacity : Nat)
    (service : Service) : HttpEvent → Service
  | .request client request =>
      match service.requests client with
      | none => service.handle sdk state randomness capacity client request
      | some _ => service
  | .worker (.connect _ _) => service
  | .worker event => { service with system := service.system.step (channelWorker capacity) event }

def run (sdk : Sdk) (state : State) (randomness : Nat → String → Bytes) (capacity : Nat)
    (service : Service) (events : List HttpEvent) : Service :=
  events.foldl (step sdk state randomness capacity) service

/-- What a handler has got from the worker. -/
def workerReply : Option (Client IssueChannelData (Except Error TransactionHash)) →
    Option WorkerReply
  | some (.returned answer) => some (.answered answer)
  | some .failed => some .dropped
  | _ => none

/-- The response of a handler that has ended. -/
def response (sdk : Sdk) (state : State) (randomness : Nat → String → Bytes) (service : Service)
    (client : Nat) : Option (Except IssueError IssueResponse) :=
  match service.requests client with
  | none => none
  | some request =>
      match issueCredential sdk state (randomness client) request with
      | .pure answer => some answer
      | .call _ next =>
          (workerReply (service.system.clients client)).bind fun reply =>
            match next reply with
            | .pure answer => some answer
            | .call _ _ => none

end Service

end Web3Id.Web3IdIssuer
