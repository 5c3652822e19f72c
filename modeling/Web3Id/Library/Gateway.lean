import Web3Id.Library.JobTrace

namespace Web3Id.Library

open Worker

/-- A gateway takes requests from outside and hands at most one job on for each of them. -/
structure Gateway (Front Request Job : Type) where
  step : Front → Request → Front × Option Job

namespace Gateway

variable {Front Request State Clock Job Call Reply Answer : Type}

/-- A service is a gateway in front of a worker, with the jobs that it has handed over. -/
structure Service (Front State Job Call Reply Answer : Type) where
  front : Front
  handed : List (Nat × Job)
  system : System State Job Call Reply Answer

/-- The requests come to the gateway, and everything else happens at the worker. -/
inductive ServiceEvent (Request Clock Job Reply : Type) where
  | request (client : Nat) (request : Request)
  | worker (event : Event Clock Job Reply)

def Service.start (front : Front) (state : State) : Service Front State Job Call Reply Answer :=
  ⟨front, [], .initial state⟩

/-- A request with a job connects its client to the worker. -/
def Service.receive (worker : Worker State Clock Job Call Reply Answer)
    (service : Service Front State Job Call Reply Answer) (client : Nat) :
    Front × Option Job → Service Front State Job Call Reply Answer
  | (front, none) => { service with front := front }
  | (front, some job) =>
      { front := front
        handed := service.handed ++ [(client, job)]
        system := service.system.step worker (.connect client job) }

/-- Only the gateway connects clients to the worker. -/
def Service.step (gateway : Gateway Front Request Job)
    (worker : Worker State Clock Job Call Reply Answer)
    (service : Service Front State Job Call Reply Answer) :
    ServiceEvent Request Clock Job Reply → Service Front State Job Call Reply Answer
  | .request client request => service.receive worker client (gateway.step service.front request)
  | .worker (.connect _ _) => service
  | .worker event => { service with system := service.system.step worker event }

def Service.run (gateway : Gateway Front Request Job)
    (worker : Worker State Clock Job Call Reply Answer)
    (service : Service Front State Job Call Reply Answer)
    (events : List (ServiceEvent Request Clock Job Reply)) :
    Service Front State Job Call Reply Answer := events.foldl (Service.step gateway worker) service

/-- A request hands over at most the job of its gateway, for its own client. -/
theorem Service.step_handed {gateway : Gateway Front Request Job}
    {worker : Worker State Clock Job Call Reply Answer}
    {service : Service Front State Job Call Reply Answer} {client : Nat} {request : Request}
    {entry : Nat × Job}
    (member : entry ∈ (service.step gateway worker (.request client request)).handed) :
    entry ∈ service.handed ∨
      entry.1 = client ∧ (gateway.step service.front request).2 = some entry.2 := by
  simp only [Service.step] at member
  generalize gateway.step service.front request = result at member ⊢
  obtain ⟨front, _ | job⟩ := result
  · exact .inl member
  · rcases List.mem_append.mp member with before | now
    · exact .inl before
    · cases List.mem_singleton.mp now
      exact .inr ⟨rfl, rfl⟩

/-- Only requests hand over jobs. -/
theorem Service.step_worker_handed (gateway : Gateway Front Request Job)
    (worker : Worker State Clock Job Call Reply Answer)
    (service : Service Front State Job Call Reply Answer) (event : Event Clock Job Reply) :
    (service.step gateway worker (.worker event)).handed = service.handed := by
  cases event <;> rfl

/-- The history of a service only grows, and its front moves with the gateway. -/
structure Service.Grows (gateway : Gateway Front Request Job)
    (first second : Service Front State Job Call Reply Answer) : Prop where
  handed : ∀ entry ∈ first.handed, entry ∈ second.handed
  sent : ∀ sent ∈ first.system.sent, sent ∈ second.system.sent
  front : second.front = first.front ∨
    ∃ request, second.front = (gateway.step first.front request).1

theorem Service.step_grows (gateway : Gateway Front Request Job)
    (worker : Worker State Clock Job Call Reply Answer)
    (service : Service Front State Job Call Reply Answer)
    (event : ServiceEvent Request Clock Job Reply) :
    Service.Grows gateway service (service.step gateway worker event) := by
  cases event with
  | request client request =>
      have front : (service.receive worker client (gateway.step service.front request)).front =
          (gateway.step service.front request).1 := by
        unfold Service.receive
        split <;> simp_all
      refine ⟨?_, ?_, .inr ⟨request, front⟩⟩
      · intro entry member
        simp only [Service.step, Service.receive]
        split
        · exact member
        · exact List.mem_append_left _ member
      · intro sent member
        simp only [Service.step, Service.receive]
        split
        · exact member
        · exact service.system.step_sent worker _ sent member
  | worker event =>
      cases event with
      | connect client job => exact ⟨fun _ => id, fun _ => id, .inl rfl⟩
      | _ => exact ⟨fun _ => id, service.system.step_sent worker _, .inl rfl⟩

/-- A job is authorised by what the gateway has seen, and stays authorised. -/
structure Authorises (gateway : Gateway Front Request Job) (sound : Front → Prop)
    (authorised : Front → Job → Prop) : Prop where
  keeps : ∀ front request, sound front → sound (gateway.step front request).1
  grows : ∀ front request job, sound front → authorised front job →
    authorised (gateway.step front request).1 job
  hands : ∀ front request job, sound front → (gateway.step front request).2 = some job →
    authorised (gateway.step front request).1 job

/-- The service hands over authorised jobs only, and its worker follows each of them. -/
structure Guarded (worker : Worker State Clock Job Call Reply Answer) (holds : State → Prop)
    (reads : Nat → Clock → Prop) (sound : Front → Prop) (authorised : Front → Job → Prop)
    (service : Service Front State Job Call Reply Answer) : Prop where
  front : sound service.front
  jobs : ∀ entry ∈ service.handed, authorised service.front entry.2
  system : Traced worker holds (fun client job => (client, job) ∈ service.handed) reads
    service.system

variable {gateway : Gateway Front Request Job} {worker : Worker State Clock Job Call Reply Answer}
  {holds : State → Prop} {reads : Nat → Clock → Prop} {sound : Front → Prop}
  {authorised : Front → Job → Prop} {service : Service Front State Job Call Reply Answer}

theorem Guarded.start {front : Front} {state : State} (begins : sound front)
    (initial : holds state) : Guarded worker holds reads sound authorised (.start front state) where
  front := begins
  jobs := by simp [Service.start]
  system := .initial initial

theorem Guarded.step (authorises : gateway.Authorises sound authorised)
    (keeps : worker.Keeps holds) (guarded : Guarded worker holds reads sound authorised service)
    (event : ServiceEvent Request Clock Job Reply)
    (takes : ∀ move, event = .worker move → ∀ client clock,
      service.system.Takes move client clock → reads client clock) :
    Guarded worker holds reads sound authorised (service.step gateway worker event) := by
  cases event with
  | request client request =>
      have front := authorises.keeps service.front request guarded.front
      have grows := fun job => authorises.grows service.front request job guarded.front
      have hands := fun job => authorises.hands service.front request job guarded.front
      simp only [Service.step]
      generalize gateway.step service.front request = result at front grows hands
      obtain ⟨after, _ | job⟩ := result
      · exact ⟨front, fun entry member => grows _ (guarded.jobs entry member), guarded.system⟩
      · refine ⟨front, ?_, ?_⟩
        · intro entry member
          rcases List.mem_append.mp member with before | now
          · exact grows _ (guarded.jobs entry before)
          · cases List.mem_singleton.mp now
            exact hands job rfl
        · have known := guarded.system.mono fun other brought listed =>
            List.mem_append_left [(client, job)] listed
          refine known.step keeps (.connect client job) ?_ (by simp [System.Takes])
          rintro _ _ ⟨⟩ -
          exact List.mem_append_right _ (List.mem_singleton.mpr rfl)
  | worker event =>
      have moved : (∀ client job, event ≠ .connect client job) →
          Guarded worker holds reads sound authorised
            { service with system := service.system.step worker event } := by
        intro other
        refine ⟨guarded.front, guarded.jobs, ?_⟩
        exact guarded.system.step keeps _ (fun client job same => absurd same (other client job))
          (takes event rfl)
      cases event with
      | connect client job => exact guarded
      | _ => exact moved (by simp)

/-- Every interleaving of requests with the worker hands over authorised jobs only. -/
theorem Guarded.run (authorises : gateway.Authorises sound authorised) (keeps : worker.Keeps holds)
    (guarded : Guarded worker holds (fun _ _ => True) sound authorised service)
    (events : List (ServiceEvent Request Clock Job Reply)) :
    Guarded worker holds (fun _ _ => True) sound authorised
      (service.run gateway worker events) := by
  induction events generalizing service with
  | nil => exact guarded
  | cons event events ih => exact ih (guarded.step authorises keeps event fun _ _ _ _ _ => trivial)

end Gateway

end Web3Id.Library
