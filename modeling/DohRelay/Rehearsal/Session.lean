import DohRelay.Rehearsal.Schedule
import DohRelay.Service.State

/-!
# Rehearsals of the service

Clients turn to a service whose endpoint follows a script.

## Main definitions

* `Session.Script`, `Session` — what the endpoint does, and the state of a rehearsal.
* `Session.schedule` — who can do what.
* `Session.arrive`, `Session.submit`, `Session.abort` — clients come and go.
-/

namespace DohRelay.Rehearsal

open Cache (CallerId)

/-- What comes of the request that is sent after a number of others: how long that takes, and what
the response to the request is. -/
abbrev Session.Script := Nat → Nat × (Http.Request → Except Error Http.Response)

/-- A rehearsal of the service. -/
structure Session where
  /-- The service. -/
  service : Service.State
  /-- What the endpoint does. -/
  script : Session.Script
  /-- What the lookup service responds, or why it does not; it takes no time. -/
  lookup : Except Error Http.Response
  /-- The clients, in the order they came. -/
  ids : List CallerId

namespace Session

/-- Before the first client. -/
def start (config : Config) (fetchTimeout : Nat) (script : Script)
    (lookup : Except Error Http.Response) : Session :=
  ⟨.start config fetchTimeout, script, lookup, []⟩

/-- Lets something happen in the service. -/
def apply (s : Session) (e : Service.Event) : Option Session :=
  (s.service.step e).map fun service => { s with service }

/-- A client comes; `e` is that event for the name the client gets. -/
def enroll (s : Session) (e : CallerId → Service.Event) : CallerId × Session :=
  let id := s.ids.length
  (id, { (s.apply (e id)).getD s with ids := s.ids ++ [id] })

/-- A client hands in octets. -/
def arrive (s : Session) (carrier : Service.Carrier) (bytes : List UInt8) : CallerId × Session :=
  s.enroll fun id => .arrive id carrier bytes

/-- A client hands in a query. -/
def submit (s : Session) (query : Dns.Message) : CallerId × Session :=
  s.enroll fun id => .submit id query

/-- The response to the request of an errand that has one on its way, and when it comes. -/
def responseAt (s : Session) (id : CallerId) :
    Option (Nat × (Unit → Except Error Http.Response)) := do
  let index ← s.service.calls.findIdx? (·.fetch == id)
  let call ← s.service.calls[index]?
  if s.service.cache.isRunning id then
    let (delay, response) := s.script index
    return (call.sentAt + delay, fun _ => response call.request)
  else none

/-- What an errand and its fetch do next. -/
def errandStep (s : Session) (id : CallerId) : Option Session :=
  match s.responseAt id with
  | some (time, response) =>
    if time ≤ s.service.now then s.apply (.respond id (response ()))
    else (s.service.errandEvent? id).bind s.apply
  | none => (s.service.errandEvent? id).bind s.apply

/-- What a client does next, including the lookup of the address. -/
def clientStep (s : Session) (id : CallerId) : Option Session :=
  match s.service.detection.callers.find? id with
  | some (.lookingUp _) =>
    s.apply (.detection (.lookedUp id (Subnet.found s.lookup).toOption))
  | _ => (s.service.clientEvent? id).bind s.apply

/-- What a client does next.  Where the cache is switched off, that includes the errand of the
client, which comes before giving up. -/
def ownStep (id : CallerId) (s : Session) : Option Session :=
  if s.service.cache.enabled then s.clientStep id
  else
    match s.errandStep id with
    | some s => some s
    | none => s.clientStep id

/-- What anybody but a client does next.  Errands, which have been ready for longer, come before
clients. -/
def otherStep (front : Option CallerId) (s : Session) : Option Session :=
  let others := s.ids.filter fun id => front ≠ some id
  let errands := if s.service.cache.enabled then s.ids else others
  (errands.findSome? s.errandStep).or (others.findSome? (ownStep · s))

/-- Whether a client has come to an end. -/
def isOver (id : CallerId) (s : Session) : Bool :=
  s.service.isOver id

/-- The times at which a fetch ends or a client gives up. -/
def dueTimes (s : Session) : List Nat :=
  s.service.cache.deadlines ++ (s.ids.filterMap fun id => (s.responseAt id).map Prod.fst) ++
    s.service.clients.values.filterMap fun c =>
      match c.stage with
      | .asking _ _ _ since => some (since + s.service.config.queryTimeout)
      | _ => none

/-- Who can do what. -/
def schedule : Schedule Session where
  ownStep
  otherStep
  isOver
  now s := s.service.now
  setNow now s := { s with service := { s.service with now } }
  dueTimes

/-- All of some clients go away who have not come to an end. -/
def abort (ids : List CallerId) (s : Session) : Session :=
  let unfinished := ids.filter fun id => !s.isOver id
  if unfinished.isEmpty then s
  else schedule.settle none (unfinished.foldl (fun s id => (s.apply (.leave id)).getD s) s)

end Session

end DohRelay.Rehearsal
