import DohRelay.Exchange.Inquiry
import DohRelay.Stats
import DohRelay.Subnet.Detection

/-!
# The service at work

Clients hand in messages and get replies.  A client whose message is a query that policy does not
answer is told the network to advertise, asks the cache, and waits up to a certain time; where the
cache has no answer, an errand to the endpoint is run for the fetch.  Whatever goes wrong ends in a
reply that says so.

As in the cache, what clients and errands do is cut into events, and others may come in between.  A
client has the same name in the service, in the cache and in the detection of the network.  Times
are in milliseconds.

## Main definitions

* `Service.Stage`, `Service.Client`, `Service.Errand`, `Service.State` — the service and who is in
  it.
* `Service.Event`, `Service.State.step` — what can happen, and what comes of it.
* `Service.State.takeSnapshot` — the counters are read.
* `Service.State.clientEvent?`, `Service.State.errandEvent?` — what a client or an errand does next.
-/

namespace DohRelay.Service

open Cache (CallerId)

/-- How messages of a client travel. -/
inductive Carrier
  /-- Each in a datagram. -/
  | datagram
  /-- One after the other through a connection. -/
  | connection
  deriving DecidableEq, Repr

/-- How many octets a reply to a query may have. -/
def Carrier.limit (query : Dns.Message) : Carrier → Nat
  | datagram => query.datagramLimit
  | connection => 65535

/-- How far a client has come. -/
inductive Stage
  /-- The client waits to be told the network to advertise. -/
  | locating (query : Dns.Message) (question : Dns.Question)
  /-- The client waits for the cache, and does so since a certain time. -/
  | asking (query : Dns.Message) (question : Dns.Question) (subnet : Option Net.Network)
      (since : Nat)
  /-- There is an answer for the client. -/
  | decided (query answer : Dns.Message) (resolution : Resolution)
  /-- The client has octets as reply, or none. -/
  | replied (reply : Option (List UInt8)) (resolution : Resolution)
  /-- The client has a message as reply. -/
  | told (answer : Dns.Message) (resolution : Resolution)
  /-- The client went away, or died. -/
  | gone

/-- Whether a client has come to an end. -/
def Stage.isOver : Stage → Bool
  | replied _ _ | told _ _ | gone => true
  | _ => false

/-- A client. -/
structure Client where
  /-- How messages of the client travel; one who hands in no octets gets no octets either, and is
  not counted. -/
  carrier : Option Carrier
  /-- When the client came. -/
  arrivedAt : Nat
  /-- How far the client has come. -/
  stage : Stage

/-- How far an errand has come. -/
inductive ErrandPhase
  /-- Nothing was done yet. -/
  | ready
  /-- A request was sent, which asks a question. -/
  | sent (question : Dns.Question)
  /-- It is over. -/
  | done

/-- What a fetch for a client is to do. -/
structure Errand where
  /-- The query that is to be answered. -/
  query : Dns.Message
  /-- The network to advertise. -/
  subnet : Option Net.Network
  /-- How far the errand has come. -/
  phase : ErrandPhase

/-- A request that was sent to the endpoint. -/
structure Call where
  /-- The fetch it was sent for. -/
  fetch : CallerId
  /-- When it was sent. -/
  sentAt : Nat
  /-- The request. -/
  request : Http.Request

/-- The service. -/
structure State where
  /-- What it was told when it started. -/
  config : Config
  /-- The time. -/
  now : Nat
  /-- The cache. -/
  cache : Cache.State
  /-- The detection of the network to advertise. -/
  detection : Subnet.Detection
  /-- The clients. -/
  clients : Table CallerId Client
  /-- The errands, by the clients whose fetches they are for. -/
  errands : Table CallerId Errand
  /-- The requests that were sent, in order. -/
  calls : List Call
  /-- The counters. -/
  stats : Stats

/-- The service before the first client, with a time that fetches may take. -/
def State.start (config : Config) (fetchTimeout : Nat) : State where
  config
  now := 0
  cache := .start config.cache fetchTimeout
  detection := .start (match config.subnet with
    | .detect _ refresh => refresh.map (· * 1000)
    | _ => none)
  clients := .empty
  errands := .empty
  calls := []
  stats := .zero

/-- What can happen. -/
inductive Event
  /-- A client hands in octets. -/
  | arrive (id : CallerId) (carrier : Carrier) (bytes : List UInt8)
  /-- A client hands in a query. -/
  | submit (id : CallerId) (query : Dns.Message)
  /-- Something happens in the detection of the network. -/
  | detection (e : Subnet.DetectionEvent)
  /-- A client, told the network to advertise, turns to the cache. -/
  | ask (id : CallerId)
  /-- Something happens in the cache. -/
  | cache (e : Cache.Event)
  /-- A client gets what the cache has come to. -/
  | decide (id : CallerId)
  /-- A client has waited too long for the cache. -/
  | giveUp (id : CallerId)
  /-- A client gets the reply. -/
  | reply (id : CallerId)
  /-- A client goes away, or dies. -/
  | leave (id : CallerId)
  /-- An errand is begun. -/
  | send (id : CallerId)
  /-- The request of an errand is answered, or fails. -/
  | respond (id : CallerId) (response : Except Error Http.Response)
  /-- Time passes. -/
  | tick (millis : Nat)

namespace State

/-! ### Clients -/

/-- The service after a client has come to some stage. -/
def setClient (s : State) (id : CallerId) (c : Client) (stage : Stage) : State :=
  { s with clients := s.clients.insert id { c with stage } }

/-- The service after a query was counted that came at some time. -/
def count (s : State) (r : Resolution) (since : Nat) : State :=
  { s with stats := s.stats.record r ((s.now - since) * 1000000) }

/-- The stage that a client with a query begins at. -/
def firstStage (s : State) (query : Dns.Message) : Stage :=
  match query.question with
  | .error _ => .decided query query.servFailFor .failed
  | .ok question =>
    if s.config.noAaaa && question.isAaaa then .decided query query.emptyAnswerFor .synthesized
    else .locating query question

/-- Whether the network to advertise is detected. -/
def detects (s : State) : Bool :=
  match s.config.subnet with
  | .detect _ _ => true
  | _ => false

/-- A client with a query comes, under a name that no other had. -/
def enroll (s : State) (id : CallerId) (carrier : Option Carrier) (query : Dns.Message) :
    Option State :=
  match s.clients.find? id with
  | some _ => none
  | none =>
    let stage := s.firstStage query
    let s := s.setClient id ⟨carrier, s.now, stage⟩ stage
    match stage with
    | .locating _ _ =>
      if s.detects then (s.detection.arrive id).map fun detection => { s with detection }
      else some s
    | _ => some s

/-- A client hands in octets.  If they are no query, the reply says so. -/
def arrive (s : State) (id : CallerId) (carrier : Carrier) (bytes : List UInt8) : Option State :=
  match Dns.Message.decode bytes with
  | .ok query => s.enroll id (some carrier) query
  | .error _ =>
    match s.clients.find? id with
    | some _ => none
    | none =>
      let stage := Stage.replied (Dns.malformedReply bytes) .failed
      some ((s.setClient id ⟨some carrier, s.now, stage⟩ stage).count .failed s.now)

/-- The network to advertise for a client, if it is known by now. -/
def located (s : State) (id : CallerId) : Option (Option Net.Network) :=
  match s.config.subnet with
  | .disabled => some none
  | .fixed net => some (some net)
  | .detect _ _ =>
    match s.detection.callers.find? id with
    | some (.told net) => some net
    | _ => none

/-- A client, told the network to advertise, turns to the cache with an errand. -/
def ask (s : State) (id : CallerId) : Option State :=
  match s.clients.find? id, s.located id with
  | some c, some subnet =>
    match c.stage with
    | .locating query question => do
      let cache ← s.cache.arrive id (Fingerprint.ofQuery query question subnet) .fetched
      let s := { s with cache, errands := s.errands.insert id ⟨query, subnet, .ready⟩ }
      return s.setClient id c (.asking query question subnet s.now)
    | _ => none
  | _, _ => none

/-- A client gets what the cache has come to. -/
def decide (s : State) (id : CallerId) : Option State :=
  match s.clients.find? id, (s.cache.callers.find? id).map Cache.Caller.phase with
  | some c, some phase =>
    match c.stage, phase with
    | .asking query _ _ _, .answered answer outcome =>
      some (s.setClient id c (.decided query (answer.answering query) (.ofOutcome outcome)))
    | .asking query _ _ _, .failed _ =>
      some (s.setClient id c (.decided query query.servFailFor .failed))
    | _, _ => none
  | _, _ => none

/-- Whether an errand is to be begun, which is its death. -/
def isDoomed (s : State) (id : CallerId) : Bool :=
  match s.errands.find? id with
  | some ⟨query, subnet, .ready⟩ =>
    s.cache.isRunning id &&
      match Inquiry.plan s.config query subnet with
      | .error .death => true
      | _ => false
  | _ => false

/-- Whether a client is about to die.  Where the cache is switched off, the client runs the errand,
and dies with it. -/
def isDying (s : State) (id : CallerId) : Bool :=
  !s.cache.enabled && s.isDoomed id

/-- A client has waited too long for the cache and can do nothing there now. -/
def giveUp (s : State) (id : CallerId) : Option State :=
  match s.clients.find? id with
  | some c =>
    match c.stage with
    | .asking query _ _ since =>
      if since + s.config.queryTimeout ≤ s.now ∧ (s.cache.callerEvent? id).isNone ∧
          s.isDying id = false then do
        let cache ← s.cache.leave id
        return { s with cache }.setClient id c (.decided query query.servFailFor .failed)
      else none
    | _ => none
  | none => none

/-- The octets of the reply to a query.  Where the answer has none, the reply says that there is no
answer. -/
def replyBytes (carrier : Carrier) (query answer : Dns.Message) : Option (List UInt8) :=
  match answer.encodeWithin (carrier.limit query) with
  | .ok bytes => some bytes
  | .error _ => query.servFailFor.encode.toOption

/-- A client gets the reply. -/
def reply (s : State) (id : CallerId) : Option State :=
  match s.clients.find? id with
  | some c =>
    match c.stage, c.carrier with
    | .decided query answer resolution, some carrier =>
      some ((s.setClient id c (.replied (replyBytes carrier query answer) resolution)).count
        resolution c.arrivedAt)
    | .decided _ answer resolution, none => some (s.setClient id c (.told answer resolution))
    | _, _ => none
  | none => none

/-- A client goes away, or dies, who has not come to an end. -/
def leave (s : State) (id : CallerId) : Option State :=
  match s.clients.find? id with
  | some c =>
    if c.stage.isOver then none
    else
      let detection := (s.detection.leave id).getD s.detection
      let cache := (s.cache.leave id).getD s.cache
      some ({ s with detection, cache }.setClient id c .gone)
  | none => none

/-! ### Errands -/

/-- The service after an errand has come to an end, and the fetch with it. -/
def finish (s : State) (id : CallerId) (e : Errand) (result : Cache.FetchResult) :
    Option State := do
  let cache ← s.cache.complete id result
  return { s with cache, errands := s.errands.insert id { e with phase := .done } }

/-- An errand is begun: the query is made into a request, which is sent unless that cannot be or
need not be.  An errand that dies of it is not begun; see `errandEvent?`. -/
def send (s : State) (id : CallerId) : Option State :=
  match s.errands.find? id with
  | some e =>
    match e.phase with
    | .ready =>
      if s.cache.isRunning id then
        match Inquiry.plan s.config e.query e.subnet with
        | .error (.told fault) => s.finish id e (.error fault)
        | .error .death => none
        | .ok (.reply answer) => s.finish id e (.ok answer)
        | .ok (.exchange question request) =>
          some { s with
            calls := s.calls ++ [⟨id, s.now, request⟩]
            errands := s.errands.insert id { e with phase := .sent question } }
      else none
    | _ => none
  | none => none

/-- The request of an errand is answered, or fails. -/
def respond (s : State) (id : CallerId) (response : Except Error Http.Response) : Option State :=
  match s.errands.find? id with
  | some e =>
    match e.phase with
    | .sent question =>
      s.finish id e (response.bind (Inquiry.conclude s.config e.query question))
    | _ => none
  | none => none

/-! ### Events -/

/-- Whether an event of the cache happens by itself in the service, and not as part of another. -/
def isOwnCacheEvent : Cache.Event → Bool
  | .arrive _ _ _ | .leave _ | .complete _ _ => false
  | _ => true

/-- Whether an event of the detection happens by itself in the service, and not as part of another.
-/
def isOwnDetectionEvent : Subnet.DetectionEvent → Bool
  | .arrive _ | .leave _ => false
  | _ => true

/-- The service after an event, if it can happen. -/
def step (s : State) : Event → Option State
  | .arrive id carrier bytes => s.arrive id carrier bytes
  | .submit id query => s.enroll id none query
  | .detection e =>
    if isOwnDetectionEvent e then
      (s.detection.step s.now e).map fun detection => { s with detection }
    else none
  | .ask id => s.ask id
  | .cache e =>
    if isOwnCacheEvent e then (s.cache.step s.now e).map fun cache => { s with cache } else none
  | .decide id => s.decide id
  | .giveUp id => s.giveUp id
  | .reply id => s.reply id
  | .leave id => s.leave id
  | .send id => s.send id
  | .respond id response => s.respond id response
  | .tick millis => some { s with now := s.now + millis }

/-- The counters of the service as they are read, and the service after that. -/
def takeSnapshot (s : State) : Stats × State :=
  (s.stats.takeSnapshot.1, { s with stats := s.stats.takeSnapshot.2 })

/-! ### What comes next -/

/-- Whether a client has come to an end. -/
def isOver (s : State) (id : CallerId) : Bool :=
  ((s.clients.find? id).map Client.stage).all Stage.isOver

/-- What a client can do now. -/
def clientEvent? (s : State) (id : CallerId) : Option Event :=
  match (s.clients.find? id).map Client.stage with
  | some (.locating _ _) =>
    if (s.located id).isSome then some (.ask id)
    else (s.detection.callerEvent? id).map .detection
  | some (.asking _ _ _ since) =>
    match s.cache.callerEvent? id with
    | some e => some (.cache e)
    | none =>
      match (s.cache.callers.find? id).map Cache.Caller.phase with
      | some (.answered _ _) | some (.failed _) => some (.decide id)
      | _ =>
        if since + s.config.queryTimeout ≤ s.now ∧ s.isDying id = false then some (.giveUp id)
        else none
  | some (.decided _ _ _) => some (.reply id)
  | _ => none

/-- What happens when an errand dies.  Its fetch dies with it, or the client of whom it is part; see
`isDying`. -/
def deathEvent (s : State) (id : CallerId) : Event :=
  if s.cache.enabled then .cache (.crash id) else .leave id

/-- What an errand and its fetch can do now, other than getting a response. -/
def errandEvent? (s : State) (id : CallerId) : Option Event :=
  match s.errands.find? id, s.cache.isRunning id with
  | some ⟨_, _, .ready⟩, true => some (if s.isDoomed id then s.deathEvent id else .send id)
  | _, _ => (s.cache.fetchEvent? id s.now).map .cache

end State

end DohRelay.Service
