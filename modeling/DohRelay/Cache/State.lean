import DohRelay.Cache.Entries
import DohRelay.Cache.Outcome
import DohRelay.Error

/-!
# The cache at work

Callers ask the cache for answers; where there is none, it has one fetched, and whoever asks for the
same in the meantime waits for that fetch too.  A fetch goes on when its callers are gone, and it
ends within a certain time.

What callers and fetches do is cut into events that nothing can interrupt, and a caller or a fetch
may be overtaken by others between any two of its events.  A fetch has the name of the caller who
started it.  A cache that is switched off keeps no answers and no markers, and the fetch of a caller
ends with the caller: if either of them dies, that is the caller going away.

## Main definitions

* `Cache.Caller`, `Cache.Fetch`, `Cache.State` — callers, fetches, and the whole cache.
* `Cache.Event`, `Cache.State.step` — what can happen, and what comes of it.
* `Cache.State.callerEvent?`, `Cache.State.fetchEvent?` — what a caller or a fetch does next.
-/

namespace DohRelay.Cache

/-- The name of a caller. -/
abbrev CallerId := Nat

/-- What a fetch comes to. -/
abbrev FetchResult := Except Error Dns.Message

/-- How far a fetch has come. -/
inductive FetchPhase
  /-- It goes on. -/
  | running
  /-- It is over, but nothing was done with the result yet. -/
  | ended (result : FetchResult)
  /-- The answer is stored if it may be, but others still join. -/
  | stored (result : FetchResult)
  /-- Nobody joins any more. -/
  | released (result : FetchResult)
  /-- It died. -/
  | crashed

/-- A fetch. -/
structure Fetch where
  /-- What is fetched. -/
  key : Fingerprint
  /-- When it was started. -/
  startedAt : Nat
  /-- How far it has come. -/
  phase : FetchPhase

/-- What a caller wants. -/
inductive Want
  /-- An answer that is there. -/
  | stored
  /-- An answer, fetched if need be. -/
  | fetched
  deriving DecidableEq, Repr

/-- How far a caller has come. -/
inductive CallerPhase
  /-- The caller is about to look for an answer. -/
  | arrived
  /-- The caller saw an answer that did not hold at the time `seenAt`, and is about to drop it. -/
  | dropping (seenAt : Nat)
  /-- The caller found nothing and is about to join or start a fetch. -/
  | entering
  /-- The caller waits for a fetch. -/
  | waiting (fetch : CallerId) (outcome : Outcome)
  /-- The caller has an answer. -/
  | answered (answer : Dns.Message) (outcome : Outcome)
  /-- The caller got nothing: there was no answer, and none was to be fetched. -/
  | missed
  /-- The caller got an error. -/
  | failed (e : Error)
  /-- The caller went away, or died. -/
  | gone

/-- A caller. -/
structure Caller where
  /-- What the caller asks for. -/
  key : Fingerprint
  /-- What the caller wants. -/
  want : Want
  /-- How far the caller has come. -/
  phase : CallerPhase

/-- The cache with its callers. -/
structure State where
  /-- Whether the cache is switched on. -/
  enabled : Bool
  /-- How long a fetch may take. -/
  timeout : Nat
  /-- The stored answers. -/
  entries : Entries
  /-- The markers: the fetches that can be joined. -/
  markers : Table Fingerprint CallerId
  /-- The fetches, by the callers who started them. -/
  fetches : Table CallerId Fetch
  /-- The callers. -/
  callers : Table CallerId Caller

/-- A cache without answers and callers. -/
def State.start (enabled : Bool) (timeout : Nat) : State where
  enabled
  timeout
  entries := .empty
  markers := .empty
  fetches := .empty
  callers := .empty

/-- What can happen. -/
inductive Event
  /-- A caller comes. -/
  | arrive (id : CallerId) (key : Fingerprint) (want : Want)
  /-- A caller looks for an answer. -/
  | look (id : CallerId)
  /-- A caller drops an answer that does not hold any more. -/
  | drop (id : CallerId)
  /-- A caller joins a fetch or starts one. -/
  | enter (id : CallerId)
  /-- A caller takes the result of the fetch that was waited for. -/
  | take (id : CallerId)
  /-- A caller goes away, or dies. -/
  | leave (id : CallerId)
  /-- A fetch comes to a result. -/
  | complete (id : CallerId) (result : FetchResult)
  /-- A fetch takes too long. -/
  | expire (id : CallerId)
  /-- A fetch dies that is not part of its caller. -/
  | crash (id : CallerId)
  /-- The answer of a fetch is stored if it may be. -/
  | store (id : CallerId)
  /-- The marker of a fetch is taken away. -/
  | release (id : CallerId)

/-- What is said about a fetch that died. -/
def crashMessage : String := "fetch task failed: task panicked"

namespace State

/-! ### Events -/

/-- The cache after a caller has come to some phase. -/
def setCaller (s : State) (id : CallerId) (c : Caller) (phase : CallerPhase) : State :=
  { s with callers := s.callers.insert id { c with phase } }

/-- The cache after a fetch has come to some phase. -/
def setFetch (s : State) (id : CallerId) (f : Fetch) (phase : FetchPhase) : State :=
  { s with fetches := s.fetches.insert id { f with phase } }

/-- A caller comes, under a name that no other had. -/
def arrive (s : State) (id : CallerId) (key : Fingerprint) (want : Want) : Option State :=
  match s.callers.find? id with
  | some _ => none
  | none => some { s with callers := s.callers.insert id ⟨key, want, .arrived⟩ }

/-- The cache after a caller has started a fetch, which leaves a marker if the cache is switched on.
-/
def startFetch (s : State) (id : CallerId) (c : Caller) (now : Nat) : State :=
  let s := { s with
    fetches := s.fetches.insert id ⟨c.key, now, .running⟩
    markers := if s.enabled then s.markers.insert c.key id else s.markers }
  s.setCaller id c (.waiting id .fetched)

/-- What a caller does who found nothing. -/
def miss (s : State) (id : CallerId) (c : Caller) : State :=
  s.setCaller id c (match c.want with
    | .stored => .missed
    | .fetched => .entering)

/-- A caller looks for an answer.  Where the cache is switched off there is none, and a fetch is
started at once. -/
def look (s : State) (id : CallerId) (now : Nat) : Option State :=
  match s.callers.find? id with
  | some c =>
    match c.phase with
    | .arrived =>
      if s.enabled then
        some (match s.entries.look c.key now with
          | .fresh answer => s.setCaller id c (.answered answer .hit)
          | .stale => s.setCaller id c (.dropping now)
          | .absent => s.miss id c)
      else
        some (match c.want with
          | .stored => s.setCaller id c .missed
          | .fetched => s.startFetch id c now)
    | _ => none
  | none => none

/-- A caller drops the answer that did not hold when it was seen, or any other that did not hold
then. -/
def drop (s : State) (id : CallerId) : Option State :=
  match s.callers.find? id with
  | some c =>
    match c.phase with
    | .dropping seenAt => some ({ s with entries := s.entries.drop c.key seenAt }.miss id c)
    | _ => none
  | none => none

/-- A caller joins the fetch that is marked.  If none is, an answer may have come in the meantime;
otherwise the caller starts a fetch. -/
def enter (s : State) (id : CallerId) (now : Nat) : Option State :=
  match s.callers.find? id with
  | some c =>
    match c.phase with
    | .entering =>
      some (match s.markers.find? c.key with
        | some fetch => s.setCaller id c (.waiting fetch .joined)
        | none =>
          match s.entries.look c.key now with
          | .fresh answer => s.setCaller id c (.answered answer .hit)
          | _ => { s with entries := s.entries.drop c.key now }.startFetch id c now)
    | _ => none
  | none => none

/-- A caller takes the result of a fetch that nobody joins any more. -/
def take (s : State) (id : CallerId) : Option State :=
  match s.callers.find? id with
  | some c =>
    match c.phase with
    | .waiting fetch outcome =>
      match (s.fetches.find? fetch).map Fetch.phase with
      | some (.released (.ok answer)) => some (s.setCaller id c (.answered answer outcome))
      | some (.released (.error e)) => some (s.setCaller id c (.failed e))
      | some .crashed => some (s.setCaller id c (.failed (.exchange crashMessage)))
      | _ => none
    | _ => none
  | none => none

/-- Whether a caller has come to an end. -/
def CallerPhase.isOver : CallerPhase → Bool
  | .answered _ _ | .missed | .failed _ | .gone => true
  | _ => false

/-- A caller goes away, or dies, who has not come to an end.  Where the cache is switched off, the
fetch of the caller ends as well. -/
def leave (s : State) (id : CallerId) : Option State :=
  match s.callers.find? id with
  | some c =>
    if CallerPhase.isOver c.phase then none
    else
      let s := s.setCaller id c .gone
      some (if s.enabled then s else { s with fetches := s.fetches.erase id })
  | none => none

/-- A fetch that goes on comes to a result. -/
def complete (s : State) (id : CallerId) (result : FetchResult) : Option State :=
  match s.fetches.find? id with
  | some f =>
    match f.phase with
    | .running => some (s.setFetch id f (.ended result))
    | _ => none
  | none => none

/-- When a fetch has taken too long. -/
def deadline (s : State) (f : Fetch) : Nat :=
  f.startedAt + s.timeout

/-- A fetch that goes on has taken too long. -/
def expire (s : State) (id : CallerId) (now : Nat) : Option State :=
  match s.fetches.find? id with
  | some f =>
    match f.phase with
    | .running =>
      if s.deadline f ≤ now then some (s.setFetch id f (.ended (.error .timeout))) else none
    | _ => none
  | none => none

/-- A fetch that goes on dies; it takes nothing away.  Where the cache is switched off it cannot die
alone, since it is part of the caller. -/
def crash (s : State) (id : CallerId) : Option State :=
  match s.fetches.find? id with
  | some f =>
    match f.phase with
    | .running => if s.enabled then some (s.setFetch id f .crashed) else none
    | _ => none
  | none => none

/-- The answer of a fetch is stored if it may be. -/
def store (s : State) (id : CallerId) (now : Nat) : Option State :=
  match s.fetches.find? id with
  | some f =>
    match f.phase with
    | .ended result =>
      let entries := match result with
        | .ok answer => if s.enabled then s.entries.store f.key now answer else s.entries
        | .error _ => s.entries
      some ({ s with entries }.setFetch id f (.stored result))
    | _ => none
  | none => none

/-- The marker of a fetch is taken away. -/
def release (s : State) (id : CallerId) : Option State :=
  match s.fetches.find? id with
  | some f =>
    match f.phase with
    | .stored result =>
      some ({ s with markers := s.markers.erase f.key }.setFetch id f (.released result))
    | _ => none
  | none => none

/-- The cache after an event, if it can happen at the time `now`. -/
def step (now : Nat) (s : State) : Event → Option State
  | .arrive id key want => s.arrive id key want
  | .look id => s.look id now
  | .drop id => s.drop id
  | .enter id => s.enter id now
  | .take id => s.take id
  | .leave id => s.leave id
  | .complete id result => s.complete id result
  | .expire id => s.expire id now
  | .crash id => s.crash id
  | .store id => s.store id now
  | .release id => s.release id

/-! ### What comes next -/

/-- Whether a fetch has a result for those who wait. -/
def isResolved (s : State) (fetch : CallerId) : Bool :=
  match (s.fetches.find? fetch).map Fetch.phase with
  | some (.released _) | some .crashed => true
  | _ => false

/-- What a caller can do now. -/
def callerEvent? (s : State) (id : CallerId) : Option Event :=
  match (s.callers.find? id).map Caller.phase with
  | some .arrived => some (.look id)
  | some (.dropping _) => some (.drop id)
  | some .entering => some (.enter id)
  | some (.waiting fetch _) => if s.isResolved fetch then some (.take id) else none
  | _ => none

/-- What a fetch does once it has a result, or has taken too long. -/
def fetchEvent? (s : State) (id : CallerId) (now : Nat) : Option Event :=
  match s.fetches.find? id with
  | some f =>
    match f.phase with
    | .running => if s.deadline f ≤ now then some (.expire id) else none
    | .ended _ => some (.store id)
    | .stored _ => some (.release id)
    | _ => none
  | none => none

/-- Whether a fetch goes on. -/
def isRunning (s : State) (id : CallerId) : Bool :=
  match (s.fetches.find? id).map Fetch.phase with
  | some .running => true
  | _ => false

/-- When the fetches that go on have taken too long. -/
def deadlines (s : State) : List Nat :=
  s.fetches.values.filterMap fun f =>
    match f.phase with
    | .running => some (s.deadline f)
    | _ => none

end State

end DohRelay.Cache
