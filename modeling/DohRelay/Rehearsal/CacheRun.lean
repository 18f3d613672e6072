import DohRelay.Rehearsal.Schedule

/-!
# Rehearsals of the cache

Callers ask a cache whose fetches do what was laid down for them.

## Main definitions

* `CacheRun.Plan`, `CacheRun` — what fetches do, and the state of a rehearsal.
* `CacheRun.schedule` — who can do what.
* `CacheRun.arrive`, `CacheRun.abort` — callers come and go.
-/

namespace DohRelay.Rehearsal

open Cache (CallerId)

/-- What a fetch does. -/
structure CacheRun.Plan where
  /-- How long it takes. -/
  delay : Nat
  /-- What it comes to, if it ever ends. -/
  result : Option Cache.FetchResult
  /-- Whether it has begun. -/
  hasBegun : Bool

/-- A rehearsal of the cache. -/
structure CacheRun where
  /-- The time. -/
  now : Nat
  /-- The cache. -/
  cache : Cache.State
  /-- The callers, in the order they came. -/
  ids : List CallerId
  /-- What the fetches do, by the callers who start them. -/
  plans : Table CallerId CacheRun.Plan
  /-- How many fetches have begun. -/
  calls : Nat

namespace CacheRun

/-- Before the first caller. -/
def start (enabled : Bool) (timeout : Nat) : CacheRun :=
  ⟨0, .start enabled timeout, [], .empty, 0⟩

/-- A caller comes. -/
def arrive (s : CacheRun) (key : Fingerprint) (want : Cache.Want) (plan : Plan) :
    CallerId × CacheRun :=
  let id := s.ids.length
  (id, { s with
    cache := (s.cache.arrive id key want).getD s.cache
    ids := s.ids ++ [id]
    plans := s.plans.insert id plan })

/-- Lets something happen in the cache. -/
def apply (s : CacheRun) (e : Cache.Event) : Option CacheRun :=
  (s.cache.step s.now e).map fun cache => { s with cache }

/-- When a fetch comes to its result, if it ever does. -/
def resultAt (s : CacheRun) (id : CallerId) : Option (Nat × Cache.FetchResult) := do
  let plan ← s.plans.find? id
  let fetch ← s.cache.fetches.find? id
  return (fetch.startedAt + plan.delay, ← plan.result)

/-- What a fetch does next. -/
def fetchStep (s : CacheRun) (id : CallerId) : Option CacheRun :=
  match s.plans.find? id, s.cache.isRunning id with
  | some plan, true =>
    if !plan.hasBegun then
      some { s with
        plans := s.plans.insert id { plan with hasBegun := true }
        calls := s.calls + 1 }
    else
      match s.resultAt id with
      | some (time, result) =>
        if time ≤ s.now then s.apply (.complete id result)
        else (s.cache.fetchEvent? id s.now).bind s.apply
      | none => (s.cache.fetchEvent? id s.now).bind s.apply
  | _, _ => (s.cache.fetchEvent? id s.now).bind s.apply

/-- What a caller does next.  Where the cache is switched off, that includes the fetch of the
caller. -/
def ownStep (id : CallerId) (s : CacheRun) : Option CacheRun :=
  match (s.cache.callerEvent? id).bind s.apply with
  | some s => some s
  | none => if s.cache.enabled then none else s.fetchStep id

/-- What anybody but a caller does next.  Fetches, which have been ready for longer, come before
callers. -/
def otherStep (front : Option CallerId) (s : CacheRun) : Option CacheRun :=
  let others := s.ids.filter fun id => front ≠ some id
  let fetches := if s.cache.enabled then s.ids else others
  (fetches.findSome? s.fetchStep).or (others.findSome? (ownStep · s))

/-- Whether a caller has come to an end. -/
def isOver (id : CallerId) (s : CacheRun) : Bool :=
  (s.cache.callers.find? id).all fun c => Cache.State.CallerPhase.isOver c.phase

/-- The times at which a fetch ends. -/
def dueTimes (s : CacheRun) : List Nat :=
  s.cache.deadlines ++
    (s.ids.filter s.cache.isRunning).filterMap fun id => (s.resultAt id).map Prod.fst

/-- Who can do what. -/
def schedule : Schedule CacheRun where
  ownStep
  otherStep
  isOver
  now := CacheRun.now
  setNow now s := { s with now }
  dueTimes

/-- All of some callers go away who have not come to an end. -/
def abort (ids : List CallerId) (s : CacheRun) : CacheRun :=
  let unfinished := ids.filter fun id => !s.isOver id
  if unfinished.isEmpty then s
  else schedule.settle none (unfinished.foldl (fun s id => (s.apply (.leave id)).getD s) s)

end CacheRun

end DohRelay.Rehearsal
