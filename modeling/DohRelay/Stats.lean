import DohRelay.Cache.Outcome
import DohRelay.Text.Dyadic

/-!
# Statistics

How many queries were answered in which way, and how long that took on average.

## Main definitions

* `Resolution` — how a query was answered.
* `Stats`, `Stats.record`, `Stats.takeSnapshot` — the counters.
* `Stats.averageMillis`, `Stats.averageText` — the average time of a reply.
-/

namespace DohRelay

/-- How a query was answered. -/
inductive Resolution
  /-- From the cache. -/
  | cached
  /-- By the endpoint. -/
  | forwarded
  /-- By the endpoint, which another query had asked. -/
  | shared
  /-- On the spot, by policy. -/
  | synthesized
  /-- Not at all. -/
  | failed
  deriving DecidableEq, Repr

namespace Resolution

/-- The word for a resolution. -/
def text : Resolution → String
  | cached => "CACHED"
  | forwarded => "FORWARDED"
  | shared => "SHARED"
  | synthesized => "SYNTHESIZED"
  | failed => "FAILED"

/-- The resolution that a word stands for. -/
def ofText? (s : String) : Option Resolution :=
  [cached, forwarded, shared, synthesized, failed].find? (·.text == s)

/-- The resolution of a query whose answer was obtained in some way. -/
def ofOutcome : Cache.Outcome → Resolution
  | .hit => cached
  | .fetched => forwarded
  | .joined => shared

end Resolution

/-- Counters of queries.  They count in 64 bits and start over after that. -/
structure Stats where
  /-- All queries. -/
  requests : UInt64
  /-- Those answered from the cache. -/
  cached : UInt64
  /-- Those answered by the endpoint. -/
  forwarded : UInt64
  /-- Those answered by the endpoint, which another query had asked. -/
  shared : UInt64
  /-- Those answered on the spot. -/
  synthesized : UInt64
  /-- Those not answered. -/
  failed : UInt64
  /-- The microseconds that all replies took together. -/
  micros : UInt64
  deriving DecidableEq, Repr

namespace Stats

/-- Counters before the first query. -/
def zero : Stats := ⟨0, 0, 0, 0, 0, 0, 0⟩

/-- The greatest number of microseconds that one reply counts. -/
def maxMicros : Nat := UInt64.size - 1

/-- The counters after one more query.  Of the time that its reply took, given in nanoseconds, only
whole microseconds count. -/
def record (s : Stats) (r : Resolution) (nanos : Nat) : Stats :=
  let s := { s with
    requests := s.requests + 1
    micros := s.micros + UInt64.ofNat (min (nanos / 1000) maxMicros) }
  match r with
  | .cached => { s with cached := s.cached + 1 }
  | .forwarded => { s with forwarded := s.forwarded + 1 }
  | .shared => { s with shared := s.shared + 1 }
  | .synthesized => { s with synthesized := s.synthesized + 1 }
  | .failed => { s with failed := s.failed + 1 }

/-- The counters as they are read, and the counters after that, which start over. -/
def takeSnapshot (s : Stats) : Stats × Stats :=
  (s, zero)

/-- The average time of a reply in milliseconds. -/
def averageMillis (s : Stats) : Float :=
  if s.requests = 0 then 0 else s.micros.toFloat / s.requests.toFloat / 1000

/-- The average time of a reply as it is told. -/
def averageText (s : Stats) : List Char :=
  (Text.Dyadic.ofFloat s.averageMillis).fixedText 2

@[simp] theorem requests_record (s : Stats) (r : Resolution) (nanos : Nat) :
    (s.record r nanos).requests = s.requests + 1 := by
  cases r <;> rfl

end Stats

end DohRelay
