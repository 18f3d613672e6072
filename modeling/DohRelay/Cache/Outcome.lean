/-!
# How answers are obtained
-/

namespace DohRelay.Cache

/-- How an answer was obtained from the cache. -/
inductive Outcome
  /-- It was there. -/
  | hit
  /-- It was fetched for the one who asked. -/
  | fetched
  /-- It was fetched for somebody else who asked before. -/
  | joined
  deriving DecidableEq, Repr

end DohRelay.Cache
