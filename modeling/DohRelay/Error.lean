import DohRelay.Text.Quoted

/-!
# Errors

What goes wrong while the relay is set up or answers a query.

## Main definitions

* `Error` — the causes.
* `Error.message` — what is said about them.
* `Error.isFatal` — whether the relay cannot start.
* `Failure` — an error, or the death of whoever does something.
-/

namespace DohRelay

/-- Why the relay cannot start, or a query cannot be answered. -/
inductive Error
  /-- The configuration makes no sense. -/
  | config (reason : String)
  /-- The network to advertise is none. -/
  | invalidSubnet (value reason : String)
  /-- The address of the endpoint cannot be found. -/
  | endpointResolution (reason : String)
  /-- The endpoint replied with a status that is no success. -/
  | httpStatus (status : Nat)
  /-- The reply of the endpoint makes no sense. -/
  | undecodable (reason : String)
  /-- The query cannot be passed on. -/
  | unsupportedQuery (reason : String)
  /-- The exchange with the endpoint failed. -/
  | exchange (reason : String)
  /-- The endpoint took too long. -/
  | timeout
  /-- No listener could be set up. -/
  | listen (reason : String)
  deriving DecidableEq, Repr

namespace Error

/-- What is said about an error. -/
def message : Error → String
  | config reason => "configuration error: " ++ reason
  | invalidSubnet value reason =>
    "invalid edns subnet " ++ Text.quote value ++ ": " ++ reason
  | endpointResolution reason => "cannot resolve DoH endpoint: " ++ reason
  | httpStatus status => "upstream replied with HTTP status " ++ toString status
  | undecodable reason => "cannot decode upstream response: " ++ reason
  | unsupportedQuery reason => "unsupported query: " ++ reason
  | exchange reason => "upstream request failed: " ++ reason
  | timeout => "query timed out"
  | listen reason => "cannot listen: " ++ reason

/-- Whether the error keeps the relay from starting; all other errors concern one query. -/
def isFatal : Error → Bool
  | config _ | invalidSubnet _ _ | listen _ => true
  | _ => false

end Error

/-- Why something is not done. -/
inductive Failure
  /-- There is an error, which is told. -/
  | told (e : Error)
  /-- Whoever does it dies of it. -/
  | death
  deriving DecidableEq, Repr

/-- What may go wrong in a part may go wrong in the whole. -/
instance : MonadLift (Except Error) (Except Failure) :=
  ⟨Except.mapError .told⟩

end DohRelay
