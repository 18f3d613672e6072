import DohRelay.Http.Header
import DohRelay.Url.Basic

/-!
# Requests and responses

What is sent to a server, and what comes back.

## Main definitions

* `Method`, `Request`, `Response` — the types.
* `Response.isSuccess` — whether a response says that all is well.
-/

namespace DohRelay.Http

/-- How a request is made. -/
inductive Method
  /-- All of the request is in its location. -/
  | get
  /-- The request has a body. -/
  | post
  deriving DecidableEq, Repr

/-- The word for a method. -/
def Method.text : Method → String
  | get => "GET"
  | post => "POST"

/-- A request. -/
structure Request where
  /-- How the request is made. -/
  method : Method
  /-- Where it goes. -/
  url : Url
  /-- Its headers. -/
  headers : Headers
  /-- Its body, if it has one. -/
  body : Option (List UInt8)
  deriving DecidableEq, Repr

/-- A response. -/
structure Response where
  /-- How the request went. -/
  status : Nat
  /-- The body; it may be empty. -/
  body : List UInt8
  deriving DecidableEq, Repr

/-- Whether a response says that all is well. -/
def Response.isSuccess (r : Response) : Bool :=
  200 ≤ r.status && r.status < 300

end DohRelay.Http
