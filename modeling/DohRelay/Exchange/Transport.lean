import DohRelay.Http.Body
import DohRelay.Http.Exchange

/-!
# Exchanges with a server

What can happen to a request on its way, and what is made of it.

## Main definitions

* `Transport.Event` — what happens to a request.
* `Transport.receive` — the response, or the error.
-/

namespace DohRelay.Transport

/-- What happens to a request. -/
inductive Event
  /-- The address of the server cannot be found. -/
  | unresolved (e : Error)
  /-- No response can be had; the reason is told in words. -/
  | failed (reason : String)
  /-- No response comes in time, or not all of it. -/
  | late
  /-- A response comes, with the length announced for its body and the parts of the body. -/
  | responded (status : Nat) (announced : Option Nat) (parts : List (List UInt8))
  /-- A response comes, but after some parts of its body an error. -/
  | broken (status : Nat) (announced : Option Nat) (parts : List (List UInt8)) (e : Error)
  deriving DecidableEq, Repr

/-- What is said about a request that could not be sent to a location. -/
def sendFault (url : List Char) : String :=
  "error sending request for url (" ++ String.ofList url ++ ")"

/-- The response to a request. -/
def receive : Event → Except Error Http.Response
  | .unresolved e => .error e
  | .failed reason => .error (.exchange reason)
  | .late => .error .timeout
  | .responded status announced parts =>
    match Http.readBody announced parts with
    | .ok body => .ok ⟨status, body⟩
    | .error e => .error e
  | .broken _ announced parts e =>
    match Http.readBody announced parts with
    | .ok _ => .error e
    | .error tooLong => .error tooLong

end DohRelay.Transport
