import DohRelay.Error

/-!
# Bodies of bounded length

A body comes in parts and may have been announced with its length.  Reading gives up as soon as it
is known to be too long.

## Main definitions

* `Http.readBody` — the body that some parts make.
-/

namespace DohRelay.Http

/-- The longest body. -/
def maxBodyLength : Nat := 65535

/-- What is said about a body that has at least some length. -/
def bodyTooLong (length : Nat) : Error :=
  .undecodable ("response body of at least " ++ toString length ++ " bytes is too large")

/-- The body that some parts make after those already there. -/
def readParts (body : List UInt8) : List (List UInt8) → Except Error (List UInt8)
  | [] => .ok body
  | part :: rest =>
    let length := body.length + part.length
    if maxBodyLength < length then .error (bodyTooLong length) else readParts (body ++ part) rest

/-- The body that some parts make, of the length announced if there is one. -/
def readBody (announced : Option Nat) (parts : List (List UInt8)) : Except Error (List UInt8) :=
  match announced.filter (maxBodyLength < ·) with
  | some length => .error (bodyTooLong length)
  | none => readParts [] parts

end DohRelay.Http
