/-!
# Messages in a stream

In a stream of octets each message comes after its length, which takes two octets.  The octets of a
stream arrive at certain times; the reader waits for a length, and then for the message, up to a
certain idle time each.

## Main definitions

* `Framing.frame` — a message with its length.
* `Framing.Stream` — octets with the times of their arrival.
* `Framing.readMessage`, `Framing.readAll` — the messages of a stream.
-/

namespace DohRelay.Framing

/-- The longest message. -/
def maxLength : Nat := 65535

/-- The two octets of a length. -/
def lengthOctets (n : Nat) : List UInt8 :=
  [UInt8.ofNat (n / 256), UInt8.ofNat n]

/-- A message with its length in front, unless it is too long. -/
def frame (message : List UInt8) : Option (List UInt8) :=
  if message.length ≤ maxLength then some (lengthOctets message.length ++ message) else none

/-- What is said about a message that is too long. -/
def tooLong : String := "message too large"

/-- The milliseconds that a connection may be idle. -/
def defaultIdle : Nat := 10000

/-- Octets with the times of their arrival, and the time when no more can come. -/
structure Stream where
  /-- The octets, each with the time when it is there. -/
  arrivals : List (Nat × UInt8)
  /-- When the other side closes the stream, if it does. -/
  closedAt : Option Nat
  deriving DecidableEq, Repr

/-- How an attempt to read some octets ends. -/
inductive Attempt
  /-- They are there. -/
  | octets (bytes : List UInt8)
  /-- The stream ends before. -/
  | ended
  /-- They take too long. -/
  | late
  deriving DecidableEq, Repr

/-- Reads some octets from the time `now` on, waiting up to `idle`; tells how that ends and when. -/
def Stream.take (s : Stream) (now idle count : Nat) : Attempt × Nat × Stream :=
  let part := s.arrivals.take count
  let rest := { s with arrivals := s.arrivals.drop count }
  let deadline := now + idle
  let ready := part.foldl (fun t octet => max t octet.1) now
  if part.length = count then
    if ready ≤ deadline then (.octets (part.map Prod.snd), ready, rest)
    else (.late, deadline, rest)
  else
    match s.closedAt with
    | none => (.late, deadline, rest)
    | some closed =>
      if max now closed ≤ deadline then (.ended, max now closed, rest)
      else (.late, deadline, rest)

/-- What reading a message comes to. -/
inductive Reading
  /-- A message. -/
  | message (bytes : List UInt8)
  /-- There is no further message. -/
  | finished
  /-- The stream ends within a message. -/
  | ended
  /-- A message takes too long. -/
  | late
  deriving DecidableEq, Repr

/-- Reads a message from the time `now` on.  No further message begins when the stream ends before
or within a length, or the length takes too long. -/
def readMessage (s : Stream) (now idle : Nat) : Reading × Nat × Stream :=
  match s.take now idle 2 with
  | (.octets [high, low], now, s) =>
    match s.take now idle (high.toNat * 256 + low.toNat) with
    | (.octets bytes, now, s) => (.message bytes, now, s)
    | (.ended, now, s) => (.ended, now, s)
    | (.late, now, s) => (.late, now, s)
  | (_, now, s) => (.finished, now, s)

/-- What reading at most `fuel` messages comes to, with the times. -/
def readFrom (s : Stream) (now idle : Nat) : Nat → List (Reading × Nat)
  | 0 => []
  | fuel + 1 =>
    match readMessage s now idle with
    | (.message bytes, now, s) => (.message bytes, now) :: readFrom s now idle fuel
    | (reading, now, _) => [(reading, now)]

/-- What reading all messages of a stream comes to, with the times. -/
def readAll (s : Stream) (idle : Nat) : List (Reading × Nat) :=
  readFrom s 0 idle (s.arrivals.length + 1)

/-- A part of what the other side does with a stream. -/
inductive Delivery
  /-- It writes octets. -/
  | octets (bytes : List UInt8)
  /-- It waits some milliseconds. -/
  | pause (millis : Nat)
  deriving DecidableEq, Repr

/-- The stream that comes of what the other side does from the time `now` on. -/
def deliver (closes : Bool) (now : Nat) : List Delivery → Stream
  | [] => ⟨[], if closes then some now else none⟩
  | .octets bytes :: rest =>
    let s := deliver closes now rest
    { s with arrivals := bytes.map (now, ·) ++ s.arrivals }
  | .pause millis :: rest => deliver closes (now + millis) rest

/-- What is said about a stream that ends within a message. -/
def endedMessage : String := "early eof"

/-- What is said about a message that takes too long. -/
def lateMessage : String := "incomplete message"

end DohRelay.Framing
