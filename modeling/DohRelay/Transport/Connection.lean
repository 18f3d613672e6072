import DohRelay.Transport.Framing

/-!
# Connections and datagrams

A client sends messages through a connection, or each in a datagram.  Whatever is too short for the
header of a message is passed over.  The messages of a connection are answered one after the other,
in order.

## Main definitions

* `Connection.Server`, `Connection.serve` — the replies that a connection gets.
* `Datagram.message` — the message in a datagram.
-/

namespace DohRelay

/-- The length of the header of a message. -/
def headerLength : Nat := 12

namespace Connection

/-- Somebody who answers messages: given a message and the time, tells the reply, the time when it
is there, and what has become of the server. -/
abbrev Server (σ : Type) := σ → List UInt8 → Nat → Option (List UInt8) × Nat × σ

/-- What happens on a connection. -/
structure Transcript (σ : Type) where
  /-- The messages that the server was given, in order. -/
  handled : List (List UInt8)
  /-- The octets that were sent back. -/
  written : List UInt8
  /-- What has become of the server. -/
  server : σ

/-- What has happened when something happens first. -/
def Transcript.after {σ : Type} (t : Transcript σ) (message reply : List UInt8) : Transcript σ :=
  { t with handled := message :: t.handled, written := reply ++ t.written }

/-- Answers at most `fuel` messages of a connection from the time `now` on.  It ends with the
stream, or with a reply that is too long. -/
def serveFrom {σ : Type} (server : Server σ) (idle : Nat) (s : σ) (stream : Framing.Stream)
    (now : Nat) : Nat → Transcript σ
  | 0 => ⟨[], [], s⟩
  | fuel + 1 =>
    match Framing.readMessage stream now idle with
    | (.message bytes, now, stream) =>
      if bytes.length < headerLength then serveFrom server idle s stream now fuel
      else
        match server s bytes now with
        | (none, now, s) => (serveFrom server idle s stream now fuel).after bytes []
        | (some reply, now, s) =>
          match Framing.frame reply with
          | some framed => (serveFrom server idle s stream now fuel).after bytes framed
          | none => ⟨[bytes], [], s⟩
    | _ => ⟨[], [], s⟩

/-- Answers the messages of a connection. -/
def serve {σ : Type} (server : Server σ) (s : σ) (stream : Framing.Stream) : Transcript σ :=
  serveFrom server Framing.defaultIdle s stream 0 (stream.arrivals.length + 1)

end Connection

namespace Datagram

/-- How many octets of a datagram are looked at. -/
def maxLength : Nat := 4096

/-- The message in a datagram, unless it is too short for one. -/
def message (datagram : List UInt8) : Option (List UInt8) :=
  let bytes := datagram.take maxLength
  if bytes.length < headerLength then none else some bytes

end Datagram

end DohRelay
