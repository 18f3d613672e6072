import DohRelay.Dns.Message.Reader
import DohRelay.Dns.Message.Writer

/-!
# Replies

What a server makes of a query: the question it has to answer, replies it can give on its own, an
answer fitted to the query it is for, and the octets of a reply within the bounds of a datagram.

## Main definitions

* `Message.question` — the only question of a query.
* `Message.replyTo`, `Message.servFailFor`, `Message.emptyAnswerFor` — replies without records.
* `Message.answering` — an answer fitted to a query.
* `Message.minTtl` — how long an answer holds.
* `Message.encodeWithin` — the octets of a reply, in the short form if they are too many.
* `malformedReply` — the reply to octets that are no query.
-/

namespace DohRelay.Dns

/-- The payload of a datagram for clients that offer none. -/
def minDatagram : Nat := 512

/-- What is wrong with the questions of a query, in words. -/
def Message.question (query : Message) : Except String Question :=
  match query.questions with
  | [question] => .ok question
  | [] => .error "query has no question"
  | questions => .error ("query has " ++ toString questions.length ++ " questions")

/-- The start of a reply: the id, the operation, the wish for recursion and the questions of the
query, and a response code. -/
def Message.replyTo (query : Message) (code : ResponseCode) : Message :=
  { Message.empty with
    id := query.id
    response := true
    opcode := query.opcode
    recursionDesired := query.recursionDesired
    recursionAvailable := true
    rcode := code
    questions := query.questions }

/-- A reply without error and without records. -/
def Message.emptyAnswerFor (query : Message) : Message :=
  query.replyTo .noError

/-- A reply that says the query could not be answered. -/
def Message.servFailFor (query : Message) : Message :=
  query.replyTo .servFail

/-- The reply to octets that are no query, provided that they begin with an id. -/
def malformedReply : List UInt8 → Option (List UInt8)
  | high :: low :: _ =>
    ({ Message.empty with
        id := (high.toUInt16 <<< 8) ||| low.toUInt16
        response := true
        rcode := .formErr }).encode.toOption
  | _ => none

/-- The answer fitted to a query: with its id, its questions as it spelled them and its wish for
recursion, and without extension record if the query has none. -/
def Message.answering (answer query : Message) : Message :=
  { answer with
    id := query.id
    response := true
    recursionDesired := query.recursionDesired
    questions := query.questions
    edns := if query.edns.isNone then none else answer.edns }

/-- The least time to live among the answers, if there are any. -/
def Message.minTtl (answer : Message) : Option UInt32 :=
  (answer.answers.map Record.ttl).min?

/-- Whether a question asks for addresses of 128 bits. -/
def Question.isAaaa (q : Question) : Bool :=
  q.type == .aaaa

/-- Whether signatures are wanted. -/
def Message.dnssecOk (m : Message) : Bool :=
  m.edns.any (·.dnssecOk)

/-- The largest datagram that the sender of a query takes. -/
def Message.datagramLimit (query : Message) : Nat :=
  max ((query.edns.map fun e => e.payload.toNat).getD minDatagram) minDatagram

/-- The short form of a reply: without records, and saying that it is truncated. -/
def Message.shortened (answer : Message) : Message :=
  { Message.empty with
    id := answer.id
    response := true
    opcode := answer.opcode
    recursionDesired := answer.recursionDesired
    recursionAvailable := answer.recursionAvailable
    rcode := answer.rcode
    truncated := true
    questions := answer.questions }

/-- The octets of a reply, or those of its short form if there are more than `limit`. -/
def Message.encodeWithin (answer : Message) (limit : Nat) : Except Fault (List UInt8) :=
  match answer.encode with
  | .error fault => .error fault
  | .ok bytes => if bytes.length ≤ limit then .ok bytes else answer.shortened.encode

end DohRelay.Dns
