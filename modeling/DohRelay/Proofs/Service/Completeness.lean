import DohRelay.Proofs.Dns.Whole
import DohRelay.Proofs.Service.DatagramBound
import DohRelay.Proofs.Service.ResponseCode
import DohRelay.Transport.Framing

/-!
# Complete replies

A reply has every record of the message that it is written from, or says that it is truncated.  The
carrier decides no more than which of the two it is: through a connection every reply goes in full,
as far as a message can be long, and in a datagram the same octets go or those of the short form.
Since no reply is longer than a message may be, each can be put in a frame.

## Main results

* `State.replyBytes_datagram` — in a datagram the reply is the same, or in its short form.
* `State.whole_of_replyBytes` — a reply that does not say it is truncated is whole.
* `replies_are_complete` — **a reply is complete or says that it is not, and is never too long for
  a connection.**
-/

namespace DohRelay.Service

open Cache (CallerId)
open Dns (saysTruncated)

/-- No reply is longer than a message may be. -/
theorem State.length_replyBytes_le {carrier : Carrier} {query answer : Dns.Message}
    {bytes : List UInt8} (h : replyBytes carrier query answer = some bytes) :
    bytes.length ≤ Framing.maxLength := by
  rcases replyBytes_eq_some h with hfull | hshort | hfailed
  · exact Dns.Message.length_encode_le hfull
  · exact Dns.Message.length_encode_le hshort
  · exact Dns.Message.length_encode_le hfailed

/-- **In a datagram the reply is the same as through a connection, or in its short form.** -/
theorem State.replyBytes_datagram (query answer : Dns.Message) :
    replyBytes .datagram query answer = replyBytes .connection query answer ∨
      ∃ (full octets : List UInt8) (short : Dns.Message),
        replyBytes .connection query answer = some full ∧ answer.encode = .ok full ∧
        query.datagramLimit < full.length ∧ replyBytes .datagram query answer = some octets ∧
        short.IsShortOf answer ∧ short.encode = .ok octets := by
  unfold replyBytes
  cases hfull : answer.encode with
  | error fault =>
    left
    rw [Dns.Message.encodeWithin_of_error hfull, Dns.Message.encodeWithin_of_error hfull]
  | ok full =>
    have hconnection : answer.encodeWithin (Carrier.connection.limit query) = .ok full :=
      Dns.Message.encodeWithin_limit hfull
    rw [hconnection]
    by_cases hle : full.length ≤ query.datagramLimit
    · left
      have hdatagram : answer.encodeWithin (Carrier.datagram.limit query) = .ok full :=
        Dns.Message.encodeWithin_of_le hfull hle
      rw [hdatagram]
    · right
      have hlt : Carrier.datagram.limit query < full.length := Nat.lt_of_not_le hle
      obtain ⟨short, octets, hwithin, hshort, hoctets⟩ :=
        Dns.Message.encodeWithin_of_lt hfull hlt
      rw [hwithin]
      exact ⟨full, octets, short, rfl, rfl, hlt, rfl, hshort, hoctets⟩

/-- **A reply that does not say it is truncated is whole**: it has all records of the answer or, if
the answer has no octets, it says that there is none. -/
theorem State.whole_of_replyBytes {carrier : Carrier} {query answer : Dns.Message}
    {bytes : List UInt8} (h : replyBytes carrier query answer = some bytes)
    (hsaid : saysTruncated bytes = false) :
    answer.truncated = false ∧ answer.encodeWhole = .ok bytes ∨
      (∃ fault, answer.encode = .error fault) ∧ query.servFailFor.encodeWhole = .ok bytes := by
  unfold replyBytes at h
  cases hfull : answer.encode with
  | error fault =>
    right
    rw [Dns.Message.encodeWithin_of_error hfull] at h
    have hfailed := eq_ok_of_toOption h
    exact ⟨⟨fault, rfl⟩, ((Dns.Message.saysTruncated_eq_false_iff hfailed).mp hsaid).2⟩
  | ok full =>
    left
    by_cases hle : full.length ≤ carrier.limit query
    · rw [Dns.Message.encodeWithin_of_le hfull hle] at h
      obtain rfl : full = bytes := Option.some.inj h
      exact (Dns.Message.saysTruncated_eq_false_iff hfull).mp hsaid
    · -- the short form always says so
      obtain ⟨short, octets, hwithin, hshort, hoctets⟩ :=
        Dns.Message.encodeWithin_of_lt hfull (Nat.lt_of_not_le hle)
      rw [hwithin] at h
      obtain rfl : octets = bytes := Option.some.inj h
      rw [hshort.saysTruncated hoctets] at hsaid
      cases hsaid

/-- The reply to octets that are no query is written from a message. -/
theorem exists_of_malformedReply {bytes reply : List UInt8}
    (h : Dns.malformedReply bytes = some reply) :
    ∃ message : Dns.Message, message.encode = .ok reply := by
  unfold Dns.malformedReply at h
  split at h
  case h_1 => exact ⟨_, eq_ok_of_toOption h⟩
  case h_2 => cases h

/-- **A reply is complete or says that it is not.**  Within a limit a message is written as it is if
it is not too long, and otherwise in its short form, which has its id, its operation, both flags,
its response code as far as a header tells it, its questions and no records, and says that it is
truncated; this is also what is read of it, where the names of the questions can be read.  So the
reply in a datagram has the octets of the one through a connection, or is its short form; and a
reply that does not say it is truncated has every record of the answer that the client is given or,
if that has no octets, of the reply that says so.  No reply is too long for the frame of a
connection. -/
theorem replies_are_complete :
    (∀ (m : Dns.Message) (limit : Nat) (bytes : List UInt8), m.encode = .ok bytes →
      (bytes.length ≤ limit → m.encodeWithin limit = .ok bytes) ∧
      (limit < bytes.length → ∃ (short : Dns.Message) (octets : List UInt8),
        m.encodeWithin limit = .ok octets ∧ short.IsShortOf m ∧ short.encode = .ok octets ∧
        ((∀ q ∈ m.questions, q.name.Fits) →
          ∃ read, Dns.Message.decode octets = .ok read ∧ read.IsShortOf m))) ∧
    (∀ query answer : Dns.Message,
      State.replyBytes .datagram query answer = State.replyBytes .connection query answer ∨
      ∃ (full octets : List UInt8) (short : Dns.Message),
        State.replyBytes .connection query answer = some full ∧ answer.encode = .ok full ∧
        query.datagramLimit < full.length ∧
        State.replyBytes .datagram query answer = some octets ∧ short.IsShortOf answer ∧
        short.encode = .ok octets) ∧
    ∀ config fetchTimeout moves s, Run config fetchTimeout moves s →
      ∀ id carrier bytes c reply resolution, HandedIn moves id (.octets carrier bytes) →
        s.clients.find? id = some c → c.stage = .replied (some reply) resolution →
        (reply.length ≤ 65535 ∧
          Framing.frame reply = some (Framing.lengthOctets reply.length ++ reply)) ∧
        (saysTruncated reply = false → ∃ message : Dns.Message,
          message.truncated = false ∧ message.encodeWhole = .ok reply ∧
          ((∃ fault, Dns.Message.decode bytes = .error fault) ∨
            ∃ query answer, Dns.Message.decode bytes = .ok query ∧
              Verdict config (Obtained config moves) query answer resolution ∧
              (message = answer ∨
                (∃ fault, answer.encode = .error fault) ∧ message = query.servFailFor))) := by
  refine ⟨fun m limit bytes hbytes => ⟨Dns.Message.encodeWithin_of_le hbytes, fun hlt => ?_⟩,
    State.replyBytes_datagram, ?_⟩
  · obtain ⟨short, octets, hwithin, hshort, hoctets⟩ :=
      Dns.Message.encodeWithin_of_lt hbytes hlt
    exact ⟨short, octets, hwithin, hshort, hoctets, fun hfits => hshort.of_decode hfits hoctets⟩
  · intro config fetchTimeout moves s h id carrier bytes c reply resolution hin hc hreplied
    obtain ⟨-, hstory⟩ := h.story hin hc
    rw [hreplied] at hstory
    generalize hsome : some reply = outcome at hstory
    have hframe (hlength : reply.length ≤ 65535) :
        Framing.frame reply = some (Framing.lengthOctets reply.length ++ reply) :=
      if_pos hlength
    cases hstory with
    | malformed hinput =>
      obtain ⟨message, hmessage⟩ := exists_of_malformedReply hsome.symm
      have hlength := Dns.Message.length_encode_le hmessage
      refine ⟨⟨hlength, hframe hlength⟩, fun hsaid => ?_⟩
      obtain ⟨htruncated, hwhole⟩ := (Dns.Message.saysTruncated_eq_false_iff hmessage).mp hsaid
      exact ⟨message, htruncated, hwhole, .inl ⟨_, hinput⟩⟩
    | @replied query answer _ carrier hinput hcarrier verdict =>
      have hlength := State.length_replyBytes_le hsome.symm
      refine ⟨⟨hlength, hframe hlength⟩, fun hsaid => ?_⟩
      rcases State.whole_of_replyBytes hsome.symm hsaid with
        ⟨htruncated, hwhole⟩ | ⟨hfault, hwhole⟩
      · exact ⟨answer, htruncated, hwhole, .inr ⟨query, answer, hinput, verdict, .inl rfl⟩⟩
      · exact ⟨query.servFailFor, rfl, hwhole,
          .inr ⟨query, answer, hinput, verdict, .inr ⟨hfault, rfl⟩⟩⟩

/-- A response with one answer. -/
def rootAnswer : Dns.Message :=
  { Dns.crowd 1 with
    response := true
    answers := [⟨.root, .a, Dns.classIn, 60, some (.a ⟨1⟩)⟩] }

/-- Its octets. -/
def rootAnswerBytes : List UInt8 :=
  [0x12, 0x34, 0x81, 0, 0, 1, 0, 1, 0, 0, 0, 0, 0, 0, 1, 0, 1,
    0, 0, 1, 0, 1, 0, 0, 0, 60, 0, 4, 0, 0, 0, 1]

/-- They are 32, so the response has its short form within 31; and the reply of a run, which is not
truncated, is whole. -/
theorem replies_are_complete_rootAnswer :
    rootAnswer.encode = .ok rootAnswerBytes ∧ rootAnswer.encodeWithin 32 = .ok rootAnswerBytes ∧
    (∃ octets read, rootAnswer.encodeWithin 31 = .ok octets ∧
      Dns.Message.decode octets = .ok read ∧ read.IsShortOf rootAnswer) ∧
    ∃ moves s, Run posting 5000 moves s ∧ HandedIn moves 0 (.octets .datagram rootQuery) ∧
      s.clients.find? 0 = some ⟨some .datagram, 0, .replied (some lostReply) .forwarded⟩ ∧
      Framing.frame lostReply = some (Framing.lengthOctets 17 ++ lostReply) ∧
      ∃ message : Dns.Message, message.truncated = false ∧ message.encodeWhole = .ok lostReply := by
  obtain ⟨hwithin, -, hruns⟩ := replies_are_complete
  have hbytes : rootAnswer.encode = .ok rootAnswerBytes := by decide +kernel
  have hfits : ∀ q ∈ rootAnswer.questions, q.name.Fits := by
    refine List.forall_mem_singleton.mpr ?_
    unfold Dns.Name.Fits
    decide
  obtain ⟨-, octets, hoctets, -, -, hread⟩ := (hwithin _ 31 _ hbytes).2 (by decide)
  obtain ⟨read, hdecode, hshort⟩ := hread hfits
  obtain ⟨moves, s, hrun, hin, hc, -⟩ := exists_run_badVersion
  obtain ⟨⟨-, hframe⟩, hwhole⟩ := hruns _ _ _ _ hrun _ _ _ _ _ _ hin hc rfl
  obtain ⟨message, htruncated, hmessage, -⟩ := hwhole (by decide)
  exact ⟨hbytes, (hwithin _ 32 _ hbytes).1 (by decide), ⟨octets, read, hoctets, hdecode, hshort⟩,
    moves, s, hrun, hin, hc, hframe, message, htruncated, hmessage⟩

end DohRelay.Service
