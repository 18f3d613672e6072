import DohRelay.Proofs.Service.ResponseCode

/-!
# The operation in replies

A message says in its header what it is meant to do, and a reply is to say the same as the query.
The replies that the relay makes itself do.  An answer keeps the operation of the message of the
endpoint that it is made of, when it is fitted to a query and when it is cut short, so there the
reply says the same as the query only if the endpoint did.

## Main definitions

* `opcode?` — the operation that the header in some octets tells.

## Main results

* `Dns.opcode?_of_encode` — the octets of a message tell its operation.
* `opcode_eq_iff` — **when a reply tells the operation of the query.**
* `opcode_lost_status` — a reply that does not.
-/

namespace DohRelay

namespace Dns

open Reader Writer

/-- The operation that the header in some octets tells. -/
def opcode? (bytes : List UInt8) : Option Opcode :=
  bytes[2]?.bind fun high => Opcode.ofCode? ((high >>> 3) &&& 0xf)

/-- **The octets of a message tell its operation.** -/
theorem opcode?_of_encode {m : Message} {bytes : List UInt8} (h : m.encode = .ok bytes) :
    opcode? bytes = some m.opcode := by
  obtain ⟨a, n, d, body, -, -, rfl⟩ := Message.encode_eq_ok h
  exact (flags_high m.opcode m.response m.authoritative _ m.recursionDesired).1

end Dns

/-- A message that a document says is meant as an ordinary query. -/
theorem Inquiry.opcode_of_readAnswer {config : Config} (hjson : config.convention = .json)
    {question : Dns.Question} {body : List UInt8} {message : Dns.Message}
    (h : readAnswer config question body = .ok message) : message.opcode = .query := by
  rw [readAnswer, hjson] at h
  simp only [Resolve.answer] at h
  split at h
  case h_1 => cases h
  case h_2 document _ =>
    obtain ⟨_, -, h⟩ := exists_of_bind_eq_ok h
    obtain ⟨answers, -, h⟩ := exists_of_bind_eq_ok h
    obtain ⟨authority, -, h⟩ := exists_of_bind_eq_ok h
    obtain ⟨additional, -, h⟩ := exists_of_bind_eq_ok h
    cases h
    rfl

namespace Service

open Cache (CallerId)

/-- The octets of a reply tell the operation of the answer, or that of the query and that it could
not be answered. -/
theorem opcode?_of_replyBytes {carrier : Carrier} {query answer : Dns.Message}
    {bytes : List UInt8} (h : State.replyBytes carrier query answer = some bytes) :
    Dns.opcode? bytes = some answer.opcode ∧
        (answer.encode = .ok bytes ∨ answer.shortened.encode = .ok bytes) ∨
      Dns.opcode? bytes = some query.opcode ∧ query.servFailFor.encode = .ok bytes := by
  rcases State.replyBytes_eq_some h with hfull | hshort | hfailed
  · have hopcode := Dns.opcode?_of_encode hfull
    exact .inl ⟨hopcode, .inl hfull⟩
  · have hopcode := Dns.opcode?_of_encode hshort
    exact .inl ⟨hopcode, .inr hshort⟩
  · have hopcode := Dns.opcode?_of_encode hfailed
    exact .inr ⟨hopcode, hfailed⟩

/-- **A reply tells the operation of the query** unless it consists of the octets of an answer, in
full or cut short, that is made of a message of the endpoint with another operation.  Where answers
come as documents, all messages of the endpoint are meant as ordinary queries. -/
theorem opcode_eq_iff {config : Config} {fetchTimeout : Nat} {moves : List Move} {s : State}
    (h : Run config fetchTimeout moves s) {id : CallerId} {carrier : Carrier}
    {bytes : List UInt8} (hin : HandedIn moves id (.octets carrier bytes))
    {query : Dns.Message} (hquery : Dns.Message.decode bytes = .ok query) {c : Client}
    (hc : s.clients.find? id = some c) {reply : List UInt8} {resolution : Resolution}
    (hreplied : c.stage = .replied (some reply) resolution) :
    (Dns.opcode? reply = some query.opcode ↔
      ¬∃ message other, Sent config moves message ∧ message.opcode ≠ query.opcode ∧
        (((message.answering other).answering query).encode = .ok reply ∨
          ((message.answering other).answering query).shortened.encode = .ok reply)) ∧
    (config.convention = .json → ∀ message, Sent config moves message →
      message.opcode = .query) := by
  refine ⟨⟨fun hsame => ?_, fun hno => ?_⟩, fun hjson message hsent => ?_⟩
  · rintro ⟨message, other, -, hne, hbytes⟩
    have hopcode : Dns.opcode? reply = some message.opcode := by
      rcases hbytes with hfull | hshort
      · have hopcode := Dns.opcode?_of_encode hfull
        exact hopcode
      · have hopcode := Dns.opcode?_of_encode hshort
        exact hopcode
    rw [hsame, Option.some.injEq] at hopcode
    exact hne hopcode.symm
  · obtain ⟨-, hstory⟩ := h.story hin hc
    rw [hreplied] at hstory
    generalize hsome : some reply = outcome at hstory
    cases hstory with
    | malformed hinput =>
      have hinput : Dns.Message.decode bytes = _ := hinput
      cases hquery.symm.trans hinput
    | @replied query' answer _ carrier' hinput hcarrier verdict =>
      obtain rfl : query = query' := Except.ok.inj (hquery.symm.trans hinput)
      rcases opcode?_of_replyBytes hsome.symm with ⟨hopcode, hbytes⟩ | ⟨hopcode, -⟩
      · cases verdict with
        -- these replies are made of the query
        | failed | synthesized => exact hopcode
        | answered outcome admitted hanswer =>
          obtain ⟨message, other, hsent, rfl⟩ := hanswer
          by_cases hsame : message.opcode = query.opcode
          · rw [hopcode, ← hsame]
            rfl
          · exact absurd ⟨message, other, hsent, hsame, hbytes⟩ hno
      · exact hopcode
  · obtain ⟨_, _, _, _, _, _, _, hread⟩ := hsent
    exact Inquiry.opcode_of_readAnswer hjson hread

/-! ### A query about the state of a server -/

/-- A query with another operation. -/
def statusQuery : List UInt8 := [0, 2, 0x11, 0, 0, 1, 0, 0, 0, 0, 0, 0, 0, 0, 1, 0, 1]

/-- What the endpoint sends: an ordinary answer without records. -/
def plainResponse : List UInt8 := [0, 0, 0x80, 0, 0, 1, 0, 0, 0, 0, 0, 0, 0, 0, 1, 0, 1]

/-- What the client is told. -/
def plainReply : List UInt8 := [0, 2, 0x81, 0, 0, 1, 0, 0, 0, 0, 0, 0, 0, 0, 1, 0, 1]

/-- The client hands in the query, and the endpoint answers. -/
def statusEvents : List Event :=
  [.arrive 0 .datagram statusQuery, .ask 0, .cache (.look 0), .cache (.enter 0), .send 0,
    .respond 0 (.ok ⟨200, plainResponse⟩), .cache (.store 0), .cache (.release 0),
    .cache (.take 0), .decide 0, .reply 0]

/-- The query that is handed in. -/
def statusMessage : Dns.Message :=
  { Dns.Message.empty with
    id := 2, opcode := .status, recursionDesired := true, questions := [Dns.rootQuestion] }

/-- The message that the endpoint sends. -/
def plainMessage : Dns.Message :=
  { Dns.Message.empty with response := true, questions := [Dns.rootQuestion] }

theorem decode_statusQuery : Dns.Message.decode statusQuery = .ok statusMessage := by
  have hbytes : statusQuery = Dns.rootBytes statusMessage := by decide
  rw [hbytes]
  exact Dns.decode_rootBytes (n := 1) ⟨rfl, rfl, rfl, rfl⟩ (by decide) rfl (by decide)

theorem decode_plainResponse : Dns.Message.decode plainResponse = .ok plainMessage := by
  have hbytes : plainResponse = Dns.rootBytes plainMessage := by decide
  rw [hbytes]
  exact Dns.decode_rootBytes (n := 1) ⟨rfl, rfl, rfl, rfl⟩ (by decide) rfl (by decide)

theorem play_statusEvents : ∃ s, (State.start posting 5000).play statusEvents = some s ∧
    s.clients.find? 0 = some ⟨some .datagram, 0, .replied (some plainReply) .forwarded⟩ := by
  simp only [statusEvents, State.play, State.step, State.arrive, decode_statusQuery,
    State.respond, Except.bind, Inquiry.conclude, Inquiry.readAnswer, Wire.answer,
    decode_plainResponse]
  exact ⟨_, rfl, rfl⟩

/-- These events make a run. -/
theorem exists_run_status : ∃ moves s, Run posting 5000 moves s ∧
    HandedIn moves 0 (.octets .datagram statusQuery) ∧
      s.clients.find? 0 = some ⟨some .datagram, 0, .replied (some plainReply) .forwarded⟩ := by
  obtain ⟨s, hs, hc⟩ := play_statusEvents
  obtain ⟨moves, hrun, hmap⟩ := Run.of_play hs
  exact ⟨moves, s, hrun, .of_play hmap List.mem_cons_self rfl, hc⟩

/-- The reply in this run is made of a message with another operation. -/
theorem opcode_eq_iff_status : ∃ moves s, Run posting 5000 moves s ∧
    HandedIn moves 0 (.octets .datagram statusQuery) ∧
      s.clients.find? 0 = some ⟨some .datagram, 0, .replied (some plainReply) .forwarded⟩ ∧
      ∃ message, Sent posting moves message ∧ message.opcode ≠ .status := by
  obtain ⟨moves, s, hrun, hin, hc⟩ := exists_run_status
  obtain ⟨hiff, -⟩ := opcode_eq_iff hrun hin decode_statusQuery hc rfl
  have hlost : ¬Dns.opcode? plainReply = some statusMessage.opcode := by decide
  obtain ⟨message, _, hsent, hne, -⟩ := not_not.mp (mt hiff.mpr hlost)
  exact ⟨moves, s, hrun, hin, hc, message, hsent, hne⟩

/-- **A reply may tell another operation than the query.** -/
theorem opcode_lost_status : ∃ moves s, Run posting 5000 moves s ∧
    HandedIn moves 0 (.octets .datagram statusQuery) ∧
      Dns.Message.decode statusQuery = .ok statusMessage ∧
      s.clients.find? 0 = some ⟨some .datagram, 0, .replied (some plainReply) .forwarded⟩ ∧
      statusMessage.opcode = .status ∧ Dns.opcode? plainReply = some .query := by
  obtain ⟨moves, s, hrun, hin, hc⟩ := exists_run_status
  exact ⟨moves, s, hrun, hin, decode_statusQuery, hc, rfl, by decide⟩

end Service

end DohRelay
