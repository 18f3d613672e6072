import DohRelay.Proofs.Dns.Questions
import DohRelay.Proofs.Service.ResponseCode

/-!
# Replies belong to their queries

One message of the endpoint may go to many clients, by way of the cache or of a fetch they share.
Each of them is told of it in a reply that has the id of its own query, the questions as it spelled
them itself and its wish for recursion, and an extension record only if its query had one; and so it
is with the replies that say that there is no answer.  The octets of a reply say the same when they
are read.

## Main definitions

* `Belongs` — a reply belongs to a query.

## Main results

* `Verdict.belongs` — the messages that a query may be answered with belong to it.
* `Belongs.of_decode` — what is read of a message that belongs to a query belongs to it.
* `replies_belong` — **whatever a client is told belongs to its query.**
-/

namespace DohRelay.Service

open Cache (CallerId)

/-- A reply belongs to a query. -/
structure Belongs (query reply : Dns.Message) : Prop where
  /-- It has the id of the query. -/
  id : reply.id = query.id
  /-- It says that it is a reply. -/
  response : reply.response = true
  /-- It repeats the wish for recursion. -/
  recursionDesired : reply.recursionDesired = query.recursionDesired
  /-- It repeats the questions, in the letter case of the query. -/
  questions : reply.questions = query.questions
  /-- It has an extension record only if the query has. -/
  edns : reply.edns.isSome = true → query.edns.isSome = true

namespace Belongs

variable {query answer reply : Dns.Message}

theorem replyTo (query : Dns.Message) (code : Dns.ResponseCode) :
    Belongs query (query.replyTo code) :=
  ⟨rfl, rfl, rfl, rfl, nofun⟩

theorem answering (answer query : Dns.Message) : Belongs query (answer.answering query) :=
  ⟨rfl, rfl, rfl, rfl, fun h => (Dns.Message.edns_answering h).2⟩

theorem shortened (h : Belongs query answer) : Belongs query answer.shortened :=
  ⟨h.id, rfl, h.recursionDesired, h.questions, nofun⟩

/-- What is read of a message that belongs to a query belongs to it. -/
theorem of_decode (h : Belongs query answer) (hcodable : answer.Codable)
    (hfits : ∀ q ∈ query.questions, q.name.Fits) {bytes : List UInt8}
    (hwritten : answer.encode = .ok bytes) (hread : Dns.Message.decode bytes = .ok reply) :
    Belongs query reply := by
  have hkept := Dns.kept_of_decode hcodable.additional hwritten hread
  have hquestions := Dns.Message.questions_of_decode (h.questions.symm ▸ hfits) hwritten hread
  exact ⟨hkept.id.trans h.id, hkept.response.trans h.response,
    hkept.recursionDesired.trans h.recursionDesired, hquestions.trans h.questions,
    fun hedns => h.edns (hkept.edns hedns)⟩

end Belongs

/-- The messages that a query may be answered with belong to it. -/
theorem Verdict.belongs {config : Config} {P : Dns.Message → Prop} {query answer : Dns.Message}
    {resolution : Resolution} (h : Verdict config P query answer resolution) :
    Belongs query answer := by
  cases h with
  | failed | synthesized => exact .replyTo query _
  | answered => exact .answering _ query

/-- They have no extension record that could not be read. -/
theorem Verdict.codable {config : Config} {moves : List Move} {query answer : Dns.Message}
    {resolution : Resolution} (h : Verdict config (Obtained config moves) query answer resolution) :
    answer.Codable := by
  cases h with
  | failed | synthesized => exact codable_replyTo query _
  | answered _ _ hanswer =>
    obtain ⟨message, other, hsent, rfl⟩ := hanswer
    exact (hsent.codable.answering other).answering query

/-- The octets of a reply are those of a message that belongs to the query: the answer, its short
form, or that there is no answer. -/
theorem belongs_of_replyBytes {carrier : Carrier} {query answer : Dns.Message}
    (h : Belongs query answer) (hcodable : answer.Codable) {bytes : List UInt8}
    (hreply : State.replyBytes carrier query answer = some bytes) :
    ∃ written, Belongs query written ∧ written.Codable ∧ written.encode = .ok bytes := by
  rcases State.replyBytes_eq_some hreply with hfull | hshort | hfailed
  · exact ⟨answer, h, hcodable, hfull⟩
  · exact ⟨answer.shortened, h.shortened, answer.isBare_shortened.codable, hshort⟩
  · exact ⟨query.servFailFor, .replyTo query _, codable_replyTo query _, hfailed⟩

/-- **Whatever a client is told belongs to its query**: it has the id of the query, says that it is
a reply, repeats the wish for recursion and the questions as the client spelled them, and has an
extension record only if the query has.  This holds of the message that the octets of a reply are
written from and of any that is read of them, and such a reply without records can be read. -/
theorem replies_belong {config : Config} {fetchTimeout : Nat} {moves : List Move} {s : State}
    (h : Run config fetchTimeout moves s) {id : CallerId} {input : Input}
    (hin : HandedIn moves id input) {query : Dns.Message} (hquery : input.decode = .ok query)
    {c : Client} (hc : s.clients.find? id = some c) :
    (∀ bytes resolution, c.stage = .replied (some bytes) resolution →
      ∃ answer, Belongs query answer ∧ answer.encode = .ok bytes ∧
        (answer.IsBare → ∃ reply, Dns.Message.decode bytes = .ok reply) ∧
        ∀ reply, Dns.Message.decode bytes = .ok reply → Belongs query reply) ∧
    ∀ answer resolution, c.stage = .told answer resolution → Belongs query answer := by
  obtain ⟨-, hstory⟩ := h.story hin hc
  constructor
  case left =>
    intro bytes resolution hreplied
    rw [hreplied] at hstory
    generalize hsome : some bytes = outcome at hstory
    cases hstory with
    | malformed hinput =>
      rw [hquery] at hinput
      cases hinput
    | @replied query' answer _ carrier hinput hcarrier verdict =>
      obtain rfl : query = query' := Except.ok.inj (hquery.symm.trans hinput)
      obtain ⟨written, hbelongs, hcodable, hwritten⟩ :=
        belongs_of_replyBytes verdict.belongs verdict.codable hsome.symm
      -- only octets are answered by octets, and what is read of them has names that fit
      have hfits : ∀ q ∈ query.questions, q.name.Fits := by
        cases input with
        | query q => cases hcarrier
        | octets _ handed => exact (Dns.Message.legible_of_decode hquery).questions
      exact ⟨written, hbelongs, hwritten,
        fun hbare => ⟨_, hbare.decode_encode (hbelongs.questions.symm ▸ hfits) hwritten⟩,
        fun reply hread => hbelongs.of_decode hcodable hfits hwritten hread⟩
  case right =>
    intro answer resolution htold
    rw [htold] at hstory
    cases hstory with
    | told hinput _ verdict =>
      obtain rfl := Except.ok.inj (hquery.symm.trans hinput)
      exact verdict.belongs

/-! ### A fetch that two clients share -/

/-- The label of one octet. -/
def letter (b : UInt8) : Dns.Label :=
  ⟨[b], List.cons_ne_nil _ _, Nat.le_add_left 1 62⟩

/-- A message that asks for the addresses of a name of one letter, with an id and some flags. -/
def letterMessage (id : UInt16) (response recursionDesired : Bool) (b : UInt8) : Dns.Message :=
  { Dns.Message.empty with
    id, response, recursionDesired, questions := [⟨⟨[letter b]⟩, .a, Dns.classIn⟩] }

/-- The octets of such a message. -/
def letterBytes (id flags b : UInt8) : List UInt8 :=
  [0, id, flags, 0] ++ ([0, 1] ++ ([0, 0] ++ ([0, 0] ++ ([0, 0] ++ [1, b, 0, 0, 1, 0, 1]))))

/-- Two clients ask about one name in their own letter cases, and share a fetch. -/
def letterEvents : List Event :=
  [.arrive 0 .datagram (letterBytes 1 1 0x61), .arrive 1 .connection (letterBytes 2 0 0x41),
    .ask 0, .ask 1, .cache (.look 0), .cache (.look 1), .cache (.enter 0), .cache (.enter 1),
    .send 0, .respond 0 (.ok ⟨200, letterBytes 0 0x80 0x61⟩), .cache (.store 0),
    .cache (.release 0), .cache (.take 0), .cache (.take 1), .decide 0, .decide 1, .reply 0,
    .reply 1]

open Dns.Reader in
theorem decode_letterBytes {id flags b : UInt8} {response recursionDesired : Bool}
    (hheader : (letterMessage id.toUInt16 response recursionDesired b).headerBytes false 0 0 0 =
      [0, id, flags, 0, 0, 1, 0, 0, 0, 0, 0, 0]) :
    Dns.Message.decode (letterBytes id flags b) =
      .ok (letterMessage id.toUInt16 response recursionDesired b) := by
  have hname : Gives name [1, b, 0] ⟨[letter b]⟩ := by
    intro message p hstands
    have hspelled : Dns.Spelled message p [letter b] p (p + 3) :=
      .label (Dns.Stands.left (y := [0]) hstands)
        (.root (Dns.Stands.right (x := [1, b]) hstands).getElem?)
    have hread : Dns.Name.readFrom message p none [] p = .ok [letter b] (p + 3) :=
      hspelled.readFrom_eq nofun (by decide : 2 < 255)
    rw [name, hread]
    rfl
  have hquestion : Gives Dns.readQuestion [1, b, 0, 0, 1, 0, 1] ⟨⟨[letter b]⟩, .a, Dns.classIn⟩ :=
    hname.bind ((gives_word16 1).bind ((gives_word16 1).bind_end (.pure rfl)))
  have hdecode := Dns.decode_replicate
    (m := letterMessage id.toUInt16 response recursionDesired b) (n := 1) ⟨rfl, rfl, rfl, rfl⟩
    hquestion (by decide) rfl (by decide : Dns.ResponseCode.noError.toNat < 16)
  change Dns.Message.decode ((letterMessage _ _ _ _).headerBytes false 0 0 0 ++ _) = _ at hdecode
  rw [hheader] at hdecode
  exact hdecode

theorem play_letterEvents : ∃ s, (State.start posting 5000).play letterEvents = some s ∧
    s.clients.find? 1 = some ⟨some .connection, 0,
      .replied (some (letterBytes 2 0x80 0x41)) .shared⟩ := by
  have hlower : Dns.Message.decode (letterBytes 1 1 0x61) = .ok (letterMessage 1 false true 0x61) :=
    decode_letterBytes rfl
  have hupper : Dns.Message.decode (letterBytes 2 0 0x41) =
      .ok (letterMessage 2 false false 0x41) :=
    decode_letterBytes rfl
  have hsent : Dns.Message.decode (letterBytes 0 0x80 0x61) =
      .ok (letterMessage 0 true false 0x61) :=
    decode_letterBytes rfl
  simp only [letterEvents, State.play, State.step, State.arrive, hlower, hupper,
    State.respond, Except.bind, Inquiry.conclude, Inquiry.readAnswer, Wire.answer, hsent]
  exact ⟨_, rfl, rfl⟩

/-- What the second client is told belongs to its query, though the first one had asked the
endpoint. -/
theorem replies_belong_letters : ∃ moves s reply,
    Run posting 5000 moves s ∧
      HandedIn moves 1 (.octets .connection (letterBytes 2 0 0x41)) ∧
      s.clients.find? 1 = some ⟨some .connection, 0,
        .replied (some (letterBytes 2 0x80 0x41)) .shared⟩ ∧
      Dns.Message.decode (letterBytes 2 0x80 0x41) = .ok reply ∧
      Belongs (letterMessage 2 false false 0x41) reply := by
  obtain ⟨s, hs, hc⟩ := play_letterEvents
  obtain ⟨moves, hrun, hmap⟩ := Run.of_play hs
  have hin : HandedIn moves 1 (.octets .connection (letterBytes 2 0 0x41)) :=
    .of_play hmap (List.mem_cons_of_mem _ List.mem_cons_self) rfl
  have hquery : Dns.Message.decode (letterBytes 2 0 0x41) =
      .ok (letterMessage 2 false false 0x41) :=
    decode_letterBytes rfl
  have hreply : Dns.Message.decode (letterBytes 2 0x80 0x41) =
      .ok (letterMessage 2 true false 0x41) :=
    decode_letterBytes rfl
  obtain ⟨-, -, -, -, hbelongs⟩ := (replies_belong hrun hin hquery hc).1 _ _ rfl
  exact ⟨moves, s, _, hrun, hin, hc, hreply, hbelongs _ hreply⟩

end DohRelay.Service
