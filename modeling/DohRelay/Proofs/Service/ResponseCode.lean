import DohRelay.Proofs.Dns.Crowded
import DohRelay.Proofs.Dns.Decoded
import DohRelay.Proofs.Service.Answers

/-!
# Response codes on the way to the client

A response code has up to sixteen bits, of which the header of a message tells four and its
extension record eight.  An answer loses its extension record where the query has none, where it
comes from a document, and in the short form; what the record would have told is lost with it.  A
reply then says that all is well for every code whose four low bits are zero.

## Main definitions

* `Dns.Message.Codable` — the extension record of a message has room for its code.
* `Relayed` — what a reply tells of the code in an answer.
* `badVersionEvents` — what happens when the endpoint sends a code of five bits.

## Main results

* `Inquiry.codable_of_readAnswer` — what the endpoint sends is codable.
* `relayed_of_replyBytes` — the code that a reply tells.
* `rcode_eq_noError_iff` — **a reply says that all is well just when the code has no low bits.**
* `rcode_lost_badVersion` — a fault of which the client is told that all is well.
-/

namespace DohRelay

namespace Dns

/-- The extension record of a message, if there is one, is the only one and has room for the code.
-/
structure Message.Codable (m : Message) : Prop where
  /-- No extension record is among the others. -/
  additional : ∀ r ∈ m.additional, r.type ≠ .opt
  /-- There is room for twelve bits. -/
  rcode : m.edns.isSome = true → m.rcode.toNat < 4096

theorem Message.Legible.codable {m : Message} (h : m.Legible) : m.Codable :=
  ⟨h.additional, fun _ => h.rcode⟩

theorem Message.IsBare.codable {m : Message} (h : m.IsBare) : m.Codable where
  additional := by simp [h.additional]
  rcode := by simp [h.edns]

theorem Message.edns_answering {answer query : Message}
    (h : (answer.answering query).edns.isSome = true) :
    answer.edns.isSome = true ∧ query.edns.isSome = true := by
  unfold Message.answering at h
  cases hquery : query.edns with
  | none => simp [hquery] at h
  | some e => simpa [hquery] using h

theorem Message.Codable.answering {answer : Message} (h : answer.Codable) (query : Message) :
    (answer.answering query).Codable :=
  ⟨h.additional, fun hedns => h.rcode (Message.edns_answering hedns).1⟩

/-- A codable message that is written and read again has its code, or the low bits of it if there is
no extension record. -/
theorem Message.Codable.rcode_of_decode {m m' : Message} (h : m.Codable) {bytes : List UInt8}
    (hwritten : m.encode = .ok bytes) (hread : Message.decode bytes = .ok m') :
    m'.rcode = if m'.edns.isSome then m.rcode else .join 0 m.rcode.low := by
  have hkept := kept_of_decode h.additional hwritten hread
  rw [hkept.rcode]
  split
  case isTrue hedns => exact ResponseCode.join_high_low (h.rcode (hkept.edns hedns))
  case isFalse => rfl

/-! ### A code of five bits -/

open Reader

/-- A message that says that the extension record of a query has a version that is not supported:
the code is 16. -/
def badVersion : Message :=
  { Message.empty with response := true, rcode := 16, edns := some ⟨1232, 0, false, 1, .empty⟩ }

/-- The octets of its extension record. -/
def badVersionRecord : List UInt8 := [0, 0, 41, 4, 208, 1, 0, 0, 0, 0, 0]

/-- The octets of the message. -/
def badVersionBytes : List UInt8 :=
  [0, 0, 0x80, 0, 0, 0, 0, 0, 0, 0, 0, 1] ++ badVersionRecord

theorem gives_badVersionRecord :
    Gives readRecord badVersionRecord ⟨.root, .opt, 1232, 0x01000000, none⟩ := by
  have hclass : Gives (readClass .root .opt) [4, 208] 1232 :=
    (gives_word16 1232).bind_end (.pure rfl)
  refine gives_root.bind ((gives_word16 41).bind (hclass.bind
    ((gives_word32 0x01000000).bind ((gives_word16 0).bind_end ?_))))
  -- the record has no data, so whatever is left of the message is enough
  intro message p _
  rfl

theorem decode_badVersionBytes : Message.decode badVersionBytes = .ok badVersion := by
  have hadditional : Gives (readAdditional 1 none) badVersionRecord ([], badVersion.edns) :=
    gives_badVersionRecord.bind_end (.pure rfl)
  have hread : Gives Message.read badVersionBytes badVersion := by
    refine (gives_header badVersion false).bind (y := [0, 0, 0, 0, 0, 0, 0, 1] ++ _) ?_
    refine (gives_word16 0).bind ((gives_word16 0).bind ((gives_word16 0).bind
      ((gives_word16 1).bind ?_)))
    refine (Gives.pure rfl).bind ((Gives.pure rfl).bind ((Gives.pure rfl).bind ?_))
    exact hadditional.bind_end (.pure rfl)
  unfold Message.decode Reader.run
  rw [hread _ 0 (Stands.self _)]

end Dns

/-! ### Messages of the endpoint -/

/-- No extension record is read from a document. -/
theorem Resolve.type_ne_opt_of_readRecord {r : Record} {record : Dns.Record}
    (h : readRecord r = .ok (some record)) : record.type ≠ .opt := by
  intro htype
  obtain ⟨data?, hdata, h⟩ := exists_of_bind_eq_ok h
  cases data? with
  | none => cases h
  | some data =>
    obtain ⟨owner, -, h⟩ := exists_of_bind_eq_ok h
    cases h
    have hopt : (⟨r.type⟩ : Dns.RecordType) = .opt := htype
    rw [hopt] at hdata
    cases hdata

/-- The records that are understood are each that of one record of the document. -/
theorem Resolve.mem_readRecords {rs : List Record} {records : List Dns.Record}
    (h : readRecords rs = .ok records) {record : Dns.Record} (hrecord : record ∈ records) :
    ∃ r ∈ rs, readRecord r = .ok (some record) := by
  obtain ⟨outcomes, houtcomes, h⟩ := exists_of_bind_eq_ok h
  cases h
  obtain ⟨outcome, hmem, rfl⟩ := List.mem_filterMap.mp hrecord
  exact exists_of_mem_mapM houtcomes hmem

theorem Resolve.type_ne_opt_of_readRecords {rs : List Record} {records : List Dns.Record}
    (h : readRecords rs = .ok records) : ∀ r ∈ records, r.type ≠ .opt := by
  intro r hr
  obtain ⟨a, -, ha⟩ := mem_readRecords h hr
  exact type_ne_opt_of_readRecord ha

/-- A document tells a whole code, and no extension record. -/
theorem Resolve.Answer.toMessage_eq_ok {answer : Answer} {question : Dns.Question}
    {message : Dns.Message} (h : answer.toMessage question = .ok message) :
    message.rcode = answer.status ∧ message.edns = none ∧
      ∀ r ∈ message.additional, r.type ≠ .opt := by
  obtain ⟨_, -, h⟩ := exists_of_bind_eq_ok h
  obtain ⟨answers, -, h⟩ := exists_of_bind_eq_ok h
  obtain ⟨authority, -, h⟩ := exists_of_bind_eq_ok h
  obtain ⟨additional, hadditional, h⟩ := exists_of_bind_eq_ok h
  cases h
  exact ⟨rfl, rfl, Resolve.type_ne_opt_of_readRecords hadditional⟩

/-- What the endpoint sends is codable. -/
theorem Inquiry.codable_of_readAnswer {config : Config} {question : Dns.Question}
    {body : List UInt8} {message : Dns.Message}
    (h : readAnswer config question body = .ok message) : message.Codable := by
  unfold readAnswer at h
  split at h
  case h_1 =>
    unfold Wire.answer at h
    split at h
    case h_1 m hm =>
      cases h
      exact (Dns.Message.legible_of_decode hm).codable
    case h_2 => cases h
  case h_2 =>
    unfold Resolve.answer at h
    split at h
    case h_1 => cases h
    case h_2 document _ =>
      obtain ⟨-, hedns, hadditional⟩ := Resolve.Answer.toMessage_eq_ok h
      exact ⟨hadditional, by simp [hedns]⟩

namespace Service

open Cache (CallerId)

/-! ### Replies -/

theorem Sent.codable {config : Config} {moves : List Move} {message : Dns.Message}
    (h : Sent config moves message) : message.Codable := by
  obtain ⟨_, _, _, _, _, _, _, hread⟩ := h
  exact Inquiry.codable_of_readAnswer hread

/-- What a reply that is read tells of the code in the answer it was written from, and whether it
has an extension record. -/
structure Relayed (answer reply : Dns.Message) : Prop where
  /-- It has one only if the answer has. -/
  edns : reply.edns.isSome = true → answer.edns.isSome = true
  /-- It tells the whole code then, and the low bits of it otherwise. -/
  rcode : reply.rcode = if reply.edns.isSome then answer.rcode else .join 0 answer.rcode.low

theorem relayed_of_encode {answer reply : Dns.Message} (hcodable : answer.Codable)
    {bytes : List UInt8} (hwritten : answer.encode = .ok bytes)
    (hread : Dns.Message.decode bytes = .ok reply) : Relayed answer reply :=
  ⟨(Dns.kept_of_decode hcodable.additional hwritten hread).edns,
    hcodable.rcode_of_decode hwritten hread⟩

/-- The short form tells the low bits of the code. -/
theorem relayed_of_shortened {answer reply : Dns.Message} {bytes : List UInt8}
    (hwritten : answer.shortened.encode = .ok bytes)
    (hread : Dns.Message.decode bytes = .ok reply) : Relayed answer reply := by
  have hshort := relayed_of_encode answer.isBare_shortened.codable hwritten hread
  have hedns : reply.edns.isSome = true → False := fun h => by cases hshort.edns h
  refine ⟨fun h => (hedns h).elim, ?_⟩
  rw [hshort.rcode, if_neg hedns, if_neg hedns]
  rfl

/-- The reply that a query could not be answered says so. -/
theorem Relayed.rcode_eq_servFail {query reply : Dns.Message}
    (h : Relayed query.servFailFor reply) : reply.rcode = .servFail := by
  rw [h.rcode]
  split
  case isTrue => rfl
  case isFalse => exact Dns.ResponseCode.join_zero_low (c := .servFail) (by decide)

theorem codable_replyTo (query : Dns.Message) (code : Dns.ResponseCode) :
    (query.replyTo code).Codable :=
  (Dns.Message.isBare_replyTo query code).codable

/-- **A reply tells the code of the answer, or that the query could not be answered.** -/
theorem relayed_of_replyBytes {carrier : Carrier} {query answer reply : Dns.Message}
    (hcodable : answer.Codable) {bytes : List UInt8}
    (hreply : State.replyBytes carrier query answer = some bytes)
    (hread : Dns.Message.decode bytes = .ok reply) :
    Relayed answer reply ∨ reply.rcode = .servFail := by
  -- in full, in short form, or, where the answer has no octets, that it could not be answered
  rcases State.replyBytes_eq_some hreply with hfull | hshort | hfailed
  · exact .inl (relayed_of_encode hcodable hfull hread)
  · exact .inl (relayed_of_shortened hshort hread)
  · have hcodable := codable_replyTo query .servFail
    exact .inr (relayed_of_encode hcodable hfailed hread).rcode_eq_servFail

/-- A reply says that all is well if the answer does, or if the low bits of the code in the answer
do and there is no extension record for the others. -/
theorem Relayed.rcode_eq_noError {answer reply : Dns.Message} (h : Relayed answer reply) :
    reply.rcode = .noError ↔
      answer.rcode = .noError ∨ reply.edns = none ∧ answer.rcode.toNat % 16 = 0 := by
  rw [h.rcode]
  cases hedns : reply.edns with
  | none =>
    simp only [Option.isSome_none, Bool.false_eq_true, if_false, true_and]
    rw [Dns.ResponseCode.join_zero_low_eq_noError]
    constructor
    · exact .inr
    · rintro (hcode | hlow)
      · rw [hcode]
        rfl
      · exact hlow
  | some e => simp

/-- **A reply says that all is well just when the code has no low bits**, if there is no extension
record in it to tell the others.  Whoever hands in a query is told that it could not be answered, or
that by policy there is nothing, or what follows from a message of the endpoint; and if that says
that all is well, then either so does the message, or it has a code of more than four bits, the
lower four of which are zero, and the reply has no extension record.  It has none unless both the
query and the message have one. -/
theorem rcode_eq_noError_iff {config : Config} {fetchTimeout : Nat} {moves : List Move} {s : State}
    (h : Run config fetchTimeout moves s) {id : CallerId} {carrier : Carrier}
    {bytes : List UInt8} (hin : HandedIn moves id (.octets carrier bytes))
    {query : Dns.Message} (hquery : Dns.Message.decode bytes = .ok query) {c : Client}
    (hc : s.clients.find? id = some c) {replyBytes : List UInt8} {resolution : Resolution}
    (hreplied : c.stage = .replied (some replyBytes) resolution) {reply : Dns.Message}
    (hread : Dns.Message.decode replyBytes = .ok reply) :
    reply.rcode = .servFail ∨
    (reply.rcode = .noError ∧ resolution = .synthesized ∧
      ∃ question, query.question = .ok question ∧ config.noAaaa = true ∧ question.isAaaa = true) ∨
    ∃ message other, Sent config moves message ∧
      State.replyBytes carrier query ((message.answering other).answering query) =
        some replyBytes ∧
      (reply.edns.isSome = true → query.edns.isSome = true ∧ message.edns.isSome = true) ∧
      (reply.rcode = .noError ↔
        message.rcode = .noError ∨ reply.edns = none ∧ message.rcode.toNat % 16 = 0) := by
  obtain ⟨-, hstory⟩ := h.story hin hc
  rw [hreplied] at hstory
  generalize hsome : some replyBytes = outcome at hstory
  cases hstory with
  | malformed hinput =>
    -- what is read as a query is not malformed
    have hinput : Dns.Message.decode bytes = _ := hinput
    cases hquery.symm.trans hinput
  | @replied query' answer _ carrier' hinput hcarrier verdict =>
    obtain rfl : query = query' := Except.ok.inj (hquery.symm.trans hinput)
    obtain rfl : carrier = carrier' := Option.some.inj hcarrier
    cases verdict with
    | failed =>
      have hcodable := codable_replyTo query .servFail
      rcases relayed_of_replyBytes hcodable hsome.symm hread with hrelayed | hfailed
      · exact .inl hrelayed.rcode_eq_servFail
      · exact .inl hfailed
    | @synthesized question hquestion hpolicy =>
      have hcodable := codable_replyTo query .noError
      rcases relayed_of_replyBytes hcodable hsome.symm hread with hrelayed | hfailed
      · refine .inr (.inl ⟨hrelayed.rcode_eq_noError.mpr (.inl rfl), rfl, question, hquestion, ?_⟩)
        exact Bool.and_eq_true_iff.mp hpolicy
      · exact .inl hfailed
    | answered outcome admitted hanswer =>
      obtain ⟨message, other, hsent, rfl⟩ := hanswer
      -- fitted to two queries, that of the errand and that of the client, it stays codable
      have hcodable := (hsent.codable.answering other).answering query
      rcases relayed_of_replyBytes hcodable hsome.symm hread with hrelayed | hfailed
      · refine .inr (.inr ⟨message, other, hsent, rfl, fun hedns => ?_,
          hrelayed.rcode_eq_noError⟩)
        obtain ⟨hother, hquery⟩ := Dns.Message.edns_answering (hrelayed.edns hedns)
        exact ⟨hquery, (Dns.Message.edns_answering hother).1⟩
      · exact .inl hfailed

/-! ### A run with such a code -/

/-- A query about the root, without extension record. -/
def rootQuery : List UInt8 := [0, 1, 1, 0, 0, 1, 0, 0, 0, 0, 0, 0, 0, 0, 1, 0, 1]

/-- What the client is told: there is no error, and nothing else either. -/
def lostReply : List UInt8 := [0, 1, 0x81, 0, 0, 1, 0, 0, 0, 0, 0, 0, 0, 0, 1, 0, 1]

/-- A relay that posts messages. -/
def posting : Config := { Config.default with post := true }

/-- A client hands in the query, and the endpoint sends a code of five bits. -/
def badVersionEvents : List Event :=
  [.arrive 0 .datagram rootQuery, .ask 0, .cache (.look 0), .cache (.enter 0), .send 0,
    .respond 0 (.ok ⟨200, Dns.badVersionBytes⟩), .cache (.store 0), .cache (.release 0),
    .cache (.take 0), .decide 0, .reply 0]

theorem decode_rootQuery : Dns.Message.decode rootQuery = .ok { Dns.Message.empty with
    id := 1, recursionDesired := true, questions := [Dns.rootQuestion] } := by
  have hbytes : rootQuery = Dns.rootBytes { Dns.Message.empty with
      id := 1, recursionDesired := true, questions := [Dns.rootQuestion] } := by decide
  rw [hbytes]
  exact Dns.decode_rootBytes (n := 1) ⟨rfl, rfl, rfl, rfl⟩ (by decide) rfl (by decide)

theorem decode_lostReply : Dns.Message.decode lostReply = .ok { Dns.Message.empty with
    id := 1, response := true, recursionDesired := true, questions := [Dns.rootQuestion] } := by
  have hbytes : lostReply = Dns.rootBytes { Dns.Message.empty with
      id := 1, response := true, recursionDesired := true,
      questions := [Dns.rootQuestion] } := by decide
  rw [hbytes]
  exact Dns.decode_rootBytes (n := 1) ⟨rfl, rfl, rfl, rfl⟩ (by decide) rfl (by decide)

theorem play_badVersionEvents : ∃ s, (State.start posting 5000).play badVersionEvents = some s ∧
    s.clients.find? 0 = some ⟨some .datagram, 0, .replied (some lostReply) .forwarded⟩ := by
  simp only [badVersionEvents, State.play, State.step, State.arrive, decode_rootQuery,
    State.respond, Except.bind, Inquiry.conclude, Inquiry.readAnswer, Wire.answer,
    Dns.decode_badVersionBytes]
  exact ⟨_, rfl, rfl⟩

/-- These events make a run. -/
theorem exists_run_badVersion : ∃ moves s,
    Run posting 5000 moves s ∧ HandedIn moves 0 (.octets .datagram rootQuery) ∧
      s.clients.find? 0 = some ⟨some .datagram, 0, .replied (some lostReply) .forwarded⟩ ∧
      moves.map Move.event = badVersionEvents.reverse := by
  obtain ⟨s, hs, hc⟩ := play_badVersionEvents
  obtain ⟨moves, hrun, hmap⟩ := Run.of_play hs
  have hin : HandedIn moves 0 (.octets .datagram rootQuery) :=
    .of_play hmap List.mem_cons_self rfl
  exact ⟨moves, s, hrun, hin, hc, hmap⟩

/-- All that the endpoint sends in them has the code 16. -/
theorem rcode_of_sent_badVersion {moves : List Move}
    (hmap : moves.map Move.event = badVersionEvents.reverse) {message : Dns.Message}
    (h : Sent posting moves message) : message.rcode = 16 := by
  obtain ⟨m, hm, id, response, question, hevent, -, hread⟩ := h
  have hmem : m.event ∈ badVersionEvents.reverse := hmap ▸ List.mem_map_of_mem hm
  have hresponse : id = 0 ∧ response = ⟨200, Dns.badVersionBytes⟩ := by
    rw [hevent] at hmem
    simpa [badVersionEvents] using hmem
  obtain ⟨-, rfl⟩ := hresponse
  change Wire.answer Dns.badVersionBytes = .ok message at hread
  rw [Wire.answer, Dns.decode_badVersionBytes] at hread
  cases hread
  rfl

/-- The reply in this run is made from a message whose code has no low bits. -/
theorem rcode_eq_noError_iff_badVersion : ∃ moves s reply message,
    Run posting 5000 moves s ∧ HandedIn moves 0 (.octets .datagram rootQuery) ∧
      s.clients.find? 0 = some ⟨some .datagram, 0, .replied (some lostReply) .forwarded⟩ ∧
      Dns.Message.decode lostReply = .ok reply ∧ Sent posting moves message ∧
      (message.rcode = .noError ∨ reply.edns = none ∧ message.rcode.toNat % 16 = 0) := by
  obtain ⟨moves, s, hrun, hin, hc, -⟩ := exists_run_badVersion
  rcases rcode_eq_noError_iff hrun hin decode_rootQuery hc rfl decode_lostReply with
    hfailed | ⟨-, hsynthesized, -⟩ | ⟨message, -, hsent, -, -, hiff⟩
  · cases hfailed
  · cases hsynthesized
  · exact ⟨moves, s, _, message, hrun, hin, hc, decode_lostReply, hsent, hiff.mp rfl⟩

/-- **A fault may become a success**: policy has nothing to say and the endpoint sends nothing
without a fault, and yet the client is told that there is none. -/
theorem rcode_lost_badVersion : ∃ moves s reply,
    Run posting 5000 moves s ∧ HandedIn moves 0 (.octets .datagram rootQuery) ∧
      (∃ query, Dns.Message.decode rootQuery = .ok query) ∧
      s.clients.find? 0 = some ⟨some .datagram, 0, .replied (some lostReply) .forwarded⟩ ∧
      Dns.Message.decode lostReply = .ok reply ∧ reply.rcode = .noError ∧
      posting.noAaaa = false ∧ ∀ message, Sent posting moves message → message.rcode = 16 := by
  obtain ⟨moves, s, hrun, hin, hc, hmap⟩ := exists_run_badVersion
  exact ⟨moves, s, _, hrun, hin, ⟨_, decode_rootQuery⟩, hc, decode_lostReply, rfl, rfl,
    fun message => rcode_of_sent_badVersion hmap⟩

end Service

end DohRelay
