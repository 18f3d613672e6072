import DohRelay.Proofs.Dns.Crowded
import DohRelay.Proofs.Dns.Decoded
import DohRelay.Proofs.Service.Answers

/-!
# How long replies in datagrams are

A reply in a datagram is given in its short form if it is longer than the client takes.  The short
form of a reply to one question always fits.  But it repeats all questions, however many there are:
a query that asks so much that its questions alone are too long gets a reply that is too long.

## Main definitions

* `limitFor` — the largest datagram that the sender of some octets takes.

## Main results

* `length_encodeWithin_le` — a reply to one question at most fits.
* `datagram_too_long_iff` — **a reply is too long just when the questions of the query alone are.**
* `datagram_too_long_crowd` — a query whose reply is too long.
-/

namespace DohRelay.Dns

/-- The largest datagram that the sender of some octets takes. -/
def limitFor (bytes : List UInt8) : Nat :=
  match Message.decode bytes with
  | .ok query => query.datagramLimit
  | .error _ => minDatagram

theorem Message.minDatagram_le_datagramLimit (query : Message) :
    minDatagram ≤ query.datagramLimit :=
  Nat.le_max_right _ _

/-- Whoever repeats one question at most gets it into any datagram. -/
theorem Message.IsBare.length_encode_le_min {m : Message} (hm : m.IsBare)
    (hone : m.questions.length ≤ 1) (hfits : ∀ q ∈ m.questions, q.name.Fits)
    {bytes : List UInt8} (h : m.encode = .ok bytes) : bytes.length ≤ minDatagram :=
  Nat.le_trans (hm.length_encode_le hone hfits h) (by decide)

/-- **A reply to one question at most fits.** -/
theorem length_encodeWithin_le {answer : Message} (hone : answer.questions.length ≤ 1)
    (hfits : ∀ q ∈ answer.questions, q.name.Fits) {limit : Nat} (hlimit : minDatagram ≤ limit)
    {bytes : List UInt8} (h : answer.encodeWithin limit = .ok bytes) : bytes.length ≤ limit := by
  unfold Message.encodeWithin at h
  split at h
  case h_1 => cases h
  case h_2 full hfull =>
    split at h
    case isTrue hle =>
      cases h
      exact hle
    case isFalse =>
      have hbare := answer.isBare_shortened
      exact Nat.le_trans (hbare.length_encode_le_min hone hfits h) hlimit

/-- The short form of a message with nothing but questions is no shorter. -/
theorem Message.IsBare.length_encodeWithin {m : Message} (hm : m.IsBare) (limit : Nat)
    {full : List UInt8} (hfull : m.encode = .ok full) :
    ∃ bytes, m.encodeWithin limit = .ok bytes ∧ bytes.length = full.length := by
  unfold Message.encodeWithin
  simp only [hfull]
  split
  case isTrue => exact ⟨full, rfl, rfl⟩
  case isFalse => exact hm.length_encode m.isBare_shortened rfl hfull

theorem length_malformedReply {bytes reply : List UInt8} (h : malformedReply bytes = some reply) :
    reply.length ≤ minDatagram := by
  unfold malformedReply at h
  split at h
  case h_2 => cases h
  case h_1 high low rest =>
    have hbare : Message.IsBare { Message.empty with
        id := (high.toUInt16 <<< 8) ||| low.toUInt16, response := true, rcode := .formErr } :=
      ⟨rfl, rfl, rfl, rfl⟩
    refine hbare.length_encode_le_min (Nat.zero_le 1) (by simp [Message.empty]) ?_
    exact eq_ok_of_toOption h

end DohRelay.Dns

namespace DohRelay.Service

open Cache (CallerId)
open Dns (limitFor)

/-- The reply to a query with one question at most fits. -/
theorem length_replyBytes_le {query answer : Dns.Message} (hquery : query.Legible)
    (hone : query.questions.length ≤ 1) (hquestions : answer.questions = query.questions)
    {reply : List UInt8} (h : State.replyBytes .datagram query answer = some reply) :
    reply.length ≤ query.datagramLimit := by
  unfold State.replyBytes at h
  split at h
  case h_1 bytes hbytes =>
    cases h
    exact Dns.length_encodeWithin_le (hquestions ▸ hone) (hquestions ▸ hquery.questions)
      query.minDatagram_le_datagramLimit hbytes
  case h_2 =>
    have hbare : query.servFailFor.IsBare := Dns.Message.isBare_replyTo query .servFail
    exact Nat.le_trans (hbare.length_encode_le_min hone hquery.questions
      (eq_ok_of_toOption h)) query.minDatagram_le_datagramLimit

/-- The reply that a query could not be answered is as long as it is in full. -/
theorem length_replyBytes_servFail (carrier : Carrier) {query : Dns.Message} {full : List UInt8}
    (hfull : query.servFailFor.encode = .ok full) :
    ∃ reply, State.replyBytes carrier query query.servFailFor = some reply ∧
      reply.length = full.length := by
  have hbare : query.servFailFor.IsBare := Dns.Message.isBare_replyTo query .servFail
  obtain ⟨bytes, hbytes, hlength⟩ := hbare.length_encodeWithin (carrier.limit query) hfull
  exact ⟨bytes, by rw [State.replyBytes, hbytes], hlength⟩

/-- There is such a reply only if it has octets. -/
theorem exists_of_replyBytes_servFail {carrier : Carrier} {query : Dns.Message}
    {reply : List UInt8} (h : State.replyBytes carrier query query.servFailFor = some reply) :
    ∃ full, query.servFailFor.encode = .ok full := by
  cases hfull : query.servFailFor.encode with
  | ok full => exact ⟨full, rfl⟩
  | error fault =>
    rw [State.replyBytes, Dns.Message.encodeWithin, hfull] at h
    cases h

theorem Verdict.questions_eq {config : Config} {P : Dns.Message → Prop}
    {query answer : Dns.Message} {resolution : Resolution}
    (h : Verdict config P query answer resolution) : answer.questions = query.questions := by
  cases h <;> rfl

/-- A query with several questions is not answered. -/
theorem Verdict.eq_servFailFor {config : Config} {P : Dns.Message → Prop}
    {query answer : Dns.Message} {resolution : Resolution}
    (h : Verdict config P query answer resolution) (hmany : 2 ≤ query.questions.length) :
    answer = query.servFailFor := by
  have hnone (question : Dns.Question) : query.question ≠ .ok question := by
    intro hquestion
    unfold Dns.Message.question at hquestion
    split at hquestion
    case h_1 hone => simp [hone] at hmany
    all_goals cases hquestion
  cases h with
  | failed => rfl
  | synthesized hquestion => exact absurd hquestion (hnone _)
  | answered _ admitted => exact absurd admitted.single (hnone _)

/-- **A reply in a datagram is too long just when the questions of the query alone are.**  It is
longer than the largest payload that the query offers, or than 512 octets if it offers none or is no
query, only if there are several questions which, written behind a header, are longer than that; and
then it always is. -/
theorem datagram_too_long_iff {config : Config} {fetchTimeout : Nat} {moves : List Move} {s : State}
    (h : Run config fetchTimeout moves s) {id : CallerId} {bytes : List UInt8}
    (hin : HandedIn moves id (.octets .datagram bytes)) {c : Client}
    (hc : s.clients.find? id = some c) {reply : List UInt8} {resolution : Resolution}
    (hreplied : c.stage = .replied (some reply) resolution) :
    limitFor bytes < reply.length ↔
      ∃ query full, Dns.Message.decode bytes = .ok query ∧ 2 ≤ query.questions.length ∧
        query.servFailFor.encode = .ok full ∧ limitFor bytes < full.length := by
  obtain ⟨-, hstory⟩ := h.story hin hc
  rw [hreplied] at hstory
  generalize hsome : some reply = outcome at hstory
  cases hstory with
  | malformed hinput =>
    have hinput : Dns.Message.decode bytes = _ := hinput
    have hlimit : limitFor bytes = Dns.minDatagram := by rw [limitFor, hinput]
    have hlength := Dns.length_malformedReply hsome.symm
    rw [hlimit, hinput]
    constructor
    · intro hlong
      omega
    · rintro ⟨query, full, hquery, -⟩
      cases hquery
  | @replied query answer _ carrier hinput hcarrier verdict =>
    have hinput : Dns.Message.decode bytes = _ := hinput
    have hlimit : limitFor bytes = query.datagramLimit := by rw [limitFor, hinput]
    obtain rfl : Carrier.datagram = carrier := Option.some.inj hcarrier
    rw [hlimit, hinput]
    by_cases hmany : 2 ≤ query.questions.length
    · -- several questions are not answered, and the short form of such a reply is no shorter
      rw [verdict.eq_servFailFor hmany] at hsome
      obtain ⟨full, hfull⟩ := exists_of_replyBytes_servFail hsome.symm
      obtain ⟨bytes', hbytes, hlength⟩ := length_replyBytes_servFail .datagram hfull
      obtain rfl : reply = bytes' := Option.some.inj (hsome.trans hbytes)
      constructor
      · intro hlong
        exact ⟨query, full, rfl, hmany, hfull, hlength ▸ hlong⟩
      · rintro ⟨query', full', hquery, -, hfull', hlong⟩
        obtain rfl : query = query' := Except.ok.inj hquery
        obtain rfl : full = full' := Except.ok.inj (hfull.symm.trans hfull')
        exact hlength ▸ hlong
    · -- one question at most fits, in whatever form the reply is given
      have hlegible := Dns.Message.legible_of_decode hinput
      have hlength := length_replyBytes_le hlegible (by omega) verdict.questions_eq hsome.symm
      constructor
      · intro hlong
        omega
      · rintro ⟨query', full', hquery, hmany', -⟩
        obtain rfl : query = query' := Except.ok.inj hquery
        exact absurd hmany' hmany

/-- A client asks about the root a hundred and one times in one datagram, and has a reply. -/
theorem exists_reply_crowd : ∃ moves s reply,
    Run .default 5000 moves s ∧ HandedIn moves 0 (.octets .datagram (Dns.crowdBytes 101)) ∧
      s.clients.find? 0 = some ⟨some .datagram, 0, .replied (some reply) .failed⟩ ∧
      reply.length = 517 := by
  obtain ⟨full, hfull, hlength⟩ := Dns.length_encode_crowd (n := 101) (by decide)
  obtain ⟨reply, hreply, hlength'⟩ := length_replyBytes_servFail .datagram hfull
  have hplay : ∃ s, (State.start .default 5000).play
      [.arrive 0 .datagram (Dns.crowdBytes 101), .reply 0] = some s ∧
      s.clients.find? 0 = some ⟨some .datagram, 0, .replied (some reply) .failed⟩ := by
    rw [← hreply]
    simp only [State.play, State.step, State.arrive, Dns.decode_crowdBytes (n := 101) (by decide)]
    exact ⟨_, rfl, rfl⟩
  obtain ⟨s, hs, hc⟩ := hplay
  obtain ⟨moves, hrun, hmap⟩ := Run.of_play hs
  have hin : HandedIn moves 0 (.octets .datagram (Dns.crowdBytes 101)) :=
    .of_play hmap List.mem_cons_self rfl
  exact ⟨moves, s, reply, hrun, hin, hc, by rw [hlength', hlength]; rfl⟩

theorem limitFor_crowdBytes : limitFor (Dns.crowdBytes 101) = 512 := by
  rw [limitFor, Dns.decode_crowdBytes (by decide)]
  rfl

/-- The questions of this query alone are too long, since the reply is. -/
theorem datagram_too_long_iff_crowd : ∃ moves s reply,
    Run .default 5000 moves s ∧ HandedIn moves 0 (.octets .datagram (Dns.crowdBytes 101)) ∧
      s.clients.find? 0 = some ⟨some .datagram, 0, .replied (some reply) .failed⟩ ∧
      ∃ query full, Dns.Message.decode (Dns.crowdBytes 101) = .ok query ∧
        2 ≤ query.questions.length ∧ query.servFailFor.encode = .ok full ∧
        limitFor (Dns.crowdBytes 101) < full.length := by
  obtain ⟨moves, s, reply, hrun, hin, hc, hlength⟩ := exists_reply_crowd
  refine ⟨moves, s, reply, hrun, hin, hc, (datagram_too_long_iff hrun hin hc rfl).mp ?_⟩
  rw [limitFor_crowdBytes, hlength]
  decide

/-- **A reply in a datagram may be too long**: one of 517 octets goes to a client who offers no
payload, and so takes 512. -/
theorem datagram_too_long_crowd : ∃ moves s c reply resolution,
    Run .default 5000 moves s ∧ HandedIn moves 0 (.octets .datagram (Dns.crowdBytes 101)) ∧
      s.clients.find? 0 = some c ∧ c.stage = .replied (some reply) resolution ∧
      limitFor (Dns.crowdBytes 101) = 512 ∧ reply.length = 517 := by
  obtain ⟨moves, s, reply, hrun, hin, hc, hlength⟩ := exists_reply_crowd
  exact ⟨moves, s, _, reply, _, hrun, hin, hc, rfl, limitFor_crowdBytes, hlength⟩

end DohRelay.Service
