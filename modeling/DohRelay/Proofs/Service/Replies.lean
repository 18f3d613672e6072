import DohRelay.Proofs.Dns.Whole
import DohRelay.Proofs.Exchange.Assembly
import DohRelay.Proofs.Service.Belonging
import DohRelay.Proofs.Service.DatagramBound
import DohRelay.Proofs.Service.Progress
import DohRelay.Proofs.Service.Received

/-!
# Messages are answered

Whoever hands in octets that begin with an id can get a reply in time, whatever becomes of the
query, and the reply begins with the same id and can be read as a response.  There are two
exceptions, and both are about names.  A query may be read whose questions, in a reply, have no
room: pointers keep it short, but a name is written only where there is room for it in full.  And a
document may have a name that is one octet too long to be read, but not too long to be written with
a pointer.  Besides, a client may die of the request for its query, and then there is nobody to get
a reply.

## Main definitions

* `IsResponse` — octets that can be read as a response.
* `Unrepeatable` — octets that are a query whose questions have no room in a reply.
* `Overlong` — a reply made of a document with a name that does not fit.

## Main results

* `Dns.malformedReply_eq_none_iff`, `State.replyBytes_eq_none_iff` — when there is no reply.
* `reply_of_replyBytes` — a reply begins with the id of the query, and can be read.
* `messages_are_answered` — **every client can get a reply in time, unless it may die, and it is a
  response with the id of the query, unless its questions have no room.**
* `exists_run_dying` — a client who dies.
* `messages_are_answered_pointed` — a query that gets no reply.
-/

namespace DohRelay

namespace Dns

open Reader Writer

/-! ### Ids -/

/-- Two octets are those of the number they make. -/
theorem bytes16_join (a b : UInt8) : bytes16 ((a.toUInt16 <<< 8) ||| b.toUInt16) = [a, b] := by
  have hhigh : (((a.toUInt16 <<< 8) ||| b.toUInt16) >>> 8).toUInt8 = a := by
    apply UInt8.eq_of_toBitVec_eq
    ext i hi
    have hbound : 8 + i < 16 ∧ ¬ 8 + i < 8 ∧ i < 16 := by omega
    simp [hbound, BitVec.getLsbD_eq_getElem hi]
  have hlow : ((a.toUInt16 <<< 8) ||| b.toUInt16).toUInt8 = b := by
    apply UInt8.eq_of_toBitVec_eq
    ext i hi
    simp
  rw [bytes16, hhigh, hlow]

/-- The octets of a message begin with its id. -/
theorem Message.take_of_encode {m : Message} {bytes : List UInt8} (h : m.encode = .ok bytes) :
    bytes.take 2 = bytes16 m.id := by
  obtain ⟨a, n, d, body, -, -, rfl⟩ := encode_eq_ok h
  rfl

/-- The octets of a number stand where it is read. -/
theorem word16_eq_ok {message : Array UInt8} {p p' : Nat} {n : UInt16}
    (h : word16 message p = .ok n p') : (message.extract p (p + 2)).toList = bytes16 n := by
  obtain ⟨bytes, q, hbytes, h⟩ := Reader.bind_eq_ok h
  unfold octets at hbytes
  split at hbytes
  case isFalse => cases hbytes
  case isTrue =>
    injection hbytes with hbytes
    split at h
    case h_2 => cases h
    case h_1 a b =>
      cases h
      rw [hbytes, bytes16_join]

/-- Octets that are read as a message begin with its id. -/
theorem Message.take_of_decode {m : Message} {bytes : List UInt8} (h : decode bytes = .ok m) :
    bytes.take 2 = bytes16 m.id := by
  unfold decode Reader.run at h
  split at h
  case h_2 => cases h
  case h_1 _ p hread =>
    cases h
    obtain ⟨header, q, hheader, hread⟩ := Reader.bind_eq_ok hread
    have hid : m.id = header.id := by
      obtain ⟨_, _, -, hread⟩ := Reader.bind_eq_ok hread
      obtain ⟨_, _, -, hread⟩ := Reader.bind_eq_ok hread
      obtain ⟨_, _, -, hread⟩ := Reader.bind_eq_ok hread
      obtain ⟨_, _, -, hread⟩ := Reader.bind_eq_ok hread
      obtain ⟨_, _, -, hread⟩ := Reader.bind_eq_ok hread
      obtain ⟨_, _, -, hread⟩ := Reader.bind_eq_ok hread
      obtain ⟨_, _, -, hread⟩ := Reader.bind_eq_ok hread
      obtain ⟨⟨_, _⟩, _, -, hread⟩ := Reader.bind_eq_ok hread
      cases hread
      rfl
    obtain ⟨id, _, hword, hheader⟩ := Reader.bind_eq_ok hheader
    obtain ⟨high, _, -, hheader⟩ := Reader.bind_eq_ok hheader
    have hheader : header.id = id := by
      cases hopcode : Opcode.ofCode? ((high >>> 3) &&& 0xf) with
      | none =>
        rw [hopcode] at hheader
        cases hheader
      | some opcode =>
        rw [hopcode] at hheader
        obtain ⟨low, _, -, hheader⟩ := Reader.bind_eq_ok hheader
        cases hheader
        rfl
    have hextract := word16_eq_ok hword
    rw [hid, hheader, ← hextract]
    simp

/-! ### Responses -/

/-- Octets can be read as a response. -/
def IsResponse (bytes : List UInt8) : Prop :=
  ∃ m, Message.decode bytes = .ok m ∧ m.response = true

/-- The octets of a readable response can be read as one. -/
theorem Message.Readable.isResponse {m : Message} (h : m.Readable)
    (hfits : ∀ q ∈ m.questions, q.name.Fits) (hresponse : m.response = true) {bytes : List UInt8}
    (hwritten : m.encode = .ok bytes) : IsResponse bytes := by
  obtain ⟨m', hm'⟩ := h.exists_decode hfits hwritten
  exact ⟨m', hm', (kept_of_decode h.plain hwritten hm').response.trans hresponse⟩

/-- The message that says some octets are no query. -/
def malformed (a b : UInt8) : Message :=
  { Message.empty with
    id := (a.toUInt16 <<< 8) ||| b.toUInt16
    response := true
    rcode := .formErr }

theorem isBare_malformed (a b : UInt8) : (malformed a b).IsBare :=
  ⟨rfl, rfl, rfl, rfl⟩

/-- There is no reply to what is no query only where there is no id. -/
theorem malformedReply_eq_none_iff {bytes : List UInt8} :
    malformedReply bytes = none ↔ bytes.length < 2 := by
  match bytes with
  | [] | [_] => exact iff_of_true rfl (by simp)
  | a :: b :: rest =>
    refine iff_of_false ?_ (by simp)
    obtain ⟨octets, hoctets⟩ := (isBare_malformed a b).exists_encode nofun (Nat.zero_le _)
    change (malformed a b).encode.toOption ≠ none
    rw [hoctets]
    nofun

/-- Such a reply is a response with the id. -/
theorem isResponse_of_malformedReply {bytes reply : List UInt8}
    (h : malformedReply bytes = some reply) : reply.take 2 = bytes.take 2 ∧ IsResponse reply := by
  match bytes with
  | [] | [_] => cases h
  | a :: b :: rest =>
    have hwritten : (malformed a b).encode = .ok reply := eq_ok_of_toOption h
    refine ⟨?_, (isBare_malformed a b).readable.isResponse nofun rfl hwritten⟩
    rw [Message.take_of_encode hwritten]
    exact bytes16_join a b

end Dns

namespace Service

open Cache (CallerId)
open Dns (IsResponse)

/-! ### Replies to queries -/

/-- Octets are a query whose questions, which are many, have no room in a reply. -/
def Unrepeatable (bytes : List UInt8) : Prop :=
  ∃ query fault, Dns.Message.decode bytes = .ok query ∧ 252 < query.questions.length ∧
    query.servFailFor.encode = .error fault

/-- A reply is made of a document of the endpoint with a name that does not fit. -/
def Overlong (config : Config) (moves : List Move) (reply : List UInt8) : Prop :=
  config.convention = .json ∧ ∃ message other query, Sent config moves message ∧
    ¬ message.NamesFit ∧ ((message.answering other).answering query).encode = .ok reply

/-- Where the questions of a query are written in one message, they are in another. -/
theorem exists_encode_servFailFor {query answer : Dns.Message}
    (hquestions : answer.questions = query.questions) {bytes : List UInt8}
    (h : answer.encode = .ok bytes) : ∃ others, query.servFailFor.encode = .ok others := by
  obtain ⟨octets, hoctets⟩ := Dns.Message.exists_encode_shortened h
  obtain ⟨others, hothers, -⟩ := answer.isBare_shortened.length_encode
    (Dns.Message.isBare_replyTo query .servFail) hquestions.symm hoctets
  exact ⟨others, hothers⟩

/-- **There is no reply only where a query cannot even be refused.** -/
theorem State.replyBytes_eq_none_iff {carrier : Carrier} {query answer : Dns.Message}
    (hquestions : answer.questions = query.questions) :
    replyBytes carrier query answer = none ↔ ∃ fault, query.servFailFor.encode = .error fault := by
  unfold replyBytes
  constructor
  · intro hnone
    cases hrefusal : query.servFailFor.encode with
    | error fault => exact ⟨fault, rfl⟩
    | ok bytes =>
      rw [hrefusal] at hnone
      split at hnone <;> cases hnone
  · rintro ⟨fault, hrefusal⟩
    cases hanswer : answer.encode with
    | error fault' =>
      rw [Dns.Message.encodeWithin_of_error hanswer, hrefusal]
      rfl
    | ok bytes =>
      obtain ⟨others, hothers⟩ := exists_encode_servFailFor hquestions hanswer
      rw [hrefusal] at hothers
      cases hothers

/-- What a query is answered with can be read, unless it is made of a document with a name that does
not fit. -/
theorem Verdict.readable {config : Config} {moves : List Move} {query answer : Dns.Message}
    {resolution : Resolution} (h : Verdict config (Obtained config moves) query answer resolution) :
    answer.Readable ∨ config.convention = .json ∧ ∃ message other, Sent config moves message ∧
      ¬ message.NamesFit ∧ answer = (message.answering other).answering query := by
  cases h with
  | failed | synthesized => exact .inl (Dns.Message.isBare_replyTo query _).readable
  | answered _ _ hanswer =>
    obtain ⟨message, other, hsent, rfl⟩ := hanswer
    by_cases hfits : config.convention = .json → message.NamesFit
    case pos =>
      obtain ⟨m, hm, id, response, question, hevent, hsuccess, hread⟩ := hsent
      exact .inl (((Inquiry.readable_of_readAnswer hread hfits).answering other).answering query)
    case neg =>
      obtain ⟨hjson, hlong⟩ := Classical.not_imp.mp hfits
      exact .inr ⟨hjson, message, other, hsent, hlong, rfl⟩

/-- **A reply to a query begins with its id, and can be read as a response**, unless it is made of a
document with a name that does not fit. -/
theorem reply_of_replyBytes {config : Config} {moves : List Move} {carrier : Carrier}
    {bytes reply : List UInt8} {query answer : Dns.Message} {resolution : Resolution}
    (hinput : Dns.Message.decode bytes = .ok query)
    (verdict : Verdict config (Obtained config moves) query answer resolution)
    (h : State.replyBytes carrier query answer = some reply) :
    reply.take 2 = bytes.take 2 ∧ (IsResponse reply ∨ Overlong config moves reply) := by
  have hfits := (Dns.Message.legible_of_decode hinput).questions
  have hbelongs := verdict.belongs
  rw [Dns.Message.take_of_decode hinput]
  rcases State.replyBytes_eq_some h with hfull | hshort | hfailed
  · rw [Dns.Message.take_of_encode hfull, hbelongs.id]
    refine ⟨rfl, ?_⟩
    rcases verdict.readable with hreadable | ⟨hjson, message, other, hsent, hlong, hanswer⟩
    · exact .inl (hreadable.isResponse (hbelongs.questions.symm ▸ hfits) hbelongs.response hfull)
    · exact .inr ⟨hjson, message, other, query, hsent, hlong, hanswer ▸ hfull⟩
  · rw [Dns.Message.take_of_encode hshort, hbelongs.shortened.id]
    exact ⟨rfl, .inl (answer.isBare_shortened.readable.isResponse
      (hbelongs.shortened.questions.symm ▸ hfits) rfl hshort)⟩
  · rw [Dns.Message.take_of_encode hfailed]
    exact ⟨rfl, .inl ((Dns.Message.isBare_replyTo query .servFail).readable.isResponse hfits rfl
      hfailed)⟩

/-! ### Clients -/

/-- **Every client who stays can get a reply in time, and the reply is a response with the id of
what was handed in.**  Only a client who may die of the request for its query need not get one.
There is no reply just where the octets handed in are too few for an id, or are a query of more than
252 questions that have no room in a reply; and a reply can be read unless it is made of a document
of the endpoint with a name that does not fit. -/
theorem messages_are_answered {config : Config} {fetchTimeout : Nat} {moves : List Move} {s : State}
    (h : Run config fetchTimeout moves s) {id : CallerId} {carrier : Carrier} {bytes : List UInt8}
    (hin : HandedIn moves id (.octets carrier bytes)) {c : Client}
    (hc : s.clients.find? id = some c) (hstays : c.stage ≠ .gone) :
    (¬ Endangered config c → s.CanReply id (s.now + config.queryTimeout)) ∧
      ∀ outcome resolution, c.stage = .replied outcome resolution →
        (outcome = none ↔ bytes.length < 2 ∨ Unrepeatable bytes) ∧
        ∀ reply, outcome = some reply → reply.take 2 = bytes.take 2 ∧
          (IsResponse reply ∨ Overlong config moves reply) := by
  obtain ⟨hcarrier, hstory⟩ := h.story hin hc
  constructor
  case left =>
    have henabled : s.cache.enabled = s.config.cache := by rw [h.enabled_eq, h.config_eq]
    rw [← h.config_eq]
    refine (Live.of_run h).canReply hc hcarrier hstays (fun answer resolution htold => ?_) henabled
    -- only who hands in no octets gets no octets
    rw [htold] at hstory
    cases hstory with
    | told _ hnone => cases hnone
  case right =>
    intro outcome resolution hreplied
    rw [hreplied] at hstory
    cases hstory with
    | malformed hinput =>
      have hinput : Dns.Message.decode bytes = _ := hinput
      refine ⟨Dns.malformedReply_eq_none_iff.trans ⟨.inl, ?_⟩, fun reply hreply => ?_⟩
      · rintro (hshort | ⟨query, fault, hquery, -⟩)
        · exact hshort
        · rw [hinput] at hquery
          cases hquery
      · obtain ⟨hid, hresponse⟩ := Dns.isResponse_of_malformedReply hreply
        exact ⟨hid, .inl hresponse⟩
    | @replied query answer _ carrier' hinput _ verdict =>
      have hinput : Dns.Message.decode bytes = _ := hinput
      refine ⟨(State.replyBytes_eq_none_iff verdict.questions_eq).trans ⟨?_, ?_⟩,
        fun reply hreply => reply_of_replyBytes hinput verdict hreply⟩
      · rintro ⟨fault, hrefusal⟩
        refine .inr ⟨query, fault, hinput, Nat.lt_of_not_le fun hfew => ?_, hrefusal⟩
        obtain ⟨octets, hoctets⟩ := (Dns.Message.isBare_replyTo query .servFail).exists_encode
          (Dns.Message.legible_of_decode hinput).questions hfew
        change query.servFailFor.encode = _ at hoctets
        rw [hrefusal] at hoctets
        cases hoctets
      · rintro (hshort | ⟨query', fault, hquery, -, hrefusal⟩)
        · -- octets that are read have an id
          have htake := congrArg List.length (Dns.Message.take_of_decode hinput)
          rw [List.length_take, Dns.Writer.length_bytes16] at htake
          omega
        · obtain rfl : query = query' := Except.ok.inj (hinput.symm.trans hquery)
          exact ⟨fault, hrefusal⟩

/-- A client waits for the cache, and the endpoint has not answered yet. -/
theorem exists_run_waiting : ∃ moves s c query question,
    Run posting 5000 moves s ∧ HandedIn moves 0 (.octets .datagram rootQuery) ∧
      s.clients.find? 0 = some c ∧ c.stage = .asking query question none 0 := by
  have hplay : ∃ s query question, (State.start posting 5000).play
      [.arrive 0 .datagram rootQuery, .ask 0, .cache (.look 0), .cache (.enter 0), .send 0] =
        some s ∧
      s.clients.find? 0 = some ⟨some .datagram, 0, .asking query question none 0⟩ := by
    simp only [State.play, State.step, State.arrive, decode_rootQuery]
    exact ⟨_, _, _, rfl, rfl⟩
  obtain ⟨s, query, question, hs, hc⟩ := hplay
  obtain ⟨moves, hrun, hmap⟩ := Run.of_play hs
  have hin : HandedIn moves 0 (.octets .datagram rootQuery) :=
    .of_play hmap List.mem_cons_self rfl
  exact ⟨moves, s, _, query, question, hrun, hin, hc, rfl⟩

/-- A client whom the endpoint never answers can get a reply, and one whom it answers has one that
is a response with the id of the query. -/
theorem messages_are_answered_rootQuery :
    (∃ moves s c query question,
      Run posting 5000 moves s ∧ HandedIn moves 0 (.octets .datagram rootQuery) ∧
        s.clients.find? 0 = some c ∧ c.stage = .asking query question none 0 ∧
        s.CanReply 0 (s.now + posting.queryTimeout)) ∧
    ∃ moves s,
      Run posting 5000 moves s ∧ HandedIn moves 0 (.octets .datagram rootQuery) ∧
        s.clients.find? 0 = some ⟨some .datagram, 0, .replied (some lostReply) .forwarded⟩ ∧
        lostReply.take 2 = rootQuery.take 2 ∧ IsResponse lostReply := by
  constructor
  case left =>
    obtain ⟨moves, s, c, query, question, hrun, hin, hc, hstage⟩ := exists_run_waiting
    have hstays : c.stage ≠ .gone := by
      rw [hstage]
      nofun
    exact ⟨moves, s, c, query, question, hrun, hin, hc, hstage,
      (messages_are_answered hrun hin hc hstays).1 fun h => absurd h.1 (by decide)⟩
  case right =>
    obtain ⟨moves, s, hrun, hin, hc, -⟩ := exists_run_badVersion
    obtain ⟨-, hreply⟩ := (messages_are_answered hrun hin hc nofun).2 _ _ rfl
    obtain ⟨hid, hresponse | ⟨hjson, -⟩⟩ := hreply lostReply rfl
    · exact ⟨moves, s, hrun, hin, hc, hid, hresponse⟩
    · cases hjson

/-- A relay with as many headers that keeps no answers. -/
def forgetful (n : Nat) : Config :=
  { Inquiry.stuffed n with cache := false }

/-- A client of such a relay may die: there is no room for the headers in the request for its query,
and since no answers are kept, the client makes the request. -/
theorem exists_run_dying {n : Nat} (hn : Http.Headers.maxNames ≤ n) : ∃ moves s c,
    Run (forgetful n) 5000 moves s ∧ HandedIn moves 0 (.octets .datagram rootQuery) ∧
      s.clients.find? 0 = some c ∧ s.isDying 0 = true ∧ ∃ s', s.step (s.deathEvent 0) = some s' ∧
      s'.clients.find? 0 = some { c with stage := .gone } := by
  let query : Dns.Message := { Dns.Message.empty with
    id := 1, recursionDesired := true, questions := [Dns.rootQuestion] }
  have hplan : Inquiry.plan (forgetful n) query none = .error .death := by
    have hquestion : query.question = .ok Dns.rootQuestion := rfl
    have hwritten : ∃ octets, (Wire.outgoing query none).encode = .ok octets :=
      ⟨_, Inquiry.encode_outgoing_crowd⟩
    have hfit : ¬ (Inquiry.defaultHeaders (forgetful n)).Fit (forgetful n).headers :=
      Inquiry.not_fit_stuffed hn
    rw [Inquiry.plan_of_question hquestion rfl,
      Inquiry.request_of_not_fit Dns.rootQuestion (fun _ => hwritten) hfit]
    rfl
  -- the client has turned to the cache, and its errand is not begun yet
  obtain ⟨s, hs, hc, herrand, hrunning, hconfig, henabled⟩ : ∃ s,
      (State.start (forgetful n) 5000).play
        [.arrive 0 .datagram rootQuery, .ask 0, .cache (.look 0)] = some s ∧
      s.clients.find? 0 = some ⟨some .datagram, 0, .asking query Dns.rootQuestion none 0⟩ ∧
      s.errands.find? 0 = some ⟨query, none, .ready⟩ ∧ s.cache.isRunning 0 = true ∧
      s.config = forgetful n ∧ s.cache.enabled = false := by
    simp only [State.play, State.step, State.arrive, decode_rootQuery]
    exact ⟨_, rfl, rfl, rfl, rfl, rfl, rfl⟩
  obtain ⟨moves, hrun, hmap⟩ := Run.of_play hs
  have hdying : s.isDying 0 = true := by
    simp only [State.isDying, State.isDoomed, henabled, herrand, hrunning, hconfig, hplan,
      Bool.not_false, Bool.and_self]
  refine ⟨moves, s, _, hrun, .of_play hmap List.mem_cons_self rfl, hc, hdying, ?_⟩
  simp only [State.deathEvent, henabled, Bool.false_eq_true, if_false, State.step, State.leave, hc,
    Stage.isOver]
  exact ⟨_, rfl, Table.find?_insert_self ..⟩

/-- A query that asks about one name so often that the last question leaves no room for it in full
gets no reply. -/
theorem exists_run_pointed {n : Nat} (hcount : n + 2 < UInt16.size)
    (hfull : Dns.Writer.limit < 29 + 6 * (n + 1)) : ∃ moves s,
    Run .default 5000 moves s ∧
      HandedIn moves 0 (.octets .connection (Dns.pointedBytes (n + 1))) ∧
      s.clients.find? 0 = some ⟨some .connection, 0, .replied none .failed⟩ := by
  have hquestions : (Dns.pointed (n + 1)).servFailFor.questions = (Dns.pointed (n + 1)).questions :=
    rfl
  have hnone : State.replyBytes .connection (Dns.pointed (n + 1))
      (Dns.pointed (n + 1)).servFailFor = none :=
    (State.replyBytes_eq_none_iff hquestions).mpr (Dns.exists_error_encode_pointed hfull)
  have hplay : ∃ s, (State.start .default 5000).play
      [.arrive 0 .connection (Dns.pointedBytes (n + 1)), .reply 0] = some s ∧
      s.clients.find? 0 = some ⟨some .connection, 0, .replied none .failed⟩ := by
    rw [← hnone]
    simp only [State.play, State.step, State.arrive, Dns.decode_pointedBytes hcount]
    exact ⟨_, rfl, rfl⟩
  obtain ⟨s, hs, hc⟩ := hplay
  obtain ⟨moves, hrun, hmap⟩ := Run.of_play hs
  have hin : HandedIn moves 0 (.octets .connection (Dns.pointedBytes (n + 1))) :=
    .of_play hmap List.mem_cons_self rfl
  exact ⟨moves, s, hrun, hin, hc⟩

/-- **A query may get no reply**: one of 65534 octets that begin with an id, and that can be read,
asks 10919 times about one name, and can neither be answered nor refused. -/
theorem messages_are_answered_pointed : ∃ moves s,
    Run .default 5000 moves s ∧
      HandedIn moves 0 (.octets .connection (Dns.pointedBytes 10918)) ∧
      (Dns.pointedBytes 10918).length = 65534 ∧
      Dns.Message.decode (Dns.pointedBytes 10918) = .ok (Dns.pointed 10918) ∧
      s.clients.find? 0 = some ⟨some .connection, 0, .replied none .failed⟩ := by
  have hcount : 10917 + 2 < UInt16.size := by decide
  obtain ⟨moves, s, hrun, hin, hc⟩ := exists_run_pointed hcount (by decide)
  exact ⟨moves, s, hrun, hin, Dns.length_pointedBytes 10918, Dns.decode_pointedBytes hcount, hc⟩

end Service

end DohRelay
