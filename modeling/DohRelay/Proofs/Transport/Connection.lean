import DohRelay.Proofs.Service.Completeness
import DohRelay.Proofs.Service.ResponseCode
import DohRelay.Proofs.Transport.Framing
import DohRelay.Transport.Connection

/-!
# Connections are answered in order

The octets of a connection carry messages, each behind its length, and arrive in any pieces and at
any times.  As long as none keeps the reader waiting too long, the server is given each message that
is long enough for a header, once and in order, and the octets that are sent back carry its replies
in the same order.  Shorter messages are passed over, and what follows them is read where it begins.

## Main definitions

* `Connection.InTime` — no octet keeps the reader waiting too long.
* `Connection.Exchanges` — a server is given messages, one after the other, and replies.
* `Connection.IsService` — a server gives the replies that the service gives.

## Main results

* `Connection.exchanges_of_readMessage` — what one message adds to a connection.
* `Connection.exchanges_of_serveFrom` — a server whose replies are not too long is given the
  messages in order, and its replies are sent back.
* `Connection.connections_are_answered_in_order` — **so it is with the service.**
-/

namespace DohRelay

namespace Connection

open Framing (readyAt)
open Service (Event Run State posting rootQuery)

variable {σ : Type} {server : Server σ} {idle : Nat}

/-- No octet keeps the reader waiting too long.  The octets of each message are waited for from when
the one before it was answered, and those behind its length from when that was read. -/
def InTime (server : Server σ) (idle : Nat) :
    σ → Nat → List (Nat × UInt8) → List (List UInt8) → Prop
  | _, _, _, [] => True
  | s, now, arrivals, message :: messages =>
    let begun := readyAt now (arrivals.take 2)
    let read := readyAt begun ((arrivals.drop 2).take message.length)
    let behind := (arrivals.drop 2).drop message.length
    begun ≤ now + idle ∧ read ≤ begun + idle ∧
      if message.length < headerLength then InTime server idle s read behind messages
      else
        InTime server idle (server s message read).2.2 (server s message read).2.1 behind messages

instance decidableInTime (server : Server σ) (idle : Nat) :
    ∀ (s : σ) (now : Nat) (arrivals : List (Nat × UInt8)) (messages : List (List UInt8)),
      Decidable (InTime server idle s now arrivals messages)
  | _, _, _, [] => .isTrue trivial
  | s, now, arrivals, message :: messages =>
    let begun := readyAt now (arrivals.take 2)
    let read := readyAt begun ((arrivals.drop 2).take message.length)
    let behind := (arrivals.drop 2).drop message.length
    have := decidableInTime server idle s read behind messages
    have := decidableInTime server idle (server s message read).2.2 (server s message read).2.1
      behind messages
    decidable_of_iff (begun ≤ now + idle ∧ read ≤ begun + idle ∧
      if message.length < headerLength then InTime server idle s read behind messages
      else InTime server idle (server s message read).2.2 (server s message read).2.1 behind
        messages) Iff.rfl

/-- A server is given messages, one after the other, and replies to them or not. -/
inductive Exchanges (server : Server σ) :
    σ → Nat → List (List UInt8 × Option (List UInt8)) → σ → Prop
  /-- There is nothing more. -/
  | nil (s : σ) (now : Nat) : Exchanges server s now [] s
  /-- A message is given to the server when that is done with those before. -/
  | cons {s s' t : σ} {now time later : Nat} {message : List UInt8} {reply : Option (List UInt8)}
      {exchanges : List (List UInt8 × Option (List UInt8))} (hnow : now ≤ time)
      (hserver : server s message time = (reply, later, s'))
      (rest : Exchanges server s' later exchanges t) :
      Exchanges server s now ((message, reply) :: exchanges) t

/-- What a transcript says of a connection: which messages the server was given, in what order, and
that its replies were sent back. -/
structure Tells (server : Server σ) (s : σ) (now : Nat) (messages : List (List UInt8))
    (t : Transcript σ) (exchanges : List (List UInt8 × Option (List UInt8))) : Prop where
  /-- The server was given the messages that are long enough. -/
  messages : exchanges.map Prod.fst = messages.filter (headerLength ≤ ·.length)
  /-- This is in the transcript. -/
  handled : t.handled = exchanges.map Prod.fst
  /-- It was given them one after the other. -/
  oneByOne : Exchanges server s now exchanges t.server
  /-- The octets that were sent back carry the replies. -/
  written : Framing.Carry (exchanges.filterMap Prod.snd) t.written

theorem Exchanges.mono {s t : σ} {now earlier : Nat}
    {exchanges : List (List UInt8 × Option (List UInt8))} (h : Exchanges server s now exchanges t)
    (hle : earlier ≤ now) : Exchanges server s earlier exchanges t := by
  cases h with
  | nil => exact .nil _ _
  | cons hnow hserver rest => exact .cons (Nat.le_trans hle hnow) hserver rest

namespace Tells

variable {s s' : σ} {now read later : Nat} {message : List UInt8} {messages : List (List UInt8)}
  {t : Transcript σ} {exchanges : List (List UInt8 × Option (List UInt8))}

/-- A message that is too short is passed over. -/
theorem skip (h : Tells server s read messages t exchanges) (hnow : now ≤ read)
    (hshort : message.length < headerLength) :
    Tells server s now (message :: messages) t exchanges where
  messages := by
    rw [h.messages, List.filter_cons_of_neg]
    exact fun hle => Nat.not_le_of_lt hshort (of_decide_eq_true hle)
  handled := h.handled
  oneByOne := h.oneByOne.mono hnow
  written := h.written

/-- The server is given a message first, and gives no reply. -/
theorem silent (h : Tells server s' later messages t exchanges) (hnow : now ≤ read)
    (hlong : ¬ message.length < headerLength)
    (hserver : server s message read = (none, later, s')) :
    Tells server s now (message :: messages) (t.after message [])
      ((message, none) :: exchanges) where
  messages := by
    rw [List.filter_cons_of_pos, List.map_cons, h.messages]
    exact decide_eq_true (Nat.le_of_not_lt hlong)
  handled := congrArg (message :: ·) h.handled
  oneByOne := .cons hnow hserver h.oneByOne
  written := h.written

/-- The server is given a message first, and its reply is sent back. -/
theorem reply (h : Tells server s' later messages t exchanges) (hnow : now ≤ read)
    (hlong : ¬ message.length < headerLength) {reply framed : List UInt8}
    (hserver : server s message read = (some reply, later, s'))
    (hframe : Framing.frame reply = some framed) :
    Tells server s now (message :: messages) (t.after message framed)
      ((message, some reply) :: exchanges) where
  messages := by
    rw [List.filter_cons_of_pos, List.map_cons, h.messages]
    exact decide_eq_true (Nat.le_of_not_lt hlong)
  handled := congrArg (message :: ·) h.handled
  oneByOne := .cons hnow hserver h.oneByOne
  written := .cons hframe h.written

end Tells

/-- What happens on a connection from a message on: it is passed over or given to the server, and
the rest goes on from there. -/
theorem exchanges_of_readMessage
    (hshort : ∀ s message now reply, (server s message now).1 = some reply →
      reply.length ≤ Framing.maxLength)
    {message : List UInt8} {messages : List (List UInt8)} {stream behind : Framing.Stream} {s : σ}
    {now read fuel : Nat} (hnow : now ≤ read)
    (hread : Framing.readMessage stream now idle = (.message message, read, behind))
    (hskipped : message.length < headerLength →
      ∃ exchanges,
        Tells server s read messages (serveFrom server idle s behind read fuel) exchanges)
    (hgiven : ¬ message.length < headerLength → ∀ reply later s',
      server s message read = (reply, later, s') → ∃ exchanges,
        Tells server s' later messages (serveFrom server idle s' behind later fuel) exchanges) :
    ∃ exchanges, Tells server s now (message :: messages)
      (serveFrom server idle s stream now (fuel + 1)) exchanges := by
  rw [serveFrom, hread]
  dsimp only
  by_cases hlength : message.length < headerLength
  · rw [if_pos hlength]
    obtain ⟨exchanges, h⟩ := hskipped hlength
    exact ⟨exchanges, h.skip hnow hlength⟩
  · rw [if_neg hlength]
    have hreply := hshort s message read
    rcases hserver : server s message read with ⟨reply, later, s'⟩
    rw [hserver] at hreply
    obtain ⟨exchanges, h⟩ := hgiven hlength reply later s' hserver
    cases reply with
    | none => exact ⟨_, h.silent hnow hlength hserver⟩
    | some reply =>
      have hframe : Framing.frame reply =
          some (Framing.lengthOctets reply.length ++ reply) := if_pos (hreply reply rfl)
      dsimp only
      rw [hframe]
      exact ⟨_, h.reply hnow hlength hserver hframe⟩

/-- **A server whose replies are not too long is given the messages in order, and its replies are
sent back.** -/
theorem exchanges_of_serveFrom
    (hshort : ∀ s message now reply, (server s message now).1 = some reply →
      reply.length ≤ Framing.maxLength)
    {messages : List (List UInt8)} {stream : Framing.Stream}
    (hcarry : Framing.Carry messages (stream.arrivals.map Prod.snd)) {s : σ} {now : Nat}
    (hintime : InTime server idle s now stream.arrivals messages) {fuel : Nat}
    (hfuel : messages.length < fuel) :
    ∃ exchanges, Tells server s now messages (serveFrom server idle s stream now fuel)
      exchanges := by
  induction messages generalizing stream s now fuel with
  | nil =>
    obtain ⟨fuel, rfl⟩ := Nat.exists_eq_add_one_of_ne_zero (Nat.ne_of_gt hfuel)
    have harrivals : stream.arrivals = [] := by
      generalize hoctets : stream.arrivals.map Prod.snd = octets at hcarry
      cases hcarry with
      | nil => exact List.map_eq_nil_iff.mp hoctets
    obtain ⟨time, hread⟩ := Framing.readMessage_of_nil harrivals now idle
    refine ⟨[], ?_⟩
    rw [serveFrom, hread]
    exact ⟨rfl, rfl, .nil s now, .nil⟩
  | cons message messages ih =>
    obtain ⟨fuel, rfl⟩ := Nat.exists_eq_add_one_of_ne_zero (Nat.ne_of_gt (Nat.zero_lt_of_lt hfuel))
    have hfuel : messages.length < fuel := Nat.lt_of_succ_lt_succ hfuel
    obtain ⟨hbegun, hread, hrest⟩ := hintime
    generalize hoctets : stream.arrivals.map Prod.snd = octets at hcarry
    cases hcarry with
    | @cons _ framed octets _ hframe hcarry =>
      rw [← Framing.octets_behind hframe hoctets] at hcarry
      have hnow := Nat.le_trans (Framing.le_readyAt now (stream.arrivals.take 2))
        (Framing.le_readyAt _ ((stream.arrivals.drop 2).take message.length))
      refine exchanges_of_readMessage hshort hnow
        (Framing.readMessage_of_frame hframe hoctets hbegun hread) (fun hlength => ?_)
        fun hlength reply later s' hserver => ?_
      · rw [if_pos hlength] at hrest
        exact ih hcarry hrest hfuel
      · rw [if_neg hlength, hserver] at hrest
        exact ih hcarry hrest hfuel

/-! ### The service -/

/-- The replies that the service gives to octets that come through a connection: those of the
clients who hand them in, in any run. -/
def Replies (config : Config) (bytes : List UInt8) (reply : Option (List UInt8)) : Prop :=
  ∃ fetchTimeout moves s id c resolution, Service.Run config fetchTimeout moves s ∧
    Service.HandedIn moves id (.octets .connection bytes) ∧ s.clients.find? id = some c ∧
      c.stage = .replied reply resolution

/-- A server gives the replies that the service gives. -/
def IsService (config : Config) (server : Server σ) : Prop :=
  ∀ s message now, Replies config message (server s message now).1

/-- The service gives no reply that is too long. -/
theorem length_of_replies {config : Config} {bytes reply : List UInt8}
    (h : Replies config bytes (some reply)) : reply.length ≤ Framing.maxLength := by
  obtain ⟨fetchTimeout, moves, s, id, c, resolution, hrun, hin, hc, hreplied⟩ := h
  obtain ⟨-, hstory⟩ := hrun.story hin hc
  rw [hreplied] at hstory
  generalize hsome : some reply = octets at hstory
  cases hstory with
  | malformed =>
    exact Nat.le_trans (Dns.length_malformedReply hsome.symm) (by decide : 512 ≤ 65535)
  | replied => exact Service.State.length_replyBytes_le hsome.symm

/-- **A connection is answered in order.**  Whatever pieces the octets of a connection arrive in, if
they carry some messages and none keeps the reader waiting too long, then each message that is long
enough for a header is handed to the service, once and in order, when those before are done with;
and the octets that are sent back carry the replies to them in the same order, where there are
replies. -/
theorem connections_are_answered_in_order {config : Config} {server : Server σ}
    (hserver : IsService config server) {messages : List (List UInt8)} {stream : Framing.Stream}
    (hcarry : Framing.Carry messages (stream.arrivals.map Prod.snd)) {s : σ}
    (hintime : InTime server Framing.defaultIdle s 0 stream.arrivals messages) :
    ∃ exchanges, exchanges.map Prod.fst = messages.filter (headerLength ≤ ·.length) ∧
      (serve server s stream).handled = exchanges.map Prod.fst ∧
      Exchanges server s 0 exchanges (serve server s stream).server ∧
      Framing.Carry (exchanges.filterMap Prod.snd) (serve server s stream).written := by
  have hshort : ∀ s message now reply, (server s message now).1 = some reply →
      reply.length ≤ Framing.maxLength := fun s message now reply hreply =>
    length_of_replies (hreply ▸ hserver s message now)
  have hfuel : messages.length < stream.arrivals.length + 1 := by
    rw [← List.length_map (f := Prod.snd)]
    exact Nat.lt_succ_of_le hcarry.length_le
  obtain ⟨exchanges, h⟩ := exchanges_of_serveFrom hshort hcarry hintime hfuel
  exact ⟨exchanges, h.messages, h.handled, h.oneByOne, h.written⟩

/-! ### A service whose endpoint is silent -/

/-- A client waits for the answer to one question, of which the endpoint is never asked. -/
def waitingEvents (bytes : List UInt8) : List Event :=
  [.arrive 0 .connection bytes, .ask 0, .cache (.look 0), .cache (.enter 0)]

theorem play_waitingEvents {bytes : List UInt8} {query : Dns.Message} {question : Dns.Question}
    (h : Dns.Message.decode bytes = .ok query) (hquestion : query.question = .ok question) :
    ∃ s, (State.start posting 20000).play (waitingEvents bytes) = some s ∧ s.now = 0 ∧
      s.config.queryTimeout = 10000 ∧ (s.cache.callerEvent? 0).isNone = true ∧
      (s.cache.leave 0).isSome = true ∧ s.isDying 0 = false ∧
      s.clients.find? 0 = some ⟨some .connection, 0, .asking query question none 0⟩ := by
  have hfirst : (State.start posting 20000).firstStage query = .locating query question := by
    simp only [State.firstStage, hquestion]
    rfl
  simp only [waitingEvents, State.play, State.step, State.arrive, h, State.enroll, hfirst]
  exact ⟨_, rfl, rfl, rfl, rfl, rfl, rfl, rfl⟩

/-- The client gives up, and is refused. -/
theorem play_giveUp {s : State} {query : Dns.Message} {question : Dns.Question}
    (hnow : s.now = 0) (htimeout : s.config.queryTimeout = 10000)
    (hidle : (s.cache.callerEvent? 0).isNone = true) (hleave : (s.cache.leave 0).isSome = true)
    (hlives : s.isDying 0 = false)
    (hc : s.clients.find? 0 = some ⟨some .connection, 0, .asking query question none 0⟩) :
    ∃ s', s.play [.tick 10000, .giveUp 0, .reply 0] = some s' ∧ s'.clients.find? 0 =
      some ⟨some .connection, 0,
        .replied (State.replyBytes .connection query query.servFailFor) .failed⟩ := by
  obtain ⟨cache, hleave⟩ := Option.isSome_iff_exists.mp hleave
  let late : State := { s with now := s.now + 10000 }
  let refused := State.setClient { late with cache } 0
    ⟨some .connection, 0, .asking query question none 0⟩ (.decided query query.servFailFor .failed)
  have hlate : 0 + late.config.queryTimeout ≤ late.now := by
    change 0 + s.config.queryTimeout ≤ s.now + 10000
    rw [htimeout, hnow]
  have hstep : late.step (.giveUp 0) = some refused := by
    simp only [State.step, State.giveUp, late, hc]
    rw [if_pos ⟨hlate, hidle, hlives⟩, hleave]
    rfl
  have hplay : s.play [.tick 10000, .giveUp 0, .reply 0] = (refused.step (.reply 0)).bind some := by
    change (late.step (.giveUp 0)).bind _ = _
    rw [hstep]
    rfl
  have hrefused : refused.clients.find? 0 =
      some ⟨some .connection, 0, .decided query query.servFailFor .failed⟩ :=
    Table.find?_insert_self ..
  simp only [State.step, State.reply, hrefused] at hplay
  exact ⟨_, hplay, Table.find?_insert_self ..⟩

/-- The reply of a service whose endpoint is silent. -/
def refusal (bytes : List UInt8) : Option (List UInt8) :=
  match Dns.Message.decode bytes with
  | .error _ => Dns.malformedReply bytes
  | .ok query => State.replyBytes .connection query query.servFailFor

/-- A reply is one that the service gives if some events lead to it. -/
theorem replies_of_play {bytes : List UInt8} (events : List Event) {reply : Option (List UInt8)}
    (h : ∃ s, (State.start posting 20000).play (.arrive 0 .connection bytes :: events) = some s ∧
      s.clients.find? 0 = some ⟨some .connection, 0, .replied reply .failed⟩) :
    Replies posting bytes reply := by
  obtain ⟨s, hplay, hc⟩ := h
  obtain ⟨moves, hrun, hmap⟩ := Run.of_play hplay
  exact ⟨20000, moves, s, 0, _, .failed, hrun, .of_play hmap List.mem_cons_self rfl, hc, rfl⟩

/-- It is one that the service gives. -/
theorem replies_refusal (bytes : List UInt8) : Replies posting bytes (refusal bytes) := by
  unfold refusal
  split
  case h_1 fault hdecode =>
    refine replies_of_play [] ?_
    simp only [State.play, State.step, State.arrive, hdecode]
    exact ⟨_, rfl, rfl⟩
  case h_2 query hdecode =>
    cases hquestion : query.question with
    | error fault =>
      have hfirst : (State.start posting 20000).firstStage query =
          .decided query query.servFailFor .failed := by
        simp only [State.firstStage, hquestion]
      refine replies_of_play [.reply 0] ?_
      simp only [State.play, State.step, State.arrive, hdecode, State.enroll, hfirst]
      exact ⟨_, rfl, rfl⟩
    | ok question =>
      obtain ⟨s, hplay, hnow, htimeout, hidle, hleave, hlives, hc⟩ :=
        play_waitingEvents hdecode hquestion
      obtain ⟨s', hplay', hc'⟩ := play_giveUp hnow htimeout hidle hleave hlives hc
      have hall := State.play_append (.start posting 20000) (waitingEvents bytes)
        [.tick 10000, .giveUp 0, .reply 0]
      rw [hplay, Option.bind_some, hplay'] at hall
      exact replies_of_play _ ⟨s', hall, hc'⟩

/-- A server that gives such replies, each after some milliseconds, and counts them. -/
def refusing : Server Nat := fun count message now => (refusal message, now + 5, count + 1)

/-- Twelve octets, which are the header of no message. -/
def junk : List UInt8 := List.replicate 12 0xff

/-- The octets of four messages in three pieces: one that is too short, an empty one, a query and
what is no message.  The first piece ends within a length, and the second one too. -/
def pieces : Framing.Stream :=
  Framing.deliver true 0 [.octets [0, 3, 1, 2, 3, 0, 0, 0], .pause 9000,
    .octets (17 :: rootQuery ++ [0]), .pause 9000, .octets (12 :: junk)]

/-- They are answered in order. -/
theorem connections_are_answered_in_order_pieces : ∃ exchanges,
    exchanges.map Prod.fst = [rootQuery, junk] ∧
      (serve refusing 0 pieces).handled = exchanges.map Prod.fst ∧
      Exchanges refusing 0 0 exchanges (serve refusing 0 pieces).server ∧
      Framing.Carry (exchanges.filterMap Prod.snd) (serve refusing 0 pieces).written := by
  have hserver : IsService posting refusing := fun _ message _ => replies_refusal message
  have hoctets : pieces.arrivals.map Prod.snd = [0, 3, 1, 2, 3] ++ ([0, 0] ++
      ((0 :: 17 :: rootQuery) ++ ((0 :: 12 :: junk) ++ []))) := by decide
  have hcarry : Framing.Carry [[1, 2, 3], [], rootQuery, junk] (pieces.arrivals.map Prod.snd) :=
    hoctets ▸ .cons rfl (.cons rfl (.cons rfl (.cons rfl .nil)))
  have hintime : InTime refusing Framing.defaultIdle 0 0 pieces.arrivals
      [[1, 2, 3], [], rootQuery, junk] := by decide
  exact connections_are_answered_in_order hserver hcarry hintime

end Connection

end DohRelay
