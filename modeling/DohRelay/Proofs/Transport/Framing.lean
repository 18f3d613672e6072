import DohRelay.Transport.Framing

/-!
# Messages are read back from a stream

Messages that are written to a stream, each behind its length, are read from it as they were
written, in whatever pieces the octets arrive, as long as no length and no message takes longer than
the reader waits.  Each is there when its last octet is.  What is read of any octets, if they arrive
in time and then the stream ends, depends on the octets alone; and if they do not arrive in time,
then the reader stops earlier, but never reads anything else.

## Main definitions

* `Framing.Carry` — octets carry some messages.
* `Framing.readyAt` — when the last of some octets is there.
* `Framing.octetsOf`, `Framing.written` — the octets of some deliveries, and of some messages.
* `Framing.InTime` — no octet keeps the reader waiting too long, and neither does the end.
* `Framing.greedy` — what some octets come to, one whole message after the other.
* `Framing.Reaches` — readings are what octets come to, or stop earlier.
* `Framing.schedule` — messages, each with the time when its last octet is there.

## Main results

* `Framing.readMessage_of_frame` — a message is read if it arrives in time, whatever comes behind
  it.
* `Framing.readFrom_of_written` — messages that arrive in time are read as they were written.
* `Framing.map_readFrom_of_inTime` — of octets that arrive in time, whole messages are read.
* `Framing.reaches_readFrom` — of octets that arrive at any time, no others are.
* `Framing.messages_are_read_back` — **so it is with what is delivered in any pieces.**
-/

namespace DohRelay.Framing

/-! ### Messages and their frames -/

/-- Octets carry some messages: each behind its length, one after the other. -/
inductive Carry : List (List UInt8) → List UInt8 → Prop
  /-- There is nothing. -/
  | nil : Carry [] []
  /-- There is one more message. -/
  | cons {message framed octets : List UInt8} {messages : List (List UInt8)}
      (hframe : frame message = some framed) (rest : Carry messages octets) :
      Carry (message :: messages) (framed ++ octets)

/-- When the last of some octets is there, for somebody who waits for them from the time `now` on.
-/
def readyAt (now : Nat) (octets : List (Nat × UInt8)) : Nat :=
  octets.foldl (fun time octet => max time octet.1) now

theorem le_readyAt (now : Nat) (octets : List (Nat × UInt8)) : now ≤ readyAt now octets := by
  induction octets generalizing now with
  | nil => exact Nat.le_refl now
  | cons octet octets ih => exact Nat.le_trans (Nat.le_max_left _ _) (ih _)

/-- A message with its length in front. -/
theorem frame_eq_some {message framed : List UInt8} (h : frame message = some framed) :
    message.length ≤ maxLength ∧ framed = lengthOctets message.length ++ message := by
  unfold frame at h
  split at h
  case isTrue hle => exact ⟨hle, (Option.some.inj h).symm⟩
  case isFalse => cases h

/-- Each message takes an octet at least. -/
theorem Carry.length_le {messages : List (List UInt8)} {octets : List UInt8}
    (h : Carry messages octets) : messages.length ≤ octets.length := by
  induction h with
  | nil => exact Nat.le_refl 0
  | cons hframe _ ih =>
    obtain ⟨-, rfl⟩ := frame_eq_some hframe
    simp only [lengthOctets, List.length_append, List.length_cons, List.length_nil]
    omega

/-- The length is what its octets say. -/
theorem toNat_lengthOctets {n : Nat} (h : n ≤ maxLength) :
    (UInt8.ofNat (n / 256)).toNat * 256 + (UInt8.ofNat n).toNat = n := by
  rw [maxLength] at h
  rw [UInt8.toNat_ofNat', UInt8.toNat_ofNat']
  omega

variable {stream : Stream} {now idle : Nat}

/-- Octets are read that arrive in time. -/
theorem Stream.take_eq {count : Nat} (hcount : count ≤ stream.arrivals.length)
    (hready : readyAt now (stream.arrivals.take count) ≤ now + idle) :
    stream.take now idle count = (.octets ((stream.arrivals.take count).map Prod.snd),
      readyAt now (stream.arrivals.take count),
      { stream with arrivals := stream.arrivals.drop count }) := by
  have hlength : (stream.arrivals.take count).length = count :=
    List.length_take_of_le hcount
  simp only [Stream.take, hlength, if_true]
  exact if_pos hready

/-- **A message is read if it arrives in time**, whatever comes behind it. -/
theorem readMessage_of_frame {message framed octets : List UInt8}
    (hframe : frame message = some framed)
    (harrivals : stream.arrivals.map Prod.snd = framed ++ octets)
    (hlength : readyAt now (stream.arrivals.take 2) ≤ now + idle)
    (hbody : readyAt (readyAt now (stream.arrivals.take 2))
      ((stream.arrivals.drop 2).take message.length) ≤
        readyAt now (stream.arrivals.take 2) + idle) :
    readMessage stream now idle = (.message message,
      readyAt (readyAt now (stream.arrivals.take 2))
        ((stream.arrivals.drop 2).take message.length),
      { stream with arrivals := (stream.arrivals.drop 2).drop message.length }) := by
  obtain ⟨hle, rfl⟩ := frame_eq_some hframe
  have hcount : stream.arrivals.length = 2 + message.length + octets.length := by
    rw [← List.length_map (f := Prod.snd), harrivals]
    simp only [lengthOctets, List.length_append, List.length_cons, List.length_nil]
  have htwo : (stream.arrivals.take 2).map Prod.snd = lengthOctets message.length := by
    rw [List.map_take, harrivals]
    rfl
  have hrest : ((stream.arrivals.drop 2).take message.length).map Prod.snd = message := by
    rw [List.map_take, List.map_drop, harrivals]
    exact List.take_left ..
  unfold readMessage
  rw [Stream.take_eq (by omega) hlength, htwo]
  simp only [lengthOctets]
  rw [toNat_lengthOctets hle, Stream.take_eq (by rw [List.length_drop]; omega) hbody]
  simp only [hrest]

/-- What comes behind a message is left. -/
theorem octets_behind {arrivals : List (Nat × UInt8)} {message framed octets : List UInt8}
    (hframe : frame message = some framed) (harrivals : arrivals.map Prod.snd = framed ++ octets) :
    ((arrivals.drop 2).drop message.length).map Prod.snd = octets := by
  obtain ⟨-, rfl⟩ := frame_eq_some hframe
  rw [List.map_drop, List.map_drop, harrivals]
  exact List.drop_left ..

/-- Where nothing arrives any more, no further message is read. -/
theorem readMessage_of_nil (h : stream.arrivals = []) (now idle : Nat) :
    ∃ time, readMessage stream now idle = (.finished, time, stream) := by
  have hstream : { stream with arrivals := [] } = stream := by rw [← h]
  have htake : ∃ attempt time, stream.take now idle 2 = (attempt, time, stream) ∧
      ∀ octets, attempt ≠ .octets octets := by
    simp only [Stream.take, h, List.take_nil, List.drop_nil, hstream]
    rw [if_neg (by decide)]
    split
    case h_1 => exact ⟨.late, _, rfl, nofun⟩
    case h_2 =>
      split
      · exact ⟨.ended, _, rfl, nofun⟩
      · exact ⟨.late, _, rfl, nofun⟩
  obtain ⟨attempt, time, htake, hnone⟩ := htake
  refine ⟨time, ?_⟩
  unfold readMessage
  rw [htake]
  cases attempt with
  | octets octets => exact absurd rfl (hnone octets)
  | ended | late => rfl

/-! ### What octets come to -/

/-- The number that two octets stand for. -/
def lengthOf (high low : UInt8) : Nat :=
  high.toNat * 256 + low.toNat

/-- What some octets come to, if no more follow: each whole message, one after the other.  Behind
the last one there may be less than a length, or a length with too few octets behind it. -/
def greedy : List UInt8 → List Reading
  | high :: low :: rest =>
    if lengthOf high low ≤ rest.length then
      .message (rest.take (lengthOf high low)) :: greedy (rest.drop (lengthOf high low))
    else [.ended]
  | _ => [.finished]
termination_by octets => octets.length
decreasing_by
  rw [List.length_drop, List.length_cons, List.length_cons]
  exact Nat.lt_succ_of_le (Nat.le_succ_of_le (Nat.sub_le _ _))

/-- No octet keeps the reader waiting too long, and neither does the end of the stream, if it comes
within a message. -/
inductive InTime (idle : Nat) (closedAt : Option Nat) : Nat → List (Nat × UInt8) → Prop
  /-- No further message begins. -/
  | stop {now : Nat} {arrivals : List (Nat × UInt8)} (hfew : arrivals.length < 2) :
      InTime idle closedAt now arrivals
  /-- The length of a message is there in time, and so is the end of the stream. -/
  | short {now closed : Nat} {high low : Nat × UInt8} {rest : List (Nat × UInt8)}
      (hbegun : readyAt now [high, low] ≤ now + idle)
      (hbody : rest.length < lengthOf high.2 low.2) (hclosed : closedAt = some closed)
      (hend : max (readyAt now [high, low]) closed ≤ readyAt now [high, low] + idle) :
      InTime idle closedAt now (high :: low :: rest)
  /-- A message is there in time, and so is what comes behind it. -/
  | message {now begun : Nat} {high low : Nat × UInt8} {rest : List (Nat × UInt8)}
      (hbegun : begun = readyAt now [high, low]) (hlength : begun ≤ now + idle)
      (hbody : lengthOf high.2 low.2 ≤ rest.length)
      (hread : readyAt begun (rest.take (lengthOf high.2 low.2)) ≤ begun + idle)
      (hrest : InTime idle closedAt (readyAt begun (rest.take (lengthOf high.2 low.2)))
        (rest.drop (lengthOf high.2 low.2))) :
      InTime idle closedAt now (high :: low :: rest)

variable {arrivals rest : List (Nat × UInt8)} {high low : Nat × UInt8} {closedAt : Option Nat}
  {fuel : Nat}

/-! ### One message -/

/-- Too few octets are not read. -/
theorem Stream.take_of_lt (closedAt : Option Nat) (now idle : Nat) {count : Nat}
    (h : arrivals.length < count) :
    (Stream.take ⟨arrivals, closedAt⟩ now idle count).1 = .ended ∨
      (Stream.take ⟨arrivals, closedAt⟩ now idle count).1 = .late := by
  have hlength : (arrivals.take count).length ≠ count := by
    rw [List.length_take]
    omega
  simp only [Stream.take, hlength, if_false]
  split
  · exact .inr rfl
  · split
    · exact .inl rfl
    · exact .inr rfl

/-- Octets are waited for in vain if the stream ends before. -/
theorem Stream.take_of_ended {count closed : Nat} (h : arrivals.length < count)
    (hclosed : closedAt = some closed) (hend : max now closed ≤ now + idle) :
    (Stream.take ⟨arrivals, closedAt⟩ now idle count).1 = .ended := by
  have hlength : (arrivals.take count).length ≠ count := by
    rw [List.length_take]
    omega
  simp only [Stream.take, hlength, if_false, hclosed, if_pos hend]

/-- Octets that are too late are not read. -/
theorem Stream.take_of_late (closedAt : Option Nat) {count : Nat} (h : count ≤ arrivals.length)
    (hlate : ¬ readyAt now (arrivals.take count) ≤ now + idle) :
    (Stream.take ⟨arrivals, closedAt⟩ now idle count).1 = .late := by
  have hlength : (arrivals.take count).length = count := List.length_take_of_le h
  simp only [Stream.take, hlength, if_true]
  exact congrArg Prod.fst (if_neg hlate)

/-- Where less than a length arrives, no further message begins. -/
theorem readMessage_of_few (hfew : arrivals.length < 2) :
    (readMessage ⟨arrivals, closedAt⟩ now idle).1 = .finished := by
  unfold readMessage
  have hattempt := Stream.take_of_lt closedAt now idle hfew
  rcases htake : Stream.take ⟨arrivals, closedAt⟩ now idle 2 with ⟨attempt, time, behind⟩
  rw [htake] at hattempt
  rcases hattempt with rfl | rfl <;> rfl

/-- Where a length is late, no further message begins. -/
theorem readMessage_of_late (hlate : ¬ readyAt now [high, low] ≤ now + idle) :
    (readMessage ⟨high :: low :: rest, closedAt⟩ now idle).1 = .finished := by
  unfold readMessage
  have htwo : 2 ≤ (high :: low :: rest).length := Nat.le_add_left ..
  have hattempt := Stream.take_of_late closedAt htwo hlate
  rcases htake : Stream.take ⟨high :: low :: rest, closedAt⟩ now idle 2 with ⟨attempt, time, behind⟩
  rw [htake] at hattempt
  obtain rfl : attempt = .late := hattempt
  rfl

/-- What a message comes to whose length is known, by how the attempt to read its octets ends. -/
def Attempt.reading : Attempt → Reading
  | .octets bytes => .message bytes
  | .ended => .ended
  | .late => .late

/-- After a length, the octets of the message are waited for. -/
theorem readMessage_of_length (hbegun : readyAt now [high, low] ≤ now + idle) {attempt : Attempt}
    {time : Nat} {behind : Stream}
    (htake : Stream.take ⟨rest, closedAt⟩ (readyAt now [high, low]) idle
      (lengthOf high.2 low.2) = (attempt, time, behind)) :
    readMessage ⟨high :: low :: rest, closedAt⟩ now idle = (attempt.reading, time, behind) := by
  unfold readMessage
  rw [@Stream.take_eq ⟨high :: low :: rest, closedAt⟩ now idle 2 (Nat.le_add_left ..) hbegun]
  dsimp only [List.take, List.drop, List.map]
  rw [← lengthOf, htake]
  cases attempt <;> rfl

/-- A message is read whose octets are in time. -/
theorem readMessage_message (hbegun : readyAt now [high, low] ≤ now + idle)
    (hbody : lengthOf high.2 low.2 ≤ rest.length)
    (hread : readyAt (readyAt now [high, low]) (rest.take (lengthOf high.2 low.2)) ≤
      readyAt now [high, low] + idle) :
    readMessage ⟨high :: low :: rest, closedAt⟩ now idle =
      (.message ((rest.take (lengthOf high.2 low.2)).map Prod.snd),
        readyAt (readyAt now [high, low]) (rest.take (lengthOf high.2 low.2)),
        ⟨rest.drop (lengthOf high.2 low.2), closedAt⟩) :=
  readMessage_of_length hbegun (Stream.take_eq hbody hread)

/-- How it ends if the octets of a message are not there in time. -/
theorem readMessage_eq_reading (rest : List (Nat × UInt8)) (closedAt : Option Nat)
    (hbegun : readyAt now [high, low] ≤ now + idle) :
    (readMessage ⟨high :: low :: rest, closedAt⟩ now idle).1 =
      (Stream.take ⟨rest, closedAt⟩ (readyAt now [high, low]) idle
        (lengthOf high.2 low.2)).1.reading :=
  congrArg Prod.fst (readMessage_of_length hbegun rfl)

/-! ### One message after the other -/

/-- Octets come to something. -/
theorem greedy_ne_nil (octets : List UInt8) : greedy octets ≠ [] := by
  unfold greedy
  split
  · split <;> exact List.cons_ne_nil _ _
  · exact List.cons_ne_nil _ _

theorem greedy_of_few {octets : List UInt8} (h : octets.length < 2) :
    greedy octets = [.finished] := by
  match octets with
  | [] | [_] => rw [greedy]; exact fun _ _ _ h => nomatch h

theorem greedy_message (hbody : lengthOf high.2 low.2 ≤ rest.length) :
    greedy ((high :: low :: rest).map Prod.snd) =
      .message ((rest.take (lengthOf high.2 low.2)).map Prod.snd) ::
        greedy ((rest.drop (lengthOf high.2 low.2)).map Prod.snd) := by
  rw [List.map_cons, List.map_cons, greedy, if_pos (by rwa [List.length_map]), List.map_take,
    List.map_drop]

theorem greedy_short (hbody : rest.length < lengthOf high.2 low.2) :
    greedy ((high :: low :: rest).map Prod.snd) = [.ended] := by
  rw [List.map_cons, List.map_cons, greedy,
    if_neg (by rw [List.length_map]; exact Nat.not_le_of_lt hbody)]

/-- Where there is no message, nothing more is read. -/
theorem map_readFrom_of_ne {last : Reading} (h : (readMessage stream now idle).1 = last)
    (hlast : ∀ bytes, last ≠ .message bytes) :
    (readFrom stream now idle (fuel + 1)).map Prod.fst = [last] := by
  rw [readFrom]
  rcases hread : readMessage stream now idle with ⟨reading, time, behind⟩
  obtain rfl : reading = last := by rw [← h, hread]
  cases reading with
  | message bytes => exact absurd rfl (hlast bytes)
  | finished | ended | late => rfl

/-- What is read when a message is. -/
theorem readFrom_message (hbegun : readyAt now [high, low] ≤ now + idle)
    (hbody : lengthOf high.2 low.2 ≤ rest.length)
    (hread : readyAt (readyAt now [high, low]) (rest.take (lengthOf high.2 low.2)) ≤
      readyAt now [high, low] + idle) :
    readFrom ⟨high :: low :: rest, closedAt⟩ now idle (fuel + 1) =
      (.message ((rest.take (lengthOf high.2 low.2)).map Prod.snd),
        readyAt (readyAt now [high, low]) (rest.take (lengthOf high.2 low.2))) ::
          readFrom ⟨rest.drop (lengthOf high.2 low.2), closedAt⟩
            (readyAt (readyAt now [high, low]) (rest.take (lengthOf high.2 low.2))) idle fuel := by
  rw [readFrom, readMessage_message hbegun hbody hread]

/-- **Of octets that arrive in time, whole messages are read**, one after the other. -/
theorem map_readFrom_of_inTime (h : InTime idle closedAt now arrivals)
    (hfuel : arrivals.length < fuel) :
    (readFrom ⟨arrivals, closedAt⟩ now idle fuel).map Prod.fst =
      greedy (arrivals.map Prod.snd) := by
  induction fuel generalizing arrivals now with
  | zero => exact absurd hfuel (Nat.not_lt_zero _)
  | succ fuel ih =>
    cases h with
    | stop hfew =>
      rw [greedy_of_few (by rwa [List.length_map])]
      exact map_readFrom_of_ne (readMessage_of_few hfew) nofun
    | short hbegun hbody hclosed hend =>
      rw [greedy_short hbody]
      refine map_readFrom_of_ne ?_ nofun
      rw [readMessage_eq_reading _ _ hbegun, Stream.take_of_ended hbody hclosed hend]
      rfl
    | @message _ _ high low rest hbegun hlength hbody hread hrest =>
      subst hbegun
      have hless : (rest.drop (lengthOf high.2 low.2)).length < fuel := by
        simp only [List.length_cons] at hfuel
        rw [List.length_drop]
        omega
      rw [greedy_message hbody, readFrom_message hlength hbody hread, List.map_cons,
        ih hrest hless]

/-- Readings are what some octets come to, or the first part of it and then an end: no further
message begins, or one takes too long. -/
def Reaches (octets : List UInt8) (readings : List Reading) : Prop :=
  ∃ read left last, greedy octets = read ++ left ∧ left ≠ [] ∧ readings = read ++ [last] ∧
    (left = [last] ∨ last = .finished ∨ last = .late)

theorem Reaches.stop {octets : List UInt8} {last : Reading}
    (h : greedy octets = [last] ∨ last = .finished ∨ last = .late) : Reaches octets [last] :=
  ⟨[], greedy octets, last, rfl, greedy_ne_nil octets, rfl, h⟩

theorem Reaches.message {octets behind : List UInt8} {reading : Reading} {readings : List Reading}
    (h : Reaches behind readings) (hgreedy : greedy octets = reading :: greedy behind) :
    Reaches octets (reading :: readings) := by
  obtain ⟨read, left, last, hbehind, hleft, rfl, hlast⟩ := h
  exact ⟨reading :: read, left, last, by rw [hgreedy, hbehind]; rfl, hleft, rfl, hlast⟩

/-- **Of octets that arrive at any time, no other messages are read.** -/
theorem reaches_readFrom (hfuel : arrivals.length < fuel) :
    Reaches (arrivals.map Prod.snd)
      ((readFrom ⟨arrivals, closedAt⟩ now idle fuel).map Prod.fst) := by
  induction fuel generalizing arrivals now with
  | zero => exact absurd hfuel (Nat.not_lt_zero _)
  | succ fuel ih =>
    match arrivals with
    | [] | [_] =>
      rw [map_readFrom_of_ne (readMessage_of_few (Nat.lt_succ_of_le (by simp))) nofun]
      exact .stop (.inr (.inl rfl))
    | high :: low :: rest =>
      by_cases hbegun : readyAt now [high, low] ≤ now + idle
      case neg =>
        rw [map_readFrom_of_ne (readMessage_of_late hbegun) nofun]
        exact .stop (.inr (.inl rfl))
      have hreading := readMessage_eq_reading rest closedAt hbegun
      by_cases hbody : lengthOf high.2 low.2 ≤ rest.length
      case neg =>
        have hbody : rest.length < lengthOf high.2 low.2 := Nat.lt_of_not_le hbody
        rcases Stream.take_of_lt closedAt (readyAt now [high, low]) idle hbody with hended | hlate
        · rw [hended] at hreading
          rw [map_readFrom_of_ne hreading nofun]
          exact .stop (.inl (greedy_short hbody))
        · rw [hlate] at hreading
          rw [map_readFrom_of_ne hreading nofun]
          exact .stop (.inr (.inr rfl))
      by_cases hread : readyAt (readyAt now [high, low]) (rest.take (lengthOf high.2 low.2)) ≤
        readyAt now [high, low] + idle
      case neg =>
        rw [Stream.take_of_late closedAt hbody hread] at hreading
        rw [map_readFrom_of_ne hreading nofun]
        exact .stop (.inr (.inr rfl))
      have hless : (rest.drop (lengthOf high.2 low.2)).length < fuel := by
        simp only [List.length_cons] at hfuel
        rw [List.length_drop]
        omega
      rw [readFrom_message hbegun hbody hread, List.map_cons]
      exact (ih hless).message (greedy_message hbody)

/-! ### Messages that were written -/

/-- What some messages put into a stream.  A message that is refused puts nothing into it. -/
def written (messages : List (List UInt8)) : List UInt8 :=
  messages.flatMap fun message => (frame message).getD []

/-- When the last of some octets is there. -/
def lastArrival (octets : List (Nat × UInt8)) : Nat :=
  (octets.map Prod.fst).getLastD 0

/-- The messages that some octets carry, each with the time when its last octet is there.  Two
octets of each are its length. -/
def schedule : List (List UInt8) → List (Nat × UInt8) → List (Reading × Nat)
  | [], _ => []
  | message :: messages, arrivals =>
    (.message message, lastArrival (arrivals.take (message.length + 2))) ::
      schedule messages (arrivals.drop (message.length + 2))

/-- Octets arrive one after the other, and none before a certain time. -/
def Successive (now : Nat) (arrivals : List (Nat × UInt8)) : Prop :=
  (now :: arrivals.map Prod.fst).Pairwise (· ≤ ·)

theorem Successive.max_eq {octet : Nat × UInt8} (h : Successive now (octet :: arrivals)) :
    max now octet.1 = octet.1 :=
  Nat.max_eq_right ((List.pairwise_cons.mp h).1 octet.1 List.mem_cons_self)

theorem Successive.tail {octet : Nat × UInt8} (h : Successive now (octet :: arrivals)) :
    Successive octet.1 arrivals :=
  (List.pairwise_cons.mp h).2

/-- Octets that arrive one after the other are there when the last one is. -/
theorem Successive.readyAt_eq (h : Successive now arrivals) :
    readyAt now arrivals = (arrivals.map Prod.fst).getLastD now := by
  induction arrivals generalizing now with
  | nil => rfl
  | cons octet arrivals ih =>
    show readyAt (max now octet.1) arrivals = _
    rw [h.max_eq, ih h.tail, List.map_cons, List.getLastD_cons]

/-- What comes behind the first octets comes after them. -/
theorem Successive.of_append {part : List (Nat × UInt8)} (h : Successive now (part ++ arrivals)) :
    Successive now part ∧ Successive (readyAt now part) arrivals := by
  induction part generalizing now with
  | nil => exact ⟨List.pairwise_singleton _ _, h⟩
  | cons octet part ih =>
    obtain ⟨hpart, harrivals⟩ := ih h.tail
    refine ⟨List.pairwise_cons.mpr ⟨?_, hpart⟩, ?_⟩
    · intro time htime
      refine (List.pairwise_cons.mp h).1 time ?_
      rw [List.cons_append, List.map_cons, List.map_append]
      exact List.mem_append_left _ htime
    · show Successive (readyAt (max now octet.1) part) arrivals
      rwa [h.max_eq]

/-- A message that is not too long is written behind its length. -/
theorem written_cons {message : List UInt8} (h : message.length ≤ maxLength)
    (messages : List (List UInt8)) :
    written (message :: messages) =
      UInt8.ofNat (message.length / 256) :: UInt8.ofNat message.length ::
        (message ++ written messages) := by
  rw [written, List.flatMap_cons, frame, if_pos h]
  rfl

/-- **Messages that arrive in time are read as they were written**, each when its last octet is
there. -/
theorem readFrom_of_written {messages : List (List UInt8)}
    (hshort : ∀ message ∈ messages, message.length ≤ maxLength)
    (hoctets : arrivals.map Prod.snd = written messages)
    (hintime : InTime idle closedAt now arrivals) (hsuccessive : Successive now arrivals)
    (hfuel : messages.length < fuel) :
    ∃ stop, readFrom ⟨arrivals, closedAt⟩ now idle fuel =
      schedule messages arrivals ++ [(.finished, stop)] := by
  induction messages generalizing arrivals now fuel with
  | nil =>
    obtain ⟨fuel, rfl⟩ := Nat.exists_eq_add_one_of_ne_zero (Nat.ne_of_gt hfuel)
    obtain rfl : arrivals = [] := List.map_eq_nil_iff.mp hoctets
    obtain ⟨stop, hread⟩ := @readMessage_of_nil ⟨[], closedAt⟩ rfl now idle
    exact ⟨stop, by rw [readFrom, hread]; rfl⟩
  | cons message messages ih =>
    obtain ⟨fuel, rfl⟩ := Nat.exists_eq_add_one_of_ne_zero (Nat.ne_of_gt (Nat.zero_lt_of_lt hfuel))
    obtain ⟨hmessage, hmessages⟩ := List.forall_mem_cons.mp hshort
    rw [written_cons hmessage] at hoctets
    have hlength := toNat_lengthOctets hmessage
    have hcount := congrArg List.length hoctets
    simp only [List.length_map, List.length_cons, List.length_append] at hcount
    cases hintime with
    | stop hfew => omega
    | short hbegun hbody =>
      obtain ⟨hhigh, hlow, -⟩ : _ ∧ _ ∧ _ := by simpa using hoctets
      rw [lengthOf, hhigh, hlow, hlength] at hbody
      simp only [List.length_cons] at hcount
      omega
    | @message _ _ high low rest hbegun hlate hbody hread hrest =>
      subst hbegun
      obtain ⟨hhigh, hlow, hoctets⟩ : high.2 = _ ∧ low.2 = _ ∧ rest.map Prod.snd = _ := by
        simpa using hoctets
      have hnumber : lengthOf high.2 low.2 = message.length := by
        rw [lengthOf, hhigh, hlow, hlength]
      rw [readFrom_message hlate hbody hread]
      rw [hnumber] at hrest ⊢
      have hown : (rest.take message.length).map Prod.snd = message := by
        rw [List.map_take, hoctets, List.take_left]
      have hbehind : (rest.drop message.length).map Prod.snd = written messages := by
        rw [List.map_drop, hoctets, List.drop_left]
      have hparts : high :: low :: rest =
          (high :: low :: rest.take message.length) ++ rest.drop message.length := by
        rw [List.cons_append, List.cons_append, List.take_append_drop]
      rw [hparts] at hsuccessive
      obtain ⟨hfirst, hsuccessive⟩ := hsuccessive.of_append
      obtain ⟨stop, hread⟩ := ih hmessages hbehind hrest hsuccessive (Nat.lt_of_succ_lt_succ hfuel)
      refine ⟨stop, ?_⟩
      rw [hread, hown]
      show (_, readyAt now (high :: low :: rest.take message.length)) :: _ = _
      rw [hfirst.readyAt_eq]
      rfl

/-! ### What is delivered -/

/-- The octets that the other side writes. -/
def octetsOf (deliveries : List Delivery) : List UInt8 :=
  deliveries.flatMap fun
    | .octets bytes => bytes
    | .pause _ => []

theorem map_deliver (closes : Bool) (now : Nat) (deliveries : List Delivery) :
    (deliver closes now deliveries).arrivals.map Prod.snd = octetsOf deliveries := by
  induction deliveries generalizing now with
  | nil => rfl
  | cons delivery deliveries ih =>
    cases delivery with
    | octets bytes =>
      show (bytes.map (now, ·) ++ (deliver closes now deliveries).arrivals).map Prod.snd =
        bytes ++ octetsOf deliveries
      rw [List.map_append, ih, List.map_map]
      exact congrArg (· ++ _) (List.map_id bytes)
    | pause millis => exact ih (now + millis)

/-- Octets that arrive after some time arrive after an earlier one. -/
theorem Successive.mono {earlier : Nat} (h : Successive now arrivals) (hle : earlier ≤ now) :
    Successive earlier arrivals := by
  obtain ⟨hnow, hrest⟩ := List.pairwise_cons.mp h
  exact List.pairwise_cons.mpr ⟨fun time htime => Nat.le_trans hle (hnow time htime), hrest⟩

/-- What is delivered arrives one after the other. -/
theorem successive_deliver (closes : Bool) (now : Nat) (deliveries : List Delivery) :
    Successive now (deliver closes now deliveries).arrivals := by
  induction deliveries generalizing now with
  | nil => exact List.pairwise_singleton _ _
  | cons delivery deliveries ih =>
    cases delivery with
    | octets bytes =>
      show Successive now (bytes.map (now, ·) ++ (deliver closes now deliveries).arrivals)
      induction bytes with
      | nil => exact ih now
      | cons b bytes ihbytes =>
        refine List.pairwise_cons.mpr ⟨?_, ihbytes⟩
        intro time htime
        rcases List.mem_cons.mp htime with rfl | htime
        · exact Nat.le_refl _
        · exact (List.pairwise_cons.mp ihbytes).1 time htime
    | pause millis => exact (ih (now + millis)).mono (Nat.le_add_right now millis)

/-- Each message takes two octets at least. -/
theorem length_le_of_written {messages : List (List UInt8)}
    (hshort : ∀ message ∈ messages, message.length ≤ maxLength) :
    messages.length ≤ (written messages).length := by
  induction messages with
  | nil => exact Nat.le_refl 0
  | cons message messages ih =>
    obtain ⟨hmessage, hmessages⟩ := List.forall_mem_cons.mp hshort
    rw [written_cons hmessage]
    simp only [List.length_cons, List.length_append]
    have := ih hmessages
    omega

/-- **Messages are read back as they were written.**  If messages of at most 65535 octets are
written to a stream, in whatever pieces and with whatever pauses its octets come, then they are read
from it one by one, each when its last octet is there, and then no more, as long as neither a length
nor the octets behind it keep the reader waiting too long.  What is read of any octets that come in
time and end with the stream depends on the octets alone: it is each whole message, one after the
other, and then an end, within a message or not.  If they do not come in time, then the reader stops
earlier and has read nothing else.  A message that is too long is refused, and nothing is
written. -/
theorem messages_are_read_back (idle : Nat) :
    (∀ (closes : Bool) (messages : List (List UInt8)) (deliveries : List Delivery),
      let stream := deliver closes 0 deliveries
      (∀ message ∈ messages, message.length ≤ 65535) → octetsOf deliveries = written messages →
        InTime idle stream.closedAt 0 stream.arrivals →
          ∃ stop, readAll stream idle =
            schedule messages stream.arrivals ++ [(.finished, stop)]) ∧
    (∀ deliveries : List Delivery,
      let stream := deliver true 0 deliveries
      Reaches (octetsOf deliveries) ((readAll stream idle).map Prod.fst) ∧
        (InTime idle stream.closedAt 0 stream.arrivals →
          (readAll stream idle).map Prod.fst = greedy (octetsOf deliveries))) ∧
    ∀ (message : List UInt8) (messages : List (List UInt8)), 65535 < message.length →
      frame message = none ∧ written (messages ++ [message]) = written messages := by
  refine ⟨?_, ?_, ?_⟩
  · intro closes messages deliveries stream hshort hoctets hintime
    have harrivals := (map_deliver closes 0 deliveries).trans hoctets
    have hfuel : messages.length < stream.arrivals.length + 1 := by
      rw [← List.length_map (f := Prod.snd), harrivals]
      exact Nat.lt_succ_of_le (length_le_of_written hshort)
    have hsuccessive := successive_deliver closes 0 deliveries
    exact readFrom_of_written hshort harrivals hintime hsuccessive hfuel
  · intro deliveries stream
    rw [← map_deliver true 0 deliveries]
    exact ⟨reaches_readFrom (Nat.lt_succ_self _),
      fun hintime => map_readFrom_of_inTime hintime (Nat.lt_succ_self _)⟩
  · intro message messages hlong
    have hframe : frame message = none := if_neg (Nat.not_le_of_lt hlong)
    refine ⟨hframe, ?_⟩
    rw [written, List.flatMap_append, List.flatMap_singleton, hframe]
    exact List.append_nil _

/-- The octets of three messages in four pieces, one of the messages being empty.  The first and the
third piece end within a length. -/
def fourPieces : List Delivery :=
  [.octets [0], .pause 9000, .octets [3, 1], .pause 9000, .octets [2, 3, 0, 0, 0], .pause 5000,
    .octets [1, 9]]

/-- The octets of one message, and of another that is cut short. -/
def cutShort : List Delivery :=
  [.octets [0, 1], .pause 3, .octets [7, 0, 5, 1]]

/-- The former are read back, and of the latter the first. -/
theorem messages_are_read_back_fourPieces :
    (∃ stop, readAll (deliver true 0 fourPieces) 10000 =
      [(.message [1, 2, 3], 18000), (.message [], 18000), (.message [9], 23000),
        (.finished, stop)]) ∧
    (readAll (deliver true 0 cutShort) 10000).map Prod.fst = [.message [7], .ended] := by
  have hfour : InTime 10000 (some 23000) 0 (deliver true 0 fourPieces).arrivals :=
    .message rfl (by decide) (by decide) (by decide)
      (.message rfl (by decide) (by decide) (by decide)
        (.message rfl (by decide) (by decide) (by decide) (.stop (by decide))))
  have hcut : InTime 10000 (some 3) 0 (deliver true 0 cutShort).arrivals :=
    .message rfl (by decide) (by decide) (by decide)
      (.short (by decide) (by decide) rfl (by decide))
  obtain ⟨hwritten, hoctets, -⟩ := messages_are_read_back 10000
  refine ⟨hwritten true [[1, 2, 3], [], [9]] fourPieces (by decide) (by decide) hfour, ?_⟩
  rw [(hoctets cutShort).2 hcut]
  simp [cutShort, octetsOf, greedy, lengthOf]

end DohRelay.Framing
