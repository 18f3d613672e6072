import DohRelay.Proofs.Subnet.Run

/-!
# Lookups are few, and what they found is not lost

However many callers come, one looks up at a time, and only when the lookups that have ended call
for another one; the others are told what it came to.  What was found last stays what callers are
told until a lookup finds something else.

## Main definitions

* `Ended`, `ended` — the lookups of a run that have ended.
* `Due` — another lookup is called for.
* `lastFound`, `knownAfter` — what is known after some lookups.
* `Detection.LooksUp`, `Move.Starts`, `Move.Tells` — who looks up, begins to, or is told something.
* `Detection.Ordered` — whoever has a turn is the one whose turn it is; every event keeps this.

## Main results

* `Run.detected_eq` — what is known is what the lookups that have ended came to.
* `Detection.usable_eq_none_iff` — nothing is usable exactly when another lookup is due.
* `Run.lookups_collapse` — **one lookup at a time, each of them due, and one for all who overlap
  it.**
* `Run.last_found_is_told` — **callers are told what was found last.**
-/

namespace DohRelay.Subnet

open Cache (CallerId)

/-! ### Lookups that have ended -/

/-- A lookup that has ended. -/
structure Ended where
  /-- When it ended. -/
  time : Nat
  /-- The address it ended with, unless it failed. -/
  address : Option Net.Ip

/-- The lookup that an event at a time ends, if it ends one. -/
def DetectionEvent.ended? (time : Nat) : DetectionEvent → Option Ended
  | .lookedUp _ address => some ⟨time, address⟩
  | _ => none

/-- The lookup that a move ends, if it ends one. -/
def Move.ended? (m : Move) : Option Ended :=
  m.event.ended? m.time

/-- The lookups that ended by some moves, the latest first; those whose callers went away have not
ended. -/
def ended (moves : List Move) : List Ended :=
  moves.filterMap Move.ended?

theorem ended_append (later earlier : List Move) :
    ended (later ++ earlier) = ended later ++ ended earlier :=
  List.filterMap_append

/-- The lookups that end by moves that some events make. -/
theorem ended_of_play {moves : List Move} {events : List (Nat × DetectionEvent)}
    (hmap : moves.map (fun m => (m.time, m.event)) = events.reverse) :
    ended moves = events.reverse.filterMap fun x => x.2.ended? x.1 := by
  rw [← hmap, List.filterMap_map]
  rfl

/-- After some lookups, the latest first, another one is called for at the time `now`: there was
none, or the last one was successful and is `refresh` old, or it failed and is as old as that or a
minute. -/
def Due (refresh : Option Nat) (now : Nat) : List Ended → Prop
  | [] => True
  | ⟨time, some _⟩ :: _ => ∃ r, refresh = some r ∧ time + r ≤ now
  | ⟨time, none⟩ :: _ => time + refresh.elim 60000 (min · 60000) ≤ now

/-- The address that was found last by some lookups, the latest first. -/
def lastFound (lookups : List Ended) : Option Net.Ip :=
  lookups.findSome? Ended.address

/-- What is known after some lookups, the latest first. -/
def knownAfter : List Ended → Option Detected
  | [] => none
  | last :: before =>
    some ⟨(lastFound (last :: before)).map ofAddress, last.time, last.address.isNone⟩

/-- The network that is known after some lookups is that of the address that was found last. -/
theorem net_knownAfter (lookups : List Ended) :
    (knownAfter lookups).bind Detected.net = (lastFound lookups).map ofAddress := by
  cases lookups <;> rfl

/-- What one more lookup adds to what is known. -/
theorem knownAfter_cons (time : Nat) (address : Option Net.Ip) (lookups : List Ended) :
    knownAfter (⟨time, address⟩ :: lookups) =
      some (.ofLookup ((knownAfter lookups).bind Detected.net) time address) := by
  rw [net_knownAfter]
  cases address <;> rfl

/-- Nothing was found exactly when all lookups failed. -/
theorem lastFound_eq_none_iff {lookups : List Ended} :
    lastFound lookups = none ↔ ∀ l ∈ lookups, l.address = none :=
  List.findSome?_eq_none_iff

/-- What was found is not lost by later lookups. -/
theorem lastFound_append_ne_none {lookups : List Ended} (h : lastFound lookups ≠ none)
    (later : List Ended) : lastFound (later ++ lookups) ≠ none := by
  rw [lastFound, List.findSome?_append]
  cases later.findSome? Ended.address with
  | some a => exact Option.some_ne_none a
  | none => exact h

/-! ### Turns and lookups -/

namespace Detection

/-- A caller looks up. -/
def LooksUp (d : Detection) (id : CallerId) : Prop :=
  ∃ previous, d.callers.find? id = some (.lookingUp previous)

/-- Whoever has a turn is the one whose turn it is, and whoever looks up knows what was known last.
-/
structure Ordered (d : Detection) : Prop where
  /-- Nobody else has a turn. -/
  turn : ∀ {id p}, d.callers.find? id = some p → p.hasTurn = true → d.turn = some id
  /-- A lookup began with what is still known last. -/
  previous : ∀ {id previous}, d.callers.find? id = some (.lookingUp previous) →
    previous = d.lastKnown

variable {d d' : Detection} {e : DetectionEvent} {id : CallerId} {now : Nat}

namespace Ordered

theorem start (refresh : Option Nat) : (Detection.start refresh).Ordered :=
  ⟨nofun, nofun⟩

/-- One caller looks up at most. -/
theorem eq_of_looksUp (h : d.Ordered) {other : CallerId} (hid : d.LooksUp id)
    (hother : d.LooksUp other) : id = other := by
  obtain ⟨p, hp⟩ := hid
  obtain ⟨q, hq⟩ := hother
  have hturn := h.turn hp rfl
  rw [h.turn hq rfl, Option.some.injEq] at hturn
  exact hturn.symm

/-- A caller comes to a phase in which it has a turn only if the turn is its own. -/
theorem setCaller (h : d.Ordered) {p : DetectionPhase}
    (hturn : p.hasTurn = true → d.turn = some id)
    (hprevious : ∀ previous, p = .lookingUp previous → previous = d.lastKnown) :
    (d.setCaller id p).Ordered where
  turn {i q} hi hq := by
    rcases Table.find?_insert_eq_some.mp hi with ⟨rfl, rfl⟩ | ⟨-, hi⟩
    · exact hturn hq
    · exact h.turn hi hq
  previous {i previous} hi := by
    rcases Table.find?_insert_eq_some.mp hi with ⟨rfl, hp⟩ | ⟨-, hi⟩
    · exact hprevious previous hp
    · exact h.previous hi

/-- The turn of a caller is over who does not look up any longer. -/
theorem endTurn (h : d.Ordered) {p : DetectionPhase} (hp : d.callers.find? id = some p)
    (hover : p.hasTurn = false) : (d.endTurn id).Ordered where
  turn {i q} hi hq := by
    rw [callers_endTurn] at hi
    have hne : i ≠ id := by
      rintro rfl
      rw [hp, Option.some.injEq] at hi
      rw [← hi, hover] at hq
      cases hq
    rw [turn_endTurn, h.turn hi hq, if_neg (by simpa using hne)]
  previous hi := by
    rw [callers_endTurn] at hi
    rw [lastKnown, detected_endTurn]
    exact h.previous hi

/-- What is known may change when the turn is that of a caller who is done with looking up. -/
theorem finish (h : d.Ordered) {previous : Option Net.Network}
    (hid : d.callers.find? id = some (.lookingUp previous)) (known : Option Detected)
    (net : Option Net.Network) :
    ({ d with detected := known }.setCaller id (.told net)).Ordered where
  turn {i q} hi hq := by
    rcases Table.find?_insert_eq_some.mp hi with ⟨rfl, rfl⟩ | ⟨-, hi⟩
    · cases hq
    · exact h.turn hi hq
  previous {i q} hi := by
    rcases Table.find?_insert_eq_some.mp hi with ⟨-, hp⟩ | ⟨hne, hi⟩
    · cases hp
    · exact absurd (h.eq_of_looksUp ⟨q, hi⟩ ⟨previous, hid⟩) hne

/-- **Every event keeps the order of turns.** -/
theorem effect (h : d.Ordered) (he : Effect now d e d') : d'.Ordered := by
  have htold {t : Detection} (ht : t.Ordered) (id : CallerId) (net : Option Net.Network) :
      (t.setCaller id (.told net)).Ordered := ht.setCaller nofun nofun
  cases he with
  | arrive | wait => exact h.setCaller nofun nofun
  | tell => exact htold h ..
  | begin hc hfree =>
    -- nobody had the turn, so the caller is the only one who has it now
    refine ⟨fun {i q} hi hq => ?_, fun {i q} hi => ?_⟩
    · rcases Table.find?_insert_eq_some.mp hi with ⟨rfl, -⟩ | ⟨-, hi⟩
      · rfl
      · have hturn := h.turn hi hq
        rw [hfree] at hturn
        cases hturn
    · rcases Table.find?_insert_eq_some.mp hi with ⟨-, hp⟩ | ⟨-, hi⟩
      · cases hp
      · exact h.previous hi
  | tellLate => exact (htold h ..).endTurn (Table.find?_insert_self ..) rfl
  | start hc =>
    refine h.setCaller (fun _ => h.turn hc rfl) fun previous hp => ?_
    cases hp
    rfl
  | finish hc => exact (h.finish hc _ _).endTurn (Table.find?_insert_self ..) rfl
  | @leave i =>
    have hgone : (d.setCaller i .gone).Ordered := h.setCaller nofun nofun
    exact hgone.endTurn (Table.find?_insert_self ..) rfl

end Ordered

namespace Effect

/-- What is known changes only when a lookup ends. -/
theorem detected_eq (h : Effect now d e d') (he : e.ended? now = none) :
    d'.detected = d.detected := by
  cases h with
  | finish => cases he
  | _ => simp

/-- A lookup that ends makes known what it came to. -/
theorem detected_of_ended (h : Effect now d e d') (hd : d.Ordered) {l : Ended}
    (he : e.ended? now = some l) :
    l.time = now ∧ d'.detected = some (.ofLookup d.lastKnown now l.address) := by
  cases h with
  | finish caller =>
    cases he
    refine ⟨rfl, ?_⟩
    rw [← hd.previous caller, detected_endTurn, detected_setCaller]
  | _ => cases he

/-- Whoever begins to look up had a turn and found nothing usable. -/
theorem of_looksUp (h : Effect now d e d') (hbefore : ¬d.LooksUp id) (hafter : d'.LooksUp id) :
    d.callers.find? id = some .checking ∧ d.usable now = none := by
  obtain ⟨previous, hafter⟩ := hafter
  have hcaller : id = e.caller := by
    refine Decidable.byContradiction fun hne => ?_
    rw [h.find?_callers hne] at hafter
    exact hbefore ⟨previous, hafter⟩
  subst hcaller
  cases h with
  | start caller stale => exact ⟨caller, stale⟩
  | _ => simp [DetectionEvent.caller] at hafter

end Effect

/-! ### What is usable -/

/-- Whoever is told what is usable is told what was known last. -/
theorem lastKnown_of_usable {net : Option Net.Network} (h : d.usable now = some net) :
    net = d.lastKnown := by
  rw [usable] at h
  rw [lastKnown]
  split at h
  case h_1 known hknown =>
    rw [hknown]
    split at h
    case isTrue => exact (Option.some.inj h).symm
    case isFalse => cases h
  case h_2 => cases h

/-- **Nothing is usable exactly when another lookup is due**, by the lookups that have ended. -/
theorem usable_eq_none_iff {lookups : List Ended} (hknown : d.detected = knownAfter lookups)
    (htime : ∀ l ∈ lookups, l.time ≤ now) :
    d.usable now = none ↔ Due d.refresh now lookups := by
  cases lookups with
  | nil => simp [usable, hknown, knownAfter, Due]
  | cons last before =>
    obtain ⟨time, address⟩ := last
    have hlast : time ≤ now := htime _ List.mem_cons_self
    cases address <;> cases hrefresh : d.refresh <;>
      simp [usable, hknown, hrefresh, knownAfter, Due, Detected.isUsable, Detected.lifetime,
        retryAfter] <;> omega

/-- What a lookup came to is usable at the time it ended. -/
theorem isUsable_ofLookup {refresh : Option Nat} (hrefresh : refresh ≠ some 0)
    (previous : Option Net.Network) (address : Option Net.Ip) :
    (Detected.ofLookup previous now address).isUsable refresh now = true := by
  cases address <;> cases refresh <;>
    simp_all [Detected.ofLookup, Detected.isUsable, Detected.lifetime, retryAfter] <;> omega

end Detection

/-! ### What moves do -/

/-- By a move a caller begins to look up. -/
def Move.Starts (m : Move) (id : CallerId) : Prop :=
  ¬m.before.LooksUp id ∧ m.after.LooksUp id

/-- By a move a caller is told something. -/
def Move.Tells (m : Move) (id : CallerId) (net : Option Net.Network) : Prop :=
  m.after.callers.find? id = some (.told net) ∧ m.before.callers.find? id ≠ some (.told net)

namespace Detection.Effect

variable {d d' : Detection} {e : DetectionEvent} {id : CallerId} {now : Nat}

/-- Whoever is told something is told what is known afterwards. -/
theorem lastKnown_of_told (h : Effect now d e d') {net : Option Net.Network}
    (hafter : d'.callers.find? id = some (.told net))
    (hbefore : d.callers.find? id ≠ some (.told net)) : net = d'.lastKnown := by
  have hcaller : id = e.caller := by
    refine Decidable.byContradiction fun hne => ?_
    rw [h.find?_callers hne] at hafter
    exact hbefore hafter
  subst hcaller
  cases h with
  | tell _ usable | tellLate _ usable =>
    simp only [DetectionEvent.caller, callers_endTurn, callers_setCaller, Table.find?_insert_self,
      Option.some.injEq, DetectionPhase.told.injEq] at hafter
    rw [← hafter, lastKnown_of_usable usable]
    simp [lastKnown]
  | finish =>
    simp only [DetectionEvent.caller, callers_endTurn, callers_setCaller, Table.find?_insert_self,
      Option.some.injEq, DetectionPhase.told.injEq] at hafter
    rw [← hafter]
    simp [lastKnown]
  | _ => simp [DetectionEvent.caller] at hafter

/-- A lookup that fails leaves what is known, and its caller is told that. -/
theorem of_failed (h : Effect now d (.lookedUp id none) d') (hd : d.Ordered) :
    d'.lastKnown = d.lastKnown ∧ d'.callers.find? id = some (.told d.lastKnown) ∧ d.LooksUp id := by
  cases h with
  | @finish _ previous _ caller =>
    have hprevious := hd.previous caller
    refine ⟨?_, ?_, previous, caller⟩
    · rw [lastKnown, detected_endTurn, detected_setCaller, ← hprevious]
      rfl
    · rw [callers_endTurn, callers_setCaller, Table.find?_insert_self, ← hprevious]
      rfl

/-- What is usable stays so while no time passes. -/
theorem isSome_usable (h : Effect now d e d') (hrefresh : d.refresh ≠ some 0)
    (husable : (d.usable now).isSome = true) : (d'.usable now).isSome = true := by
  cases he : e.ended? now with
  | none => rwa [usable, h.detected_eq he, h.refresh_eq]
  | some l =>
    cases h with
    | @finish _ previous address =>
      simp [usable, isUsable_ofLookup hrefresh previous address]
    | _ => cases he

/-- While what is known is usable, nobody begins to look up. -/
theorem not_starts_of_usable (h : Effect now d e d') (husable : (d.usable now).isSome = true) :
    ¬(¬d.LooksUp id ∧ d'.LooksUp id) := by
  rintro ⟨hbefore, hafter⟩
  obtain ⟨-, hstale⟩ := h.of_looksUp hbefore hafter
  rw [hstale] at husable
  cases husable

/-- While a caller looks up, nobody begins to. -/
theorem not_starts_of_looksUp (h : Effect now d e d') (hd : d.Ordered) {other : CallerId}
    (hlooks : d.LooksUp other) : ¬(¬d.LooksUp id ∧ d'.LooksUp id) := by
  rintro ⟨hbefore, hafter⟩
  obtain ⟨hchecking, -⟩ := h.of_looksUp hbefore hafter
  obtain ⟨previous, hother⟩ := hlooks
  have hturn := hd.turn hchecking rfl
  rw [hd.turn hother rfl, Option.some.injEq] at hturn
  rw [← hturn, hother] at hchecking
  cases hchecking

/-- A caller who does not go away looks up until its lookup ends, which makes something usable. -/
theorem looksUp_or_usable (h : Effect now d e d') (hrefresh : d.refresh ≠ some 0)
    (hlooks : d.LooksUp id) (hstays : e ≠ .leave id) :
    d'.LooksUp id ∨ (∃ address, e = .lookedUp id address) ∧ (d'.usable now).isSome = true := by
  obtain ⟨previous, hid⟩ := hlooks
  by_cases hcaller : id = e.caller
  · subst hcaller
    cases h with
    | @finish _ previous address =>
      refine .inr ⟨⟨address, rfl⟩, ?_⟩
      simp [usable, isUsable_ofLookup hrefresh previous address]
    | leave => exact absurd rfl hstays
    | arrive hc | tell hc | wait hc | begin hc | tellLate hc | start hc =>
      rw [DetectionEvent.caller, hc] at hid
      cases hid
  · exact .inl ⟨previous, by rw [h.find?_callers hcaller, hid]⟩

end Detection.Effect

namespace Run

variable {refresh : Option Nat} {moves later earlier : List Move} {d : Detection} {m : Move}
  {id : CallerId}

/-- The order of turns is kept throughout a run. -/
theorem ordered (h : Run refresh moves d) : d.Ordered := by
  induction h with
  | start => exact .start refresh
  | move m _ _ ih => exact ih.effect m.effect

/-- **What is known is what the lookups that have ended came to.** -/
theorem detected_eq (h : Run refresh moves d) : d.detected = knownAfter (ended moves) := by
  induction h with
  | start => rfl
  | @move moves m run _ ih =>
    cases hended : m.ended? with
    | none =>
      rw [m.effect.detected_eq hended, ih, ended, ended, List.filterMap_cons_none hended]
    | some l =>
      obtain ⟨htime, hdetected⟩ := m.effect.detected_of_ended run.ordered hended
      obtain ⟨time, address⟩ := l
      subst htime
      rw [hdetected, ended, List.filterMap_cons_some hended, knownAfter_cons, Detection.lastKnown,
        ih, ended]

/-- The network that is known is that of the address that was found last. -/
theorem lastKnown_eq (h : Run refresh moves d) :
    d.lastKnown = (lastFound (ended moves)).map ofAddress := by
  rw [Detection.lastKnown, h.detected_eq, net_knownAfter]

/-- Before its last move, too, the order of turns was kept. -/
theorem ordered_before (h : Run refresh (m :: earlier) d) : m.before.Ordered := by
  cases h with
  | move _ run _ => exact run.ordered

/-- Whoever is told something is told the network of the address that was found last. -/
theorem net_eq_of_tells (h : Run refresh (m :: earlier) d) {net : Option Net.Network}
    (htells : m.Tells id net) : net = (lastFound (ended (m :: earlier))).map ofAddress := by
  rw [← h.lastKnown_eq]
  cases h with
  | move _ _ _ => exact m.effect.lastKnown_of_told htells.1 htells.2

/-- Whoever was told something was told it by some move. -/
theorem exists_tells (h : Run refresh moves d) {net : Option Net.Network}
    (hid : d.callers.find? id = some (.told net)) :
    ∃ later m earlier, moves = later ++ m :: earlier ∧ m.Tells id net := by
  induction h with
  | start => cases hid
  | @move moves m _ _ ih =>
    by_cases hbefore : m.before.callers.find? id = some (.told net)
    · obtain ⟨later, told, earlier, rfl, htells⟩ := ih hbefore
      exact ⟨m :: later, told, earlier, rfl, htells⟩
    · exact ⟨[], m, moves, rfl, hid, hbefore⟩

/-- What ended by some moves did so at their times. -/
theorem time_le_of_mem_ended {now : Nat} (hmoves : ∀ m ∈ moves, m.time ≤ now) {l : Ended}
    (hl : l ∈ ended moves) : l.time ≤ now := by
  obtain ⟨m, hm, hended⟩ := List.mem_filterMap.mp hl
  have htime : l.time = m.time := by
    unfold Move.ended? DetectionEvent.ended? at hended
    split at hended
    case h_1 => rw [← Option.some.inj hended]
    case h_2 => cases hended
  exact htime ▸ hmoves m hm

/-- Whoever begins to look up does so when it is due. -/
theorem due_of_starts (h : Run refresh (m :: earlier) d) (hstarts : m.Starts id) :
    Due refresh m.time (ended earlier) := by
  cases h with
  | move _ run htime =>
    obtain ⟨-, hstale⟩ := m.effect.of_looksUp hstarts.1 hstarts.2
    rw [← run.refresh_eq, ← Detection.usable_eq_none_iff run.detected_eq
      fun l hl => time_le_of_mem_ended htime hl]
    exact hstale

/-- After a caller has begun to look up, it looks up still, or its lookup has ended and what it came
to was usable then: `later` are the moves since, by which the caller did not go away and after whose
lookups, where the caller has made them, no time has passed. -/
private theorem none_starts_later (hrefresh : refresh ≠ some 0)
    (h : Run refresh (later ++ m :: earlier) d) (hstarts : m.Starts id)
    (hstays : ∀ next ∈ later, next.event ≠ .leave id)
    (hprompt : ∀ next ∈ later, ∀ address, next.event = .lookedUp id address →
      ∀ other ∈ later, other.time ≤ next.time) :
    (∀ next ∈ later, ∀ other, ¬next.Starts other) ∧
      (d.LooksUp id ∨ ∃ next ∈ later, (∃ address, next.event = .lookedUp id address) ∧
        (d.usable next.time).isSome = true) := by
  induction later generalizing d with
  | nil =>
    cases h with
    | move _ run _ => exact ⟨by simp, .inl hstarts.2⟩
  | cons last later ih =>
    cases h with
    | move _ run htime =>
      rw [List.forall_mem_cons] at hstays
      obtain ⟨hnone, hbefore⟩ := ih run hstays.2 fun next hnext address he other hother =>
        hprompt next (List.mem_cons_of_mem _ hnext) address he other (List.mem_cons_of_mem _ hother)
      rcases hbefore with hlooks | ⟨next, hnext, ⟨address, hevent⟩, husable⟩
      case inl =>
        refine ⟨List.forall_mem_cons.mpr ⟨fun other =>
          last.effect.not_starts_of_looksUp run.ordered hlooks, hnone⟩, ?_⟩
        have hrefresh' : last.before.refresh ≠ some 0 := run.refresh_eq ▸ hrefresh
        exact (last.effect.looksUp_or_usable hrefresh' hlooks hstays.1).imp_right
          fun hended => ⟨last, List.mem_cons_self, hended⟩
      case inr =>
        -- no time has passed since the lookup ended
        have hnow : last.time = next.time :=
          Nat.le_antisymm (hprompt next (List.mem_cons_of_mem _ hnext) address hevent last
            List.mem_cons_self) (htime next (List.mem_append_left _ hnext))
        rw [← hnow] at husable
        refine ⟨List.forall_mem_cons.mpr ⟨fun other =>
          last.effect.not_starts_of_usable husable, hnone⟩, .inr ?_⟩
        have hrefresh' : last.before.refresh ≠ some 0 := run.refresh_eq ▸ hrefresh
        exact ⟨next, List.mem_cons_of_mem _ hnext, ⟨address, hevent⟩,
          hnow ▸ last.effect.isSome_usable hrefresh' husable⟩

/-- **Lookups are collapsed and rate limited.**  One caller looks up at a time.  Whoever begins to
look up does so because nothing was looked up before, or what was found last is `refresh` old, or
the last lookup failed that long or a minute ago.  And a lookup that a caller has begun is the only
one for everybody who comes before it ends or as long as no time has passed since, unless that
caller goes away. -/
theorem lookups_collapse (hrefresh : refresh ≠ some 0) (h : Run refresh moves d) :
    (∀ first second, d.LooksUp first → d.LooksUp second → first = second) ∧
      (∀ later m earlier id, moves = later ++ m :: earlier → m.Starts id →
        Due refresh m.time (ended earlier)) ∧
      ∀ later m earlier id, moves = later ++ m :: earlier → m.Starts id →
        (∀ next ∈ later, next.event ≠ .leave id) →
        (∀ next ∈ later, ∀ address, next.event = .lookedUp id address →
          ∀ other ∈ later, other.time ≤ next.time) →
        ∀ next ∈ later, ∀ other, ¬next.Starts other := by
  refine ⟨fun _ _ => h.ordered.eq_of_looksUp, ?_, ?_⟩
  · rintro later m earlier id rfl hstarts
    exact h.split.1.due_of_starts hstarts
  · rintro later m earlier id rfl hstarts hstays hprompt
    exact (none_starts_later hrefresh h hstarts hstays hprompt).1

/-- Two callers, the second of whom comes while the first looks up. -/
theorem lookups_collapse_overlapping : ∃ later m earlier d,
    Run (some 3600000) (later ++ m :: earlier) d ∧ m.Starts 0 ∧
      d.callers.find? 1 = some (.told (some (ofAddress (.v4 ⟨0xCB007107⟩)))) ∧
      Due (some 3600000) m.time (ended earlier) ∧ ∀ next ∈ later, ∀ other, ¬next.Starts other := by
  generalize Net.Ip.v4 ⟨0xCB007107⟩ = address
  let before : Detection := ⟨some 3600000, none, some 0, ⟨[(0, .checking)]⟩⟩
  let during : Detection := ⟨some 3600000, none, some 0, ⟨[(0, .lookingUp none)]⟩⟩
  let net : Option Net.Network := some (ofAddress address)
  let after : Detection :=
    ⟨some 3600000, some ⟨net, 250, false⟩, none, ⟨[(1, .told net), (0, .told net)]⟩⟩
  let m : Move := ⟨20, .check 0, before, during, rfl⟩
  have hstarts : m.Starts 0 := ⟨nofun, none, rfl⟩
  have hfirst : (Detection.start (some 3600000)).play
      [(0, .arrive 0), (0, .look 0), (10, .begin 0)] = some before := rfl
  obtain ⟨earlier, hbefore, hmap⟩ := Run.of_play (by decide) hfirst
  have hearlier : ∀ other ∈ earlier, other.time ≤ 20 :=
    forall_of_play (P := fun x => x.1 ≤ 20) hmap (by simp)
  have hduring : Run (some 3600000) (m :: earlier) during := .move m hbefore hearlier
  let rest : List (Nat × DetectionEvent) := [(100, .arrive 1), (100, .look 1),
    (250, .lookedUp 0 (some address)), (250, .begin 1), (250, .check 1)]
  have hlater : ∀ other ∈ m :: earlier, ∀ x ∈ rest, other.time ≤ x.1 := by
    intro other hother x hx
    have htime : other.time ≤ 20 := by
      rcases List.mem_cons.mp hother with rfl | hother
      · exact Nat.le_refl 20
      · exact hearlier other hother
    have hrest : ∀ x ∈ rest, 20 ≤ x.1 := by simp [rest]
    exact Nat.le_trans htime (hrest x hx)
  have hsorted : (rest.map Prod.fst).Pairwise (· ≤ ·) := by simp [rest]
  have hrest : during.play rest = some after := rfl
  obtain ⟨later, hafter, hmap⟩ := hduring.append_play hsorted hlater hrest
  have hstays : ∀ next ∈ later, next.event ≠ .leave 0 :=
    forall_of_play (P := fun x => x.2 ≠ .leave 0) hmap (by simp [rest])
  have hend : ∀ next ∈ later, next.time ≤ 250 :=
    forall_of_play (P := fun x => x.1 ≤ 250) hmap (by simp [rest])
  have hlookedUp : ∀ next ∈ later, ∀ found, next.event = .lookedUp 0 found → 250 = next.time :=
    forall_of_play (P := fun x => ∀ found, x.2 = .lookedUp 0 found → 250 = x.1) hmap
      (by simp [rest])
  obtain ⟨-, hdue, hnone⟩ := lookups_collapse (by decide) hafter
  refine ⟨later, m, earlier, after, hafter, hstarts, rfl, hdue _ _ _ _ rfl hstarts, ?_⟩
  exact hnone _ _ _ _ rfl hstarts hstays fun next hnext found hfound other hother =>
    hlookedUp next hnext found hfound ▸ hend other hother

/-- **The network that was known last is never lost.**  Whoever is told something is told the
network of the address that the latest successful lookup has found, and nothing only if there was
none.  A lookup that fails changes nothing, and its caller is told what was known before.  And once
a caller was told a network, nobody is told nothing any longer. -/
theorem last_found_is_told (h : Run refresh moves d) :
    (∀ later m earlier id net, moves = later ++ m :: earlier → m.Tells id net →
      net = (lastFound (ended (m :: earlier))).map ofAddress ∧
        (net = none → ∀ l ∈ ended (m :: earlier), l.address = none)) ∧
      (∀ m ∈ moves, ∀ id, m.event = .lookedUp id none →
        m.after.lastKnown = m.before.lastKnown ∧ m.Tells id m.before.lastKnown) ∧
      ∀ later m earlier id net, moves = later ++ m :: earlier → m.Tells id (some net) →
        ∀ next ∈ later, ∀ other, ¬next.Tells other none := by
  refine ⟨?_, ?_, ?_⟩
  · rintro later m earlier id net rfl htells
    have hnet := h.split.1.net_eq_of_tells htells
    refine ⟨hnet, fun hnone => lastFound_eq_none_iff.mp ?_⟩
    rwa [hnone, eq_comm, Option.map_eq_none_iff] at hnet
  · intro m hm id hevent
    obtain ⟨later, earlier, rfl⟩ := List.append_of_mem hm
    obtain ⟨hknown, htold, previous, hlooks⟩ :=
      (hevent ▸ m.effect).of_failed h.split.1.ordered_before
    exact ⟨hknown, htold, by simp [hlooks]⟩
  · rintro later m earlier id net rfl htells next hnext other hnone
    obtain ⟨last, between, rfl⟩ := List.append_of_mem hnext
    have hfound := h.split.1.net_eq_of_tells htells
    rw [List.append_assoc, List.cons_append] at h
    have hlost := h.split.1.net_eq_of_tells hnone
    rw [eq_comm, Option.map_eq_none_iff, ← List.cons_append, ended_append] at hlost
    refine lastFound_append_ne_none (fun hlast => ?_) _ hlost
    rw [hlast] at hfound
    cases hfound

/-- A lookup finds an address, and the next one, when that has become too old, fails. -/
theorem last_found_is_told_after_failure : ∃ later m earlier d,
    Run (some 1000) (later ++ m :: earlier) d ∧
      (ended (later ++ m :: earlier)).map Ended.address = [none, some (.v4 ⟨0xCB007107⟩)] ∧
      m.Tells 1 (some (ofAddress (.v4 ⟨0xCB007107⟩))) ∧
      ∀ next ∈ later, ∀ other, ¬next.Tells other none := by
  generalize Net.Ip.v4 ⟨0xCB007107⟩ = address
  let events : List (Nat × DetectionEvent) := [(0, .arrive 0), (0, .look 0), (0, .begin 0),
    (0, .check 0), (5, .lookedUp 0 (some address)), (1005, .arrive 1), (1005, .look 1),
    (1005, .begin 1), (1005, .check 1), (1020, .lookedUp 1 none)]
  let net : Option Net.Network := some (ofAddress address)
  let after : Detection :=
    ⟨some 1000, some ⟨net, 1020, true⟩, none, ⟨[(1, .told net), (0, .told net)]⟩⟩
  have hsorted : (events.map Prod.fst).Pairwise (· ≤ ·) := by simp [events]
  have hplay : (Detection.start (some 1000)).play events = some after := rfl
  obtain ⟨moves, hrun, hmap⟩ := Run.of_play hsorted hplay
  have hended : (ended moves).map Ended.address = [none, some address] := by
    rw [ended_of_play hmap]
    rfl
  have hid : after.callers.find? 1 = some (.told net) := rfl
  obtain ⟨later, m, earlier, rfl, htells⟩ := hrun.exists_tells hid
  obtain ⟨-, -, hkept⟩ := last_found_is_told hrun
  exact ⟨later, m, earlier, after, hrun, hended, htells, hkept _ _ _ _ _ rfl htells⟩

end Run

end DohRelay.Subnet
