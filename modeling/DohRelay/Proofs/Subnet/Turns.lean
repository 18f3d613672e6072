import DohRelay.Proofs.Subnet.Effect

/-!
# Turns come to an end

One caller at a time has the turn to look up.  Whoever has it can bring it to an end, if only by a
lookup that fails, and then it can be the turn of the next; so nobody need wait for ever.

## Main definitions

* `Detection.Held` — the turn is that of a caller who has one.
* `Detection.CanTell` — a caller can be told the network by what comes by itself.

## Main results

* `Detection.step_cases` — an event brings its caller to a phase, and may end or begin its turn.
* `Detection.Held.step` — the turn stays that of a caller who has one.
* `Detection.CanTell.of_waiting` — **whoever waits can be told the network.**
-/

namespace DohRelay.Subnet

open Cache (CallerId)

/-! ### Whose turn it is -/

/-- Whether an event of the detection comes by itself: nobody comes or goes, and a lookup may end,
but only by failing. -/
def DetectionEvent.isSpontaneous : DetectionEvent → Bool
  | .look _ | .begin _ | .check _ => true
  | .lookedUp _ address => address.isNone
  | .arrive _ | .leave _ => false

namespace Detection

/-- The turn is that of a caller who has one. -/
def Held (d : Detection) : Prop :=
  ∀ id, d.turn = some id → ∃ p, d.callers.find? id = some p ∧ p.hasTurn = true

/-- How an event leaves the turn, when its caller comes to a phase. -/
inductive TurnAfter (d : Detection) (id : CallerId) (p : DetectionPhase) : Option CallerId → Prop
  /-- The turn stays whose it was; a caller who had it still has it. -/
  | same (h : d.turn = some id → (∃ q, d.callers.find? id = some q ∧ q.hasTurn = true) →
      p.hasTurn = true) : TurnAfter d id p d.turn
  /-- The turn is over. -/
  | ended : TurnAfter d id p none
  /-- The turn is that of the caller. -/
  | begun (h : p.hasTurn = true) : TurnAfter d id p (some id)

/-- An event brings its caller to a phase, and may end or begin its turn. -/
theorem step_cases {d d' : Detection} {e : DetectionEvent} {now : Nat}
    (h : d.step now e = some d') : ∃ p, d'.callers = d.callers.insert e.caller p ∧
      (p = .gone → e = .leave e.caller) ∧ TurnAfter d e.caller p d'.turn := by
  have hidle {p q : DetectionPhase} {id : CallerId} (hq : d.callers.find? id = some q)
      (hturn : q.hasTurn = false) : TurnAfter d id p d.turn := by
    refine .same fun _ hhad => ?_
    obtain ⟨q', hq', hturn'⟩ := hhad
    rw [hq, Option.some.injEq] at hq'
    rw [← hq', hturn] at hturn'
    cases hturn'
  have hended {id : CallerId} {p : DetectionPhase} {t : Detection} (ht : t.turn = d.turn) :
      TurnAfter d id p (t.endTurn id).turn := by
    rw [turn_endTurn, ht]
    split
    case isTrue => exact .ended
    case isFalse hother => exact .same fun hturn => absurd hturn hother
  cases effect_of_step h with
  | arrive fresh =>
    refine ⟨.arrived, rfl, nofun, .same fun _ hhad => ?_⟩
    obtain ⟨q, hq, -⟩ := hhad
    rw [DetectionEvent.caller, fresh] at hq
    cases hq
  | tell hc | wait hc => exact ⟨_, rfl, nofun, hidle hc rfl⟩
  | begin => exact ⟨.checking, rfl, nofun, .begun rfl⟩
  | start => exact ⟨_, rfl, nofun, .same fun _ _ => rfl⟩
  | tellLate | finish => exact ⟨.told _, callers_endTurn _ _, nofun, hended rfl⟩
  | leave => exact ⟨.gone, callers_endTurn _ _, fun _ => rfl, hended rfl⟩

/-- The turn stays that of a caller who has one. -/
theorem Held.step {d d' : Detection} (h : d.Held) (now : Nat) {e : DetectionEvent}
    (hstep : d.step now e = some d') : d'.Held := by
  obtain ⟨p, hcallers, -, hturn⟩ := step_cases hstep
  intro id hid
  rw [hcallers, Table.find?_insert]
  generalize d'.turn = turn at hturn hid
  cases hturn with
  | same hsame =>
    split
    case isTrue hcaller =>
      subst hcaller
      exact ⟨p, rfl, hsame hid (h _ hid)⟩
    case isFalse => exact h id hid
  | ended => cases hid
  | begun hhas =>
    cases hid
    rw [if_pos rfl]
    exact ⟨p, rfl, hhas⟩

/-- A caller stays unless it goes away itself. -/
theorem exists_of_step {d d' : Detection} {e : DetectionEvent} {now : Nat}
    (hstep : d.step now e = some d') {id : CallerId} (hne : e ≠ .leave id) {p : DetectionPhase}
    (hp : d.callers.find? id = some p) (hgone : p ≠ .gone) :
    ∃ q, d'.callers.find? id = some q ∧ q ≠ .gone := by
  obtain ⟨q, hcallers, hq, -⟩ := step_cases hstep
  rw [hcallers, Table.find?_insert]
  split
  case isTrue hcaller =>
    subst hcaller
    exact ⟨q, rfl, fun h => hne (hq h)⟩
  case isFalse => exact ⟨p, hp, hgone⟩

/-- A caller can be told the network by events that come by themselves. -/
inductive CanTell (now : Nat) (id : CallerId) : Detection → Prop
  /-- It is told. -/
  | told {d : Detection} {net : Option Net.Network}
    (h : d.callers.find? id = some (.told net)) : CanTell now id d
  /-- It can be told after one more event. -/
  | step {d d' : Detection} {e : DetectionEvent} (hspontaneous : e.isSpontaneous = true)
    (hstep : d.step now e = some d') (h : CanTell now id d') : CanTell now id d

namespace CanTell

variable {now : Nat} {id i : CallerId} {d : Detection}

/-- Who is told the network at the end of its turn is told it. -/
theorem of_told (d : Detection) (net : Option Net.Network) :
    CanTell now id ((d.setCaller id (.told net)).endTurn id) := by
  have htold : ((d.setCaller id (.told net)).endTurn id).callers.find? id = some (.told net) := by
    rw [callers_endTurn]
    exact Table.find?_insert_self ..
  exact .told htold

/-- A lookup ends, if only by failing. -/
theorem of_lookingUp {previous : Option Net.Network}
    (hid : d.callers.find? id = some (.lookingUp previous)) : d.CanTell now id :=
  .step (e := .lookedUp id none) rfl (by rw [Detection.step, lookedUp, hid]) (of_told _ _)

/-- A caller whose turn it is is told what is known, or looks up. -/
theorem of_checking (hid : d.callers.find? id = some .checking) : d.CanTell now id := by
  refine .step (e := .check id) rfl (by rw [Detection.step, check, hid]) ?_
  split
  case h_1 => exact of_told d _
  case h_2 => exact of_lookingUp (Table.find?_insert_self ..)

/-- A caller begins its turn where nobody else has one. -/
theorem of_free (hid : d.callers.find? id = some .queued) (hturn : d.turn = none) :
    d.CanTell now id := by
  refine .step (e := .begin id) rfl (by rw [Detection.step, begin, hid, hturn]) ?_
  exact of_checking (Table.find?_insert_self ..)

/-- So does a caller who waits for another one, when the turn of the other ends. -/
theorem of_endTurn (hid : d.callers.find? id = some .queued) (hturn : d.turn = some i)
    (hne : id ≠ i) (p : DetectionPhase) (known : Option Detected) :
    CanTell now id (({ d with detected := known }.setCaller i p).endTurn i) := by
  refine of_free ?_ ?_
  · rw [callers_endTurn]
    exact (Table.find?_insert_of_ne _ hne _).trans hid
  · rw [turn_endTurn]
    exact if_pos hturn

/-- The turn of another caller ends when its lookup ends. -/
theorem of_other_lookingUp (hid : d.callers.find? id = some .queued) (hturn : d.turn = some i)
    (hne : id ≠ i) {previous : Option Net.Network}
    (hi : d.callers.find? i = some (.lookingUp previous)) : d.CanTell now id :=
  .step (e := .lookedUp i none) rfl (by rw [Detection.step, lookedUp, hi])
    (of_endTurn hid hturn hne _ _)

/-- A caller who waits for its turn comes to have it. -/
theorem of_queued (hheld : d.Held) (hid : d.callers.find? id = some .queued) :
    d.CanTell now id := by
  cases hturn : d.turn with
  | none => exact of_free hid hturn
  | some i =>
    obtain ⟨q, hi, hq⟩ := hheld i hturn
    have hne : id ≠ i := by
      rintro rfl
      rw [hid] at hi
      cases hi
      cases hq
    cases q with
    | lookingUp previous => exact of_other_lookingUp hid hturn hne hi
    | checking =>
      refine .step (e := .check i) rfl (by rw [Detection.step, check, hi]) ?_
      split
      case h_1 => exact of_endTurn hid hturn hne _ d.detected
      case h_2 =>
        exact of_other_lookingUp ((Table.find?_insert_of_ne _ hne _).trans hid) hturn hne
          (Table.find?_insert_self ..)
    | _ => cases hq

/-- **Whoever waits can be told the network**: the turn of another caller comes to an end, and so
does the caller's own. -/
theorem of_waiting (hheld : d.Held) {p : DetectionPhase} (hp : d.callers.find? id = some p)
    (hgone : p ≠ .gone) : d.CanTell now id := by
  cases p with
  | arrived =>
    cases husable : d.usable now with
    | some net =>
      have hlook : d.step now (.look id) = some (d.setCaller id (.told net)) := by
        simp only [Detection.step, look, hp, husable]
      exact .step rfl hlook (.told (Table.find?_insert_self ..))
    | none =>
      have hlook : d.step now (.look id) = some (d.setCaller id .queued) := by
        simp only [Detection.step, look, hp, husable]
      exact .step rfl hlook (of_queued (hheld.step now hlook) (Table.find?_insert_self ..))
  | queued => exact of_queued hheld hp
  | checking => exact of_checking hp
  | lookingUp => exact of_lookingUp hp
  | told => exact .told hp
  | gone => exact absurd rfl hgone

end CanTell

end Detection

end DohRelay.Subnet
