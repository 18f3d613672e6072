import DohRelay.Subnet.Detection

/-!
# What an event does to the detection of the network

The detection after an event is told by one case for each thing that can happen: which guard let it
happen, and what it changed.

## Main definitions

* `DetectionEvent.caller`, `DetectionPhase.hasTurn` — whose event it is, and who has a turn.
* `Detected.ofLookup` — what is known after a lookup.
* `Detection.Effect` — the cases.

## Main results

* `Detection.effect_of_step` — what an event does is one of the cases.
* `Detection.Effect.find?_callers` — only the caller of an event comes to another phase.
* `Detection.Effect.caller_before` — where a caller came from.
-/

namespace DohRelay.Subnet

open Cache (CallerId)

/-- The caller that an event of the detection belongs to. -/
def DetectionEvent.caller : DetectionEvent → CallerId
  | .arrive id | .look id | .begin id | .check id | .lookedUp id _ | .leave id => id

/-- A caller has a turn: it is about to look at what is known, or it looks up. -/
def DetectionPhase.hasTurn : DetectionPhase → Bool
  | .checking | .lookingUp _ => true
  | _ => false

/-- Whether a caller has come to an end. -/
def DetectionPhase.isOver : DetectionPhase → Bool
  | .told _ | .gone => true
  | _ => false

/-- What is known after a lookup that ended with an address, or failed, where `previous` was known
before it. -/
def Detected.ofLookup (previous : Option Net.Network) (now : Nat) : Option Net.Ip → Detected
  | some a => ⟨some (ofAddress a), now, false⟩
  | none => ⟨previous, now, true⟩

namespace Detection

theorem turn_endTurn (d : Detection) (id : CallerId) :
    (d.endTurn id).turn = if d.turn = some id then none else d.turn := by
  unfold endTurn
  split <;> simp_all

@[simp] theorem callers_endTurn (d : Detection) (id : CallerId) :
    (d.endTurn id).callers = d.callers := by
  unfold endTurn
  split <;> rfl

@[simp] theorem detected_endTurn (d : Detection) (id : CallerId) :
    (d.endTurn id).detected = d.detected := by
  unfold endTurn
  split <;> rfl

@[simp] theorem refresh_endTurn (d : Detection) (id : CallerId) :
    (d.endTurn id).refresh = d.refresh := by
  unfold endTurn
  split <;> rfl

section

variable (d : Detection) (id : CallerId) (p : DetectionPhase)

@[simp] theorem turn_setCaller : (d.setCaller id p).turn = d.turn := rfl
@[simp] theorem detected_setCaller : (d.setCaller id p).detected = d.detected := rfl
@[simp] theorem refresh_setCaller : (d.setCaller id p).refresh = d.refresh := rfl
@[simp] theorem callers_setCaller : (d.setCaller id p).callers = d.callers.insert id p := rfl

end

/-- What an event that happens at the time `now` makes of a detection. -/
inductive Effect (now : Nat) (d : Detection) : DetectionEvent → Detection → Prop
  /-- A caller comes. -/
  | arrive {id : CallerId} (fresh : d.callers.find? id = none) :
      Effect now d (.arrive id) (d.setCaller id .arrived)
  /-- A caller is told what is known. -/
  | tell {id : CallerId} {net : Option Net.Network} (caller : d.callers.find? id = some .arrived)
      (usable : d.usable now = some net) : Effect now d (.look id) (d.setCaller id (.told net))
  /-- A caller finds nothing usable and waits for a turn. -/
  | wait {id : CallerId} (caller : d.callers.find? id = some .arrived)
      (stale : d.usable now = none) : Effect now d (.look id) (d.setCaller id .queued)
  /-- It becomes the turn of a caller. -/
  | begin {id : CallerId} (caller : d.callers.find? id = some .queued) (free : d.turn = none) :
      Effect now d (.begin id) { d.setCaller id .checking with turn := some id }
  /-- A caller is told what came to be known while it waited. -/
  | tellLate {id : CallerId} {net : Option Net.Network}
      (caller : d.callers.find? id = some .checking) (usable : d.usable now = some net) :
      Effect now d (.check id) ((d.setCaller id (.told net)).endTurn id)
  /-- A caller begins to look up. -/
  | start {id : CallerId} (caller : d.callers.find? id = some .checking)
      (stale : d.usable now = none) :
      Effect now d (.check id) (d.setCaller id (.lookingUp d.lastKnown))
  /-- The lookup of a caller ends. -/
  | finish {id : CallerId} {previous : Option Net.Network} {address : Option Net.Ip}
      (caller : d.callers.find? id = some (.lookingUp previous)) :
      Effect now d (.lookedUp id address)
        (({ d with detected := some (.ofLookup previous now address) }.setCaller id
          (.told (Detected.ofLookup previous now address).net)).endTurn id)
  /-- A caller goes away. -/
  | leave {id : CallerId} {p : DetectionPhase} (caller : d.callers.find? id = some p)
      (waits : p.isOver = false) : Effect now d (.leave id) ((d.setCaller id .gone).endTurn id)

variable {d d' : Detection} {e : DetectionEvent} {now : Nat}

/-- **What an event does is one of the cases.** -/
theorem effect_of_step (h : d.step now e = some d') : Effect now d e d' := by
  cases e with
  | arrive id =>
    simp only [step, arrive] at h
    split at h
    case h_1 => cases h
    case h_2 hfresh => exact Option.some.inj h ▸ .arrive hfresh
  | look id =>
    simp only [step, look] at h
    split at h
    case h_2 => cases h
    case h_1 hc =>
      cases husable : d.usable now with
      | some net =>
        simp only [husable, Option.some.injEq] at h
        exact h ▸ .tell hc husable
      | none =>
        simp only [husable, Option.some.injEq] at h
        exact h ▸ .wait hc husable
  | begin id =>
    simp only [step, begin] at h
    split at h
    case h_2 => cases h
    case h_1 hc hturn => exact Option.some.inj h ▸ .begin hc hturn
  | check id =>
    simp only [step, check] at h
    split at h
    case h_2 => cases h
    case h_1 hc =>
      cases husable : d.usable now with
      | some net =>
        simp only [husable, Option.some.injEq] at h
        exact h ▸ .tellLate hc husable
      | none =>
        simp only [husable, Option.some.injEq] at h
        exact h ▸ .start hc husable
  | lookedUp id address =>
    simp only [step, lookedUp] at h
    split at h
    case h_2 => cases h
    case h_1 previous hc =>
      have hfinish : Effect now d (.lookedUp id address) _ := .finish hc
      cases address with
      | some a => exact Option.some.inj h ▸ hfinish
      | none => exact Option.some.inj h ▸ hfinish
  | leave id =>
    simp only [step, leave] at h
    split at h
    case h_4 p htold hgone hc =>
      refine Option.some.inj h ▸ .leave hc ?_
      cases p with
      | told net => exact absurd rfl (htold net)
      | gone => exact absurd rfl hgone
      | _ => rfl
    all_goals cases h

namespace Effect

/-- What is one of the cases can happen. -/
theorem step_eq (h : Effect now d e d') : d.step now e = some d' := by
  cases h with
  | arrive fresh => rw [step, Detection.arrive, fresh]
  | tell caller usable => simp only [step, look, caller, usable]
  | wait caller stale => simp only [step, look, caller, stale]
  | begin caller free => rw [step, Detection.begin, caller, free]
  | tellLate caller usable => simp only [step, check, caller, usable]
  | start caller stale => simp only [step, check, caller, stale]
  | @finish _ _ address caller =>
    rw [step, lookedUp, caller]
    cases address <;> rfl
  | @leave _ p caller waits =>
    rw [step, Detection.leave, caller]
    cases p with
    | told | gone => cases waits
    | _ => rfl

/-- Nothing changes after how long to look up again. -/
theorem refresh_eq (h : Effect now d e d') : d'.refresh = d.refresh := by
  cases h <;> simp

/-- The phase that an event brings its caller to; the other callers stay where they are. -/
theorem exists_callers (h : Effect now d e d') : ∃ p, d'.callers = d.callers.insert e.caller p := by
  cases h with
  | tellLate | finish | leave => exact ⟨_, callers_endTurn _ _⟩
  | _ => exact ⟨_, rfl⟩

/-- Only the caller of an event comes to another phase. -/
theorem find?_callers (h : Effect now d e d') {id : CallerId} (hne : id ≠ e.caller) :
    d'.callers.find? id = d.callers.find? id := by
  obtain ⟨p, hcallers⟩ := h.exists_callers
  rw [hcallers, Table.find?_insert_of_ne _ hne]

/-- Where a caller of the detection came from who has not just come: it was there, and waits only if
it did so before. -/
theorem caller_before (h : Effect now d e d') {id : CallerId} {p : DetectionPhase}
    (hp : d'.callers.find? id = some p) (he : e ≠ .arrive id) :
    ∃ q, d.callers.find? id = some q ∧ (p.isOver = false → q.isOver = false) := by
  by_cases hid : id = e.caller
  case neg => exact ⟨p, h.find?_callers hid ▸ hp, fun hover => hover⟩
  case pos =>
    subst hid
    cases h with
    | arrive => exact absurd rfl he
    | tell hc | wait hc | begin hc | tellLate hc | start hc | finish hc =>
      exact ⟨_, hc, fun _ => rfl⟩
    | leave hc waits => exact ⟨_, hc, fun _ => waits⟩

end Effect

end Detection

end DohRelay.Subnet
