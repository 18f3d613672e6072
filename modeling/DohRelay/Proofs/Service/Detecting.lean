import DohRelay.Proofs.Service.Run
import DohRelay.Proofs.Subnet.Lookups

/-!
# The service as a user of the detection

Whatever happens to the service, what happens to its detection of the network is a run of the
detection, so that what is known of those runs holds of every service: one client looks up at a
time, and a client goes on with the network that was found last.

## Main results

* `Effect.detection_before` — where a caller of the detection came from.
* `Run.exists_detection` — **a run of the service contains one of the detection.**
* `Run.eq_of_looksUp` — one client looks up at a time.
* `Run.located_eq` — a client goes on with the network that was found last when it was told.
-/

namespace DohRelay.Service

open Cache (CallerId)

namespace Effect

variable {s s' : State} {e : Event}

/-- Time does not run backwards. -/
theorem now_le (h : Effect s e s') : s.now ≤ s'.now := by
  cases h with
  | tick millis => exact Nat.le_add_right s.now millis
  | _ => exact Nat.le_refl s.now

/-- At most one thing happens to the detection. -/
theorem detection_eq_or_step (h : Effect s e s') :
    s'.detection = s.detection ∨ ∃ e', s.detection.step s.now e' = some s'.detection := by
  cases h with
  | enroll _ _ _ hdetection =>
    exact hdetection.imp_right fun ⟨_, _, harrive⟩ => ⟨.arrive _, harrive⟩
  | detect _ hstep => exact .inr ⟨_, hstep⟩
  | @leave id =>
    change (s.detection.leave id).getD s.detection = s.detection ∨
      ∃ e', s.detection.step s.now e' = some ((s.detection.leave id).getD s.detection)
    cases hleave : s.detection.leave id with
    | none => exact .inl rfl
    | some detection => exact .inr ⟨.leave id, hleave⟩
  | _ => exact .inl rfl

/-- Where a caller of the detection came from: a client has just come who has to be told the
network, or the caller was there, and waits only if it did so before. -/
theorem detection_before (h : Effect s e s') {id : CallerId} {p : Subnet.DetectionPhase}
    (hp : s'.detection.callers.find? id = some p) :
    (s.detects = true ∧ ∃ input query question, e.input? = some (id, input) ∧
        input.decode = .ok query ∧ s.firstStage query = .locating query question) ∨
      ∃ q, s.detection.callers.find? id = some q ∧ (p.isOver = false → q.isOver = false) := by
  have hsame (hp : s.detection.callers.find? id = some p) :
      ∃ q, s.detection.callers.find? id = some q ∧ (p.isOver = false → q.isOver = false) :=
    ⟨p, hp, fun hover => hover⟩
  cases h with
  | @enroll e i input query detection hinput hquery _ hdetection =>
    rcases hdetection with rfl | ⟨hdetects, ⟨question, hstage⟩, harrive⟩
    · exact .inr (hsame hp)
    · by_cases hid : id = i
      · subst hid
        exact .inl ⟨hdetects, input, query, question, hinput, hquery, hstage⟩
      · have heffect : s.detection.Effect s.now (.arrive i) detection :=
          Subnet.Detection.effect_of_step harrive
        exact .inr (heffect.caller_before hp fun heq =>
          hid (Subnet.DetectionEvent.arrive.inj heq).symm)
  | detect own hstep =>
    refine .inr ((Subnet.Detection.effect_of_step hstep).caller_before hp ?_)
    rintro rfl
    cases own
  | @leave i =>
    change ((s.detection.leave i).getD s.detection).callers.find? id = some p at hp
    cases hleave : s.detection.leave i with
    | none => exact .inr (hsame (by rwa [hleave] at hp))
    | some d =>
      rw [hleave] at hp
      have heffect : s.detection.Effect s.now (.leave i) d :=
        Subnet.Detection.effect_of_step hleave
      exact .inr (heffect.caller_before hp nofun)
  | _ => exact .inr (hsame hp)

end Effect

namespace Run

variable {config : Config} {fetchTimeout : Nat} {moves : List Move} {s : State} {id : CallerId}

/-- **A run of the service contains one of the detection.** -/
theorem exists_detection (h : Run config fetchTimeout moves s) :
    ∃ lookups, Subnet.Run (State.start config fetchTimeout).detection.refresh lookups s.detection ∧
      ∀ m ∈ lookups, m.time ≤ s.now := by
  induction h with
  | start => exact ⟨[], .start, by simp⟩
  | move m _ ih =>
    obtain ⟨lookups, hrun, htime⟩ := ih
    rcases m.effect.detection_eq_or_step with hsame | ⟨e, hstep⟩
    · exact ⟨lookups, hsame ▸ hrun, fun l hl => Nat.le_trans (htime l hl) m.effect.now_le⟩
    · let next : Subnet.Move := ⟨m.before.now, e, _, _, hstep⟩
      refine ⟨next :: lookups, .move next hrun htime, ?_⟩
      refine List.forall_mem_cons.mpr ⟨m.effect.now_le, fun l hl => ?_⟩
      exact Nat.le_trans (htime l hl) m.effect.now_le

/-- One client looks up at a time. -/
theorem eq_of_looksUp (h : Run config fetchTimeout moves s) {other : CallerId}
    (hid : s.detection.LooksUp id) (hother : s.detection.LooksUp other) : id = other := by
  obtain ⟨lookups, hrun, -⟩ := h.exists_detection
  exact hrun.ordered.eq_of_looksUp hid hother

/-- A client goes on with the network of the address that had been found last when it was told. -/
theorem located_eq (h : Run config fetchTimeout moves s) (hdetects : s.detects = true)
    {net : Option Net.Network} (hnet : s.located id = some net) :
    ∃ later m earlier, Subnet.Run (State.start config fetchTimeout).detection.refresh
        (later ++ m :: earlier) s.detection ∧ m.Tells id net ∧
      net = (Subnet.lastFound (Subnet.ended (m :: earlier))).map Subnet.ofAddress := by
  obtain ⟨lookups, hrun, -⟩ := h.exists_detection
  have htold : s.detection.callers.find? id = some (.told net) := by
    unfold State.located at hnet
    split at hnet
    case h_1 hsubnet => simp [State.detects, hsubnet] at hdetects
    case h_2 hsubnet => simp [State.detects, hsubnet] at hdetects
    case h_3 =>
      split at hnet
      case h_1 htold => rw [htold, Option.some.inj hnet]
      case h_2 => cases hnet
  obtain ⟨later, m, earlier, rfl, htells⟩ := hrun.exists_tells htold
  exact ⟨later, m, earlier, hrun, htells, hrun.split.1.net_eq_of_tells htells⟩

end Run

end DohRelay.Service
