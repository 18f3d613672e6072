import DohRelay.Proofs.Cache.SingleFlight

/-!
# Every fetch has a starter

Whether a cache is switched on or off, a fetch goes by the name of the caller who started it, and
whoever has started a fetch shows that for ever: it waits for the fetch, or was told of it, or of
its failure, or went away.

## Main definitions

* `State.Begun` — every fetch was started by the caller of its name.

## Main results

* `Turn.hasStarted` — who has started a fetch always has.
* `State.Begun.effect` — every event keeps fetches with those who started them.
-/

namespace DohRelay.Cache

/-- Whoever has started a fetch has done so whatever happens to it. -/
theorem Turn.hasStarted {s : State} {id : CallerId} {key : Fingerprint} {e : Event}
    {p q : CallerPhase} (h : Turn s id key e p q) (hp : p.hasStarted id = true) :
    q.hasStarted id = true := by
  cases h with
  | @take fetch outcome f result =>
    cases outcome with
    | fetched => cases result <;> rfl
    | hit | joined => cases hp
  | despair | leave => rfl
  | _ => cases hp

/-- A caller of some name has started a fetch. -/
def State.HasStarted (s : State) (id : CallerId) : Prop :=
  ∃ c, s.callers.find? id = some c ∧ c.phase.hasStarted id = true

/-- Every fetch was started by the caller of its name. -/
def State.Begun (s : State) : Prop :=
  ∀ id f, s.fetches.find? id = some f → s.HasStarted id

namespace Effect

variable {now : Nat} {s s' : State} {e : Event} {id : CallerId}

/-- Who has started a fetch always has. -/
theorem hasStarted (h : Effect now s e s') (hs : s.HasStarted id) : s'.HasStarted id := by
  obtain ⟨c, hc, hstarted⟩ := hs
  obtain ⟨p, hp, hstays | hturn⟩ := h.caller_before hc
  · exact ⟨_, hp, hstays ▸ hstarted⟩
  · exact ⟨_, hp, hturn.hasStarted hstarted⟩

/-- A fetch was there before, or the caller of its name has just started it. -/
theorem fetch_or_hasStarted (h : Effect now s e s') {f : Fetch}
    (hf : s'.fetches.find? id = some f) :
    (∃ g, s.fetches.find? id = some g) ∨ s'.HasStarted id := by
  have hset {i : CallerId} {g : Fetch} {p : FetchPhase} {t : State}
      (hg : s.fetches.find? i = some g) (ht : t.fetches = s.fetches)
      (hf : (t.setFetch i g p).fetches.find? id = some f) :
      (∃ g, s.fetches.find? id = some g) ∨ s'.HasStarted id := by
    rcases Table.find?_insert_eq_some.mp hf with ⟨rfl, -⟩ | ⟨-, hf⟩
    · exact .inl ⟨g, hg⟩
    · exact .inl ⟨f, ht ▸ hf⟩
  have hstart {i : CallerId} {c : Caller} {t : State} (ht : t.fetches = s.fetches)
      (hf : (t.startFetch i c now).fetches.find? id = some f) :
      (∃ g, s.fetches.find? id = some g) ∨ (t.startFetch i c now).HasStarted id := by
    rcases Table.find?_insert_eq_some.mp hf with ⟨rfl, -⟩ | ⟨-, hf⟩
    · refine .inr ⟨{ c with phase := .waiting id .fetched }, ?_, decide_eq_true rfl⟩
      rw [State.find?_callers_startFetch, if_pos rfl]
    · exact .inl ⟨f, ht ▸ hf⟩
  cases h with
  | bypass | start => exact hstart rfl hf
  | leaveOff => exact .inl ⟨f, (Table.find?_erase_eq_some.mp hf).2⟩
  | complete hg | expire hg | crash hg | keep hg | pass hg | release hg => exact hset hg rfl hf
  | _ => exact .inl ⟨f, hf⟩

end Effect

/-- **Every event keeps fetches with those who started them.** -/
theorem State.Begun.effect {now : Nat} {s s' : State} {e : Event} (hs : s.Begun)
    (h : Effect now s e s') : s'.Begun := by
  intro id f hf
  rcases h.fetch_or_hasStarted hf with ⟨g, hg⟩ | hstarted
  · exact h.hasStarted (hs id g hg)
  · exact hstarted

/-- A fetch that goes on was started by the caller of its name. -/
theorem State.Begun.of_isRunning {s : State} (hs : s.Begun) {id : CallerId}
    (h : s.isRunning id = true) : s.HasStarted id := by
  unfold isRunning at h
  cases hf : s.fetches.find? id with
  | none => simp [hf] at h
  | some f => exact hs id f hf

end DohRelay.Cache
