import DohRelay.Proofs.Cache.Provenance

/-!
# Results and the keys they are under

A fetch is known by the name of the caller who started it, and so are its marker and those who wait
for it.  Callers keep what they asked for, so whatever is known by one name is under one key.
Hence nothing comes to a caller, or into the store, that did not come from a fetch under the same
key; and what holds of every result that a fetch comes to, and of its key, holds of every result in
the cache.

## Main definitions

* `Event.result?` — the result that an event brings a fetch to.
* `State.Named` — names belong to keys.
* `State.HoldsUnder` — something holds of every result in a cache and the key it is under.

## Main results

* `Effect.named` — no event brings names and keys apart.
* `Effect.holdsUnder` — **no event makes a result, or moves one from key to key**, other than one
  that brings a fetch to it.
-/

namespace DohRelay.Cache

/-- What those who wait for a fetch are told, once they are told. -/
def FetchPhase.outcome? : FetchPhase → Option FetchResult
  | .running => none
  | .ended result | .stored result | .released result => some result
  | .crashed => some (.error (.exchange crashMessage))

/-- The result that an event brings a fetch to. -/
def Event.result? : Event → Option (CallerId × FetchResult)
  | .complete id result => some (id, result)
  | .expire id => some (id, .error .timeout)
  | .crash id => some (id, .error (.exchange crashMessage))
  | _ => none

/-! ### Names and keys -/

/-- A name is that of a caller who asked for a key. -/
def State.Asks (s : State) (id : CallerId) (key : Fingerprint) : Prop :=
  ∃ c, s.callers.find? id = some c ∧ c.key = key

/-- What is known by a name is under the key that the caller of the name asked for. -/
structure State.Named (s : State) : Prop where
  /-- Fetches are, -/
  fetches : ∀ id f, s.fetches.find? id = some f → s.Asks id f.key
  /-- and markers, -/
  markers : ∀ key fetch, s.markers.find? key = some fetch → s.Asks fetch key
  /-- and those who wait for a fetch asked for its key. -/
  waiting : ∀ id c fetch outcome, s.callers.find? id = some c → c.phase = .waiting fetch outcome →
    s.Asks fetch c.key

theorem State.Asks.unique {s : State} {id : CallerId} {key other : Fingerprint}
    (h : s.Asks id key) (h' : s.Asks id other) : key = other := by
  obtain ⟨c, hc, rfl⟩ := h
  obtain ⟨d, hd, rfl⟩ := h'
  rw [hc, Option.some.injEq] at hd
  rw [hd]

namespace Effect

variable {now : Nat} {s s' : State} {e : Event}

/-- Callers keep what they asked for. -/
theorem asks (he : Effect now s e s') {id : CallerId} {key : Fingerprint} (h : s.Asks id key) :
    s'.Asks id key := by
  obtain ⟨c, hc, hkey⟩ := h
  obtain ⟨p, hc', -⟩ := he.caller_before hc
  exact ⟨_, hc', hkey⟩

/-- Where a marker came from: it was there, or a caller who asked for its key left it. -/
theorem marker_after (he : Effect now s e s') {key : Fingerprint} {fetch : CallerId}
    (hm : s'.markers.find? key = some fetch) :
    s.markers.find? key = some fetch ∨ s.Asks fetch key := by
  have hstart {i : CallerId} {c : Caller} {t : State} (hc : s.callers.find? i = some c)
      (ht : t.markers = s.markers) (hm : (t.startFetch i c now).markers.find? key = some fetch) :
      s.markers.find? key = some fetch ∨ s.Asks fetch key := by
    have hmarkers : (t.startFetch i c now).markers =
        if t.enabled then t.markers.insert c.key i else t.markers := rfl
    rw [hmarkers, ht] at hm
    split at hm
    case isTrue =>
      rcases Table.find?_insert_eq_some.mp hm with ⟨rfl, rfl⟩ | ⟨-, hm⟩
      · exact .inr ⟨c, hc, rfl⟩
      · exact .inl hm
    case isFalse => exact .inl hm
  cases he with
  | bypass hc | start hc => exact hstart hc rfl hm
  | release => exact .inl (Table.find?_erase_eq_some.mp hm).2
  | _ => exact .inl hm

/-- **No event brings names and keys apart.** -/
theorem named (he : Effect now s e s') (h : s.Named) : s'.Named where
  fetches id f hf := by
    obtain ⟨g, hg, hkey⟩ | hasks := he.key_of_fetch hf
    · exact hkey ▸ he.asks (h.fetches id g hg)
    · exact he.asks hasks
  markers key fetch hm := by
    obtain hm | hasks := he.marker_after hm
    · exact he.asks (h.markers key fetch hm)
    · exact he.asks hasks
  waiting id c fetch outcome hc hp := by
    obtain hc | harrived | ⟨d, hd, hc', hgo⟩ := he.caller_after hc
    · exact he.asks (h.waiting id c fetch outcome hc hp)
    · rw [harrived] at hp
      cases hp
    · have hkey : c.key = d.key := by rw [hc']
      rw [hp] at hgo
      rw [hkey]
      generalize hwait : CallerPhase.waiting fetch outcome = p at hgo
      generalize d.phase = before at hgo
      -- who comes to wait does so for the marked fetch or for its own
      cases hgo with
      | join hm =>
        cases hwait
        exact he.asks (h.markers _ _ hm)
      | bypass | start =>
        cases hwait
        exact he.asks ⟨d, hd, rfl⟩
      | miss want | drop _ want => cases want <;> cases hwait
      | @take _ _ _ result => cases result <;> cases hwait
      | _ => cases hwait

end Effect

theorem State.Named.start (enabled : Bool) (timeout : Nat) : (State.start enabled timeout).Named :=
  ⟨fun _ _ hf => by simp [State.start] at hf, fun _ _ hm => by simp [State.start] at hm,
    fun _ _ _ _ hc => by simp [State.start] at hc⟩

/-! ### Results -/

/-- Something holds of every result in a cache and the key it is under. -/
structure State.HoldsUnder (P : Fingerprint → FetchResult → Prop) (s : State) : Prop where
  /-- It holds of the answers that are stored. -/
  entries : ∀ key e, s.entries.find? key = some e → P key (.ok e.answer)
  /-- It holds of what fetches came to. -/
  fetches : ∀ id f result, s.fetches.find? id = some f → f.phase.outcome? = some result →
    P f.key result
  /-- It holds of what callers were told. -/
  callers : ∀ id c outcome result, s.callers.find? id = some c →
    c.phase = .served outcome result → P c.key result

namespace State.HoldsUnder

variable {P : Fingerprint → FetchResult → Prop} {s : State} {id : CallerId}

theorem start (enabled : Bool) (timeout : Nat) : (State.start enabled timeout).HoldsUnder P :=
  ⟨fun _ _ he => by simp [State.start] at he, fun _ _ _ hf => by simp [State.start] at hf,
    fun _ _ _ _ hc => by simp [State.start] at hc⟩

/-- A caller comes to a phase. -/
theorem setCaller (h : s.HoldsUnder P) {c : Caller} {p : CallerPhase}
    (hp : ∀ outcome result, p = .served outcome result → P c.key result) :
    (s.setCaller id c p).HoldsUnder P where
  entries := h.entries
  fetches := h.fetches
  callers i d outcome result hd hphase := by
    rcases Table.find?_insert_eq_some.mp hd with ⟨-, rfl⟩ | ⟨-, hd⟩
    · exact hp outcome result hphase
    · exact h.callers i d outcome result hd hphase

/-- A fetch comes to a phase. -/
theorem setFetch (h : s.HoldsUnder P) {f : Fetch} {p : FetchPhase}
    (hp : ∀ result, p.outcome? = some result → P f.key result) :
    (s.setFetch id f p).HoldsUnder P where
  entries := h.entries
  fetches i g result hg hresult := by
    rcases Table.find?_insert_eq_some.mp hg with ⟨-, rfl⟩ | ⟨-, hg⟩
    · exact hp result hresult
    · exact h.fetches i g result hg hresult
  callers := h.callers

/-- A fetch is started, which has come to nothing yet. -/
theorem startFetch (h : s.HoldsUnder P) (c : Caller) (now : Nat) :
    (s.startFetch id c now).HoldsUnder P where
  entries := h.entries
  fetches i f result hf hresult := by
    rcases Table.find?_insert_eq_some.mp hf with ⟨-, rfl⟩ | ⟨-, hf⟩
    · cases hresult
    · exact h.fetches i f result hf hresult
  callers i d outcome result hd hphase := by
    rcases Table.find?_insert_eq_some.mp hd with ⟨-, rfl⟩ | ⟨-, hd⟩
    · cases result <;> cases hphase
    · exact h.callers i d outcome result hd hphase

/-- The stored answers become others. -/
theorem setEntries (h : s.HoldsUnder P) {entries : Entries}
    (hentries : ∀ key e, entries.find? key = some e → P key (.ok e.answer)) :
    { s with entries }.HoldsUnder P :=
  ⟨hentries, h.fetches, h.callers⟩

/-- An answer is dropped. -/
theorem drop (h : s.HoldsUnder P) (key : Fingerprint) (time : Nat) :
    { s with entries := s.entries.drop key time }.HoldsUnder P :=
  h.setEntries fun k e he => h.entries k e (Entries.find?_of_drop he)

end State.HoldsUnder

theorem missPhase_ne_served (want : Want) (outcome : Outcome) (result : FetchResult) :
    State.missPhase want ≠ .served outcome result := by
  cases want <;> cases result <;> simp [State.missPhase, CallerPhase.served]

/-- **No event makes a result, or moves one from key to key**, other than one that brings a fetch to
it. -/
theorem Effect.holdsUnder {now : Nat} {s s' : State} {e : Event} (he : Effect now s e s')
    {P : Fingerprint → FetchResult → Prop} (hnamed : s.Named) (h : s.HoldsUnder P)
    (hnew : ∀ id f result, s.fetches.find? id = some f → f.phase = .running →
      e.result? = some (id, result) → P f.key result) : s'.HoldsUnder P := by
  -- a caller who takes a result asked for the key of the fetch it waited for
  have htake {id fetch : CallerId} {c : Caller} {outcome : Outcome} {f : Fetch}
      {result : FetchResult} (hc : s.callers.find? id = some c)
      (hp : c.phase = .waiting fetch outcome) (hf : s.fetches.find? fetch = some f)
      (hresult : f.phase.outcome? = some result) : P c.key result := by
    have hkey := (hnamed.fetches fetch f hf).unique (hnamed.waiting id c fetch outcome hc hp)
    exact hkey ▸ h.fetches fetch f result hf hresult
  cases he with
  | arrive fresh =>
    refine ⟨h.entries, h.fetches, fun i c outcome result hc hp => ?_⟩
    rcases Table.find?_insert_eq_some.mp hc with ⟨-, rfl⟩ | ⟨-, hc⟩
    · cases result <;> cases hp
    · exact h.callers i c outcome result hc hp
  | hit _ _ _ hentry | lateHit _ _ _ hentry =>
    refine h.setCaller fun outcome result hp => ?_
    cases result <;> cases hp
    exact h.entries _ _ hentry
  | stale | refuse | join | leave =>
    exact h.setCaller fun outcome result hp => by cases result <;> cases hp
  | miss => exact h.setCaller fun outcome result hp => absurd hp (missPhase_ne_served _ _ _)
  | bypass => exact h.startFetch _ now
  | drop =>
    exact (h.drop _ _).setCaller fun outcome result hp => absurd hp (missPhase_ne_served _ _ _)
  | start => exact (h.drop _ _).startFetch _ now
  | takeAnswer hc hp hf hresult =>
    refine h.setCaller fun outcome result hp' => ?_
    cases result <;> cases hp'
    exact htake hc hp hf (by rw [hresult]; rfl)
  | takeError hc hp hf hresult =>
    refine h.setCaller fun outcome result hp' => ?_
    cases result <;> cases hp'
    refine htake hc hp hf ?_
    obtain hresult | ⟨hresult, rfl⟩ := hresult
    · rw [hresult]
      rfl
    · rw [hresult]
      rfl
  | @leaveOff id c hc hp hoff =>
    have hset : (s.setCaller id c .gone).HoldsUnder P :=
      h.setCaller fun outcome result hp => by cases result <;> cases hp
    exact ⟨hset.entries, fun i f result hf => hset.fetches i f result
      (Table.find?_erase_eq_some.mp hf).2, hset.callers⟩
  | @complete id f result hf hp | @expire id f hf hp _ | @crash id f hf hp =>
    refine h.setFetch fun result' hresult => hnew id f result' hf hp ?_
    cases hresult
    rfl
  | @keep id f answer ttl hf hp =>
    have hanswer : P f.key (.ok answer) := h.fetches id f _ hf (by rw [hp]; rfl)
    refine (h.setEntries fun key entry hentry => ?_).setFetch fun result hresult => ?_
    · rcases Table.find?_insert_eq_some.mp hentry with ⟨rfl, rfl⟩ | ⟨-, hentry⟩
      · exact hanswer
      · exact h.entries key entry hentry
    · cases hresult
      exact hanswer
  | @pass id f result hf hp =>
    exact h.setFetch fun result' hresult => h.fetches id f result' hf (by rw [hp]; exact hresult)
  | @release id f result hf hp =>
    have hmarkers : { s with markers := s.markers.erase f.key }.HoldsUnder P :=
      ⟨h.entries, h.fetches, h.callers⟩
    exact hmarkers.setFetch fun result' hresult =>
      h.fetches id f result' hf (by rw [hp]; exact hresult)

end DohRelay.Cache
