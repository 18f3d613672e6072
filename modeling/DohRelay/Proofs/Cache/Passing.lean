import DohRelay.Proofs.Cache.Provenance

/-!
# What the cache passes on

The cache makes no answers.  Whatever holds of every answer that a fetch comes to holds of every
answer in the cache: of those stored, of those on their way, and of those that callers were given.

## Main definitions

* `State.Holds` — something holds of every answer in a cache.

## Main results

* `Effect.holds` — **no event makes an answer, other than a fetch that comes to it.**
-/

namespace DohRelay.Cache

/-- Something holds of every answer in a cache. -/
structure State.Holds (P : Dns.Message → Prop) (s : State) : Prop where
  /-- It holds of those stored. -/
  entries : ∀ key e, s.entries.find? key = some e → P e.answer
  /-- It holds of those that fetches came to. -/
  fetches : ∀ id f answer, s.fetches.find? id = some f →
    f.phase.result? = some (.ok answer) → P answer
  /-- It holds of those that callers were given. -/
  callers : ∀ id c answer outcome, s.callers.find? id = some c →
    c.phase = .answered answer outcome → P answer

namespace State.Holds

variable {P Q : Dns.Message → Prop} {s : State} {id : CallerId}

theorem mono (h : s.Holds P) (hPQ : ∀ answer, P answer → Q answer) : s.Holds Q where
  entries key e he := hPQ _ (h.entries key e he)
  fetches id f answer hf hp := hPQ _ (h.fetches id f answer hf hp)
  callers id c answer outcome hc hp := hPQ _ (h.callers id c answer outcome hc hp)

theorem start (enabled : Bool) (timeout : Nat) : (State.start enabled timeout).Holds P where
  entries key e he := by simp [State.start] at he
  fetches id f answer hf := by simp [State.start] at hf
  callers id c answer outcome hc := by simp [State.start] at hc

/-- A caller comes to a phase. -/
theorem setCaller (h : s.Holds P) {c : Caller} {p : CallerPhase}
    (hp : ∀ answer outcome, p = .answered answer outcome → P answer) :
    (s.setCaller id c p).Holds P where
  entries := h.entries
  fetches := h.fetches
  callers i d answer outcome hd hphase := by
    rcases Table.find?_insert_eq_some.mp hd with ⟨-, rfl⟩ | ⟨-, hd⟩
    · exact hp answer outcome hphase
    · exact h.callers i d answer outcome hd hphase

/-- A fetch comes to a phase. -/
theorem setFetch (h : s.Holds P) {f : Fetch} {p : FetchPhase}
    (hp : ∀ answer, p.result? = some (.ok answer) → P answer) :
    (s.setFetch id f p).Holds P where
  entries := h.entries
  fetches i g answer hg hresult := by
    rcases Table.find?_insert_eq_some.mp hg with ⟨-, rfl⟩ | ⟨-, hg⟩
    · exact hp answer hresult
    · exact h.fetches i g answer hg hresult
  callers := h.callers

/-- A fetch is started, which has come to nothing yet. -/
theorem startFetch (h : s.Holds P) (c : Caller) (now : Nat) : (s.startFetch id c now).Holds P where
  entries := h.entries
  fetches i f answer hf hresult := by
    rcases Table.find?_insert_eq_some.mp hf with ⟨-, rfl⟩ | ⟨-, hf⟩
    · cases hresult
    · exact h.fetches i f answer hf hresult
  callers i d answer outcome hd hphase := by
    rcases Table.find?_insert_eq_some.mp hd with ⟨-, rfl⟩ | ⟨-, hd⟩
    · cases hphase
    · exact h.callers i d answer outcome hd hphase

/-- The stored answers become others. -/
theorem setEntries (h : s.Holds P) {entries : Entries}
    (hentries : ∀ key e, entries.find? key = some e → P e.answer) :
    { s with entries }.Holds P where
  entries := hentries
  fetches := h.fetches
  callers := h.callers

/-- A fetch ends with the caller who started it. -/
theorem eraseFetch (h : s.Holds P) (id : CallerId) :
    { s with fetches := s.fetches.erase id }.Holds P where
  entries := h.entries
  fetches i f answer hf hresult :=
    h.fetches i f answer (Table.find?_erase_eq_some.mp hf).2 hresult
  callers := h.callers

/-- The markers become others. -/
theorem setMarkers (h : s.Holds P) (markers : Table Fingerprint CallerId) :
    { s with markers }.Holds P :=
  ⟨h.entries, h.fetches, h.callers⟩

/-- An answer is dropped. -/
theorem drop (h : s.Holds P) (key : Fingerprint) (time : Nat) :
    { s with entries := s.entries.drop key time }.Holds P :=
  h.setEntries fun k e he => h.entries k e (Entries.find?_of_drop he)

end State.Holds

/-- **No event makes an answer**, other than a fetch that comes to it. -/
theorem Effect.holds {now : Nat} {s s' : State} {e : Event} (he : Effect now s e s')
    {P : Dns.Message → Prop} (h : s.Holds P)
    (hnew : ∀ id answer, e = .complete id (.ok answer) → P answer) : s'.Holds P := by
  cases he with
  | arrive fresh =>
    refine ⟨h.entries, h.fetches, fun i c answer outcome hc hp => ?_⟩
    rcases Table.find?_insert_eq_some.mp hc with ⟨-, rfl⟩ | ⟨-, hc⟩
    · cases hp
    · exact h.callers i c answer outcome hc hp
  | hit _ _ _ hentry | lateHit _ _ _ hentry =>
    refine h.setCaller fun answer outcome hp => ?_
    cases hp
    exact h.entries _ _ hentry
  | stale | refuse | join | takeError | leave => exact h.setCaller (by simp)
  | miss => exact h.setCaller (by unfold State.missPhase; split <;> simp)
  | bypass => exact h.startFetch _ now
  | drop => exact (h.drop _ _).setCaller (by unfold State.missPhase; split <;> simp)
  | start => exact (h.drop _ _).startFetch _ now
  | takeAnswer _ _ hf hresult =>
    refine h.setCaller fun answer outcome hp => ?_
    cases hp
    exact h.fetches _ _ _ hf (by rw [hresult]; rfl)
  | @leaveOff id => exact (h.eraseFetch id).setCaller (by simp)
  | @complete id f result =>
    refine h.setFetch fun answer hresult => hnew id answer ?_
    cases hresult
    rfl
  | expire | crash => exact h.setFetch fun answer hresult => by cases hresult
  | @keep id f answer ttl hf hp =>
    -- what is stored is what the fetch has come to before
    have hanswer : P answer := h.fetches _ _ _ hf (by rw [hp]; rfl)
    have hentries : ∀ key entry,
        (s.entries.insert f.key ⟨answer, now, ttl⟩).find? key = some entry → P entry.answer := by
      intro key entry hentry
      rcases Table.find?_insert_eq_some.mp hentry with ⟨-, rfl⟩ | ⟨-, hentry⟩
      · exact hanswer
      · exact h.entries key entry hentry
    refine (h.setEntries hentries).setFetch fun other hresult => ?_
    cases hresult
    exact hanswer
  | @pass id f result hf hp =>
    exact h.setFetch fun answer hresult => h.fetches _ _ _ hf (by rw [hp]; exact hresult)
  | @release id f result hf hp =>
    exact (h.setMarkers _).setFetch fun answer hresult =>
      h.fetches _ _ _ hf (by rw [hp]; exact hresult)

end DohRelay.Cache
