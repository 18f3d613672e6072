import DohRelay.Proofs.Cache.Run

/-!
# One fetch at a time

In a cache that is switched on, a fetch is started for a key only when no other is under way for it
and no answer under it holds.  Between the look of a caller and its step to the markers, another
fetch may have stored its answer and taken away its marker; since it stores first, the second look
of the caller, made when there is no marker, finds the answer.

## Main definitions

* `CallerPhase.hasStarted` — whether a caller has started a fetch of its own.
* `CallerPhase.isServed` — whether a caller was answered from the cache or has joined a fetch.
* `Orderly` — how markers, fetches and callers belong together; this is what every event keeps.

## Main results

* `Orderly.of_run` — every run keeps the markers in order.
* `Run.fetch_stays` — fetches stay, with their keys and the times they were started at.
* `Run.exists_starts`, `Run.find?_of_after` — the fetches are those that moves have started.
* `Run.not_starts_of_isServed` — who was served by others never starts a fetch.
* `single_flight` — **no two fetches for one key at a time, and one starter for each.**
-/

namespace DohRelay.Cache

/-- Whether a caller under a name has started a fetch of its own, as far as the phase tells. -/
def CallerPhase.hasStarted (id : CallerId) : CallerPhase → Bool
  | .waiting fetch .fetched => fetch = id
  | .answered _ .fetched | .failed _ | .gone => true
  | _ => false

/-- Whether a caller was answered from the cache or has joined the fetch of another. -/
def CallerPhase.isServed : CallerPhase → Bool
  | .waiting _ .joined | .answered _ .joined | .answered _ .hit => true
  | _ => false

theorem CallerPhase.isPast_of_isServed {p : CallerPhase} (h : p.isServed = true) :
    p.isPast = true := by
  cases p <;> first | rfl | cases h

theorem CallerPhase.hasStarted_of_isServed {p : CallerPhase} (h : p.isServed = true)
    (id : CallerId) : p.hasStarted id = false := by
  cases p with
  | waiting _ outcome | answered _ outcome => cases outcome <;> first | rfl | cases h
  | _ => cases h

/-- What a caller in some phase has to do with the fetches of a cache: whoever waits does so for a
fetch under its key, its own or that of another, and who was answered by its own has one. -/
structure Attached (s : State) (id : CallerId) (key : Fingerprint) (p : CallerPhase) : Prop where
  /-- Whoever waits does so for a fetch under its key. -/
  waiting : ∀ {fetch outcome}, p = .waiting fetch outcome →
    ∃ f, s.fetches.find? fetch = some f ∧ f.key = key ∧
      (outcome = .fetched ∧ fetch = id ∨ outcome = .joined ∧ fetch ≠ id)
  /-- Whoever was answered by its own fetch has one. -/
  fetched : ∀ {answer}, p = .answered answer .fetched →
    ∃ f, s.fetches.find? id = some f ∧ f.key = key ∧ f.phase = .released (.ok answer)

/-- How markers, fetches and callers belong together in a cache that is switched on. -/
structure Orderly (s : State) : Prop where
  /-- A fetch that can be joined is the one that is marked. -/
  marked : ∀ {id f}, s.fetches.find? id = some f → f.phase.isOpen = true →
    s.markers.find? f.key = some id
  /-- A marker is that of a fetch under its key. -/
  marker : ∀ {key id}, s.markers.find? key = some id →
    ∃ f, s.fetches.find? id = some f ∧ f.key = key
  /-- A fetch has the name and the key of the caller who started it. -/
  starter : ∀ {id f}, s.fetches.find? id = some f →
    ∃ c, s.callers.find? id = some c ∧ c.key = f.key ∧ c.phase.hasStarted id = true
  /-- Callers who wait or were answered have a fetch to show for it. -/
  attached : ∀ {id c}, s.callers.find? id = some c → Attached s id c.key c.phase

namespace Attached

variable {s s' : State} {id : CallerId} {key : Fingerprint}

/-- Only callers who wait or were answered by their own fetch have to do with fetches. -/
theorem of_detached {p : CallerPhase} (hwait : ∀ fetch outcome, p ≠ .waiting fetch outcome)
    (hfetched : ∀ answer, p ≠ .answered answer .fetched) : Attached s id key p where
  waiting h := absurd h (hwait _ _)
  fetched h := absurd h (hfetched _)

/-- Callers stay attached while fetches keep their keys and, once released, their results. -/
theorem mono {p : CallerPhase} (h : Attached s id key p)
    (hkeep : ∀ i f, s.fetches.find? i = some f →
      ∃ f', s'.fetches.find? i = some f' ∧ f'.key = f.key ∧
        ∀ result, f.phase = .released result → f'.phase = .released result) :
    Attached s' id key p where
  waiting hp := by
    obtain ⟨f, hf, hkey, hown⟩ := h.waiting hp
    obtain ⟨f', hf', hkey', -⟩ := hkeep _ f hf
    exact ⟨f', hf', hkey'.trans hkey, hown⟩
  fetched hp := by
    obtain ⟨f, hf, hkey, hresult⟩ := h.fetched hp
    obtain ⟨f', hf', hkey', hphase⟩ := hkeep _ f hf
    exact ⟨f', hf', hkey'.trans hkey, hphase _ hresult⟩

end Attached

namespace Orderly

variable {s s' : State} {id : CallerId} {c : Caller} {f : Fetch}

/-- A caller who has not started a fetch has none under its name. -/
theorem find?_eq_none (h : Orderly s) (hc : s.callers.find? id = some c)
    (hp : c.phase.hasStarted id = false) : s.fetches.find? id = none := by
  cases hf : s.fetches.find? id with
  | none => rfl
  | some f =>
    obtain ⟨c', hc', -, hstarted⟩ := h.starter hf
    rw [hc, Option.some.injEq] at hc'
    rw [← hc', hp] at hstarted
    cases hstarted

/-- Under one key there is one fetch at most that can be joined. -/
theorem eq_of_isOpen (h : Orderly s) {other : CallerId} {g : Fetch}
    (hf : s.fetches.find? id = some f) (hg : s.fetches.find? other = some g)
    (hfopen : f.phase.isOpen = true) (hgopen : g.phase.isOpen = true) (hkey : g.key = f.key) :
    other = id := by
  have hmf := h.marked hf hfopen
  have hmg := h.marked hg hgopen
  rw [hkey, hmf, Option.some.injEq] at hmg
  exact hmg.symm

/-- The stored answers do not matter for the order of the markers. -/
theorem entries (h : Orderly s) (es : Entries) : Orderly { s with entries := es } where
  marked := h.marked
  marker := h.marker
  starter := h.starter
  attached hc := ⟨(h.attached hc).waiting, (h.attached hc).fetched⟩

/-- A new caller has nothing to do with the fetches. -/
theorem arrive (h : Orderly s) (fresh : s.callers.find? id = none) {key : Fingerprint}
    {want : Want} :
    Orderly { s with callers := s.callers.insert id ⟨key, want, .arrived⟩ } where
  marked := h.marked
  marker := h.marker
  starter {i f} hf := by
    obtain ⟨c, hc, hrest⟩ := h.starter hf
    have hi : i ≠ id := by
      rintro rfl
      rw [fresh] at hc
      cases hc
    exact ⟨c, (Table.find?_insert_of_ne _ hi _).trans hc, hrest⟩
  attached {i c} hc := by
    rcases Table.find?_insert_eq_some.mp hc with ⟨-, rfl⟩ | ⟨-, hc⟩
    · exact .of_detached (by simp) (by simp)
    · exact (h.attached hc).mono fun i f hf => ⟨f, hf, rfl, fun _ hr => hr⟩

/-- A caller comes to another phase; who had started a fetch still has. -/
theorem setCaller (h : Orderly s) (hc : s.callers.find? id = some c) {p : CallerPhase}
    (hstarted : c.phase.hasStarted id = true → p.hasStarted id = true)
    (hattached : Attached s id c.key p) : Orderly (s.setCaller id c p) where
  marked := h.marked
  marker := h.marker
  starter {i f} hf := by
    obtain ⟨c', hc', hkey, hphase⟩ := h.starter hf
    rw [State.find?_callers_setCaller]
    split
    case isTrue hi =>
      subst hi
      rw [hc, Option.some.injEq] at hc'
      subst hc'
      exact ⟨_, rfl, hkey, hstarted hphase⟩
    case isFalse => exact ⟨c', hc', hkey, hphase⟩
  attached {i c'} hc' := by
    rcases Table.find?_insert_eq_some.mp hc' with ⟨rfl, rfl⟩ | ⟨-, hc'⟩
    · exact ⟨hattached.waiting, hattached.fetched⟩
    · exact ⟨(h.attached hc').waiting, (h.attached hc').fetched⟩

/-- A fetch comes to another phase, in which it can be joined only if it could before. -/
theorem setFetch (h : Orderly s) (hf : s.fetches.find? id = some f) {p : FetchPhase}
    (hopen : p.isOpen = true → f.phase.isOpen = true)
    (hreleased : ∀ result, f.phase ≠ .released result) : Orderly (s.setFetch id f p) where
  marked {i g} hg hgopen := by
    rcases Table.find?_insert_eq_some.mp hg with ⟨rfl, rfl⟩ | ⟨-, hg⟩
    · have hmark := h.marked hf (hopen hgopen)
      exact hmark
    · exact h.marked hg hgopen
  marker hm := by
    obtain ⟨g, hg, hkey⟩ := h.marker hm
    rw [State.find?_fetches_setFetch]
    split
    case isTrue hi =>
      subst hi
      rw [hf, Option.some.injEq] at hg
      exact ⟨_, rfl, hg ▸ hkey⟩
    case isFalse => exact ⟨g, hg, hkey⟩
  starter {i g} hg := by
    rcases Table.find?_insert_eq_some.mp hg with ⟨rfl, rfl⟩ | ⟨-, hg⟩
    · have hstarter := h.starter hf
      exact hstarter
    · exact h.starter hg
  attached hc := by
    refine (h.attached hc).mono fun i g hg => ?_
    rw [State.find?_fetches_setFetch]
    split
    case isTrue hi =>
      subst hi
      rw [hf, Option.some.injEq] at hg
      subst hg
      exact ⟨_, rfl, rfl, fun result hresult => absurd hresult (hreleased result)⟩
    case isFalse => exact ⟨g, hg, rfl, fun _ hr => hr⟩

/-- A fetch is started where none is marked. -/
theorem startFetch (h : Orderly s) (hon : s.enabled = true) (hc : s.callers.find? id = some c)
    (hp : c.phase.hasStarted id = false) (hm : s.markers.find? c.key = none) (now : Nat) :
    Orderly (s.startFetch id c now) := by
  have hnew : s.fetches.find? id = none := h.find?_eq_none hc hp
  have hne {i : CallerId} {f : Fetch} (hf : s.fetches.find? i = some f) : i ≠ id := by
    rintro rfl
    rw [hnew] at hf
    cases hf
  have hkeep {i : CallerId} {f : Fetch} (hf : s.fetches.find? i = some f) :
      (s.startFetch id c now).fetches.find? i = some f := by
    rw [State.find?_fetches_startFetch, if_neg (hne hf), hf]
  constructor
  case marked =>
    intro i f hf hopen
    rw [State.find?_markers_startFetch _ _ _ _ hon]
    rw [State.find?_fetches_startFetch] at hf
    split at hf
    case isTrue hi =>
      rw [Option.some.injEq] at hf
      subst hi hf
      exact if_pos rfl
    case isFalse =>
      -- another fetch under this key would be the one that is marked
      have hmark := h.marked hf hopen
      rw [if_neg (by rintro hkey; rw [hkey, hm] at hmark; cases hmark), hmark]
  case marker =>
    intro key i hmark
    rw [State.find?_markers_startFetch _ _ _ _ hon] at hmark
    split at hmark
    case isTrue hkey =>
      rw [Option.some.injEq] at hmark
      subst hkey hmark
      exact ⟨_, by rw [State.find?_fetches_startFetch, if_pos rfl], rfl⟩
    case isFalse =>
      obtain ⟨f, hf, hkey⟩ := h.marker hmark
      exact ⟨f, hkeep hf, hkey⟩
  case starter =>
    intro i f hf
    rw [State.find?_fetches_startFetch] at hf
    rw [State.find?_callers_startFetch]
    split at hf
    case isTrue hi =>
      rw [Option.some.injEq] at hf
      subst hi hf
      exact ⟨_, if_pos rfl, rfl, by simp [CallerPhase.hasStarted]⟩
    case isFalse hi =>
      rw [if_neg hi]
      exact h.starter hf
  case attached =>
    intro i c' hc'
    rcases Table.find?_insert_eq_some.mp hc' with ⟨rfl, rfl⟩ | ⟨-, hc'⟩
    · refine ⟨fun hwait => ?_, fun hwait => by cases hwait⟩
      cases hwait
      exact ⟨_, by rw [State.find?_fetches_startFetch, if_pos rfl], rfl, .inl ⟨rfl, rfl⟩⟩
    · exact (h.attached hc').mono fun i f hf => ⟨f, hkeep hf, rfl, fun _ hr => hr⟩

/-- The marker of a fetch is taken away. -/
theorem release (h : Orderly s) (hf : s.fetches.find? id = some f) {result : FetchResult}
    (hp : f.phase = .stored result) :
    Orderly ({ s with markers := s.markers.erase f.key }.setFetch id f (.released result)) := by
  have hset := h.setFetch hf (p := .released result) (by simp [FetchPhase.isOpen]) (by simp [hp])
  refine ⟨fun {i g} hg hopen => ?_, fun {key i} hm => ?_, hset.starter, fun {i c} hc => ?_⟩
  · -- a fetch that can still be joined is another one, so it has another key
    rw [State.markers_setFetch, Table.find?_erase, if_neg]
    · exact hset.marked hg hopen
    · intro hkey
      rcases Table.find?_insert_eq_some.mp hg with ⟨-, rfl⟩ | ⟨hi, hg⟩
      · cases hopen
      · exact hi (h.eq_of_isOpen hf hg (by simp [hp, FetchPhase.isOpen]) hopen hkey)
  · exact hset.marker (Table.find?_erase_eq_some.mp hm).2
  · exact ⟨(hset.attached hc).waiting, (hset.attached hc).fetched⟩

/-- Every event keeps the markers in order. -/
theorem of_effect (h : Orderly s) (hon : s.enabled = true) {now : Nat} {e : Event}
    (he : Effect now s e s') : Orderly s' := by
  cases he with
  | arrive fresh => exact h.arrive fresh
  | hit hc hp | stale hc hp =>
    exact h.setCaller hc (by simp [hp, CallerPhase.hasStarted]) (.of_detached (by simp) (by simp))
  | @miss _ c hc hp =>
    refine h.setCaller hc (by simp [hp, CallerPhase.hasStarted]) (.of_detached ?_ ?_) <;>
      cases c.want <;> simp [State.missPhase]
  | refuse _ _ hoff => rw [hon] at hoff; cases hoff
  | bypass _ _ hoff => rw [hon] at hoff; cases hoff
  | @drop _ c seenAt hc hp =>
    refine (h.entries (s.entries.drop c.key seenAt)).setCaller hc
      (by simp [hp, CallerPhase.hasStarted]) (.of_detached ?_ ?_) <;>
      cases c.want <;> simp [State.missPhase]
  | @join id fetch c hc hp hm =>
    have hnone := h.find?_eq_none hc (by simp [hp, CallerPhase.hasStarted])
    -- the fetch that is marked is that of another, since the caller has none
    obtain ⟨f, hf, hkey⟩ := h.marker hm
    refine h.setCaller hc (by simp [hp, CallerPhase.hasStarted]) ⟨fun hwait => ?_, by simp⟩
    cases hwait
    refine ⟨f, hf, hkey, .inr ⟨rfl, ?_⟩⟩
    rintro rfl
    rw [hnone] at hf
    cases hf
  | lateHit hc hp =>
    exact h.setCaller hc (by simp [hp, CallerPhase.hasStarted]) (.of_detached (by simp) (by simp))
  | @start _ c hc hp hm =>
    exact (h.entries (s.entries.drop c.key now)).startFetch hon hc
      (by simp [hp, CallerPhase.hasStarted]) hm now
  | @takeAnswer id fetch c outcome f answer hc hp hf hresult =>
    obtain ⟨g, hg, hkey, hown⟩ := (h.attached hc).waiting hp
    rw [hf, Option.some.injEq] at hg
    subst hg
    refine h.setCaller hc ?_ ⟨by simp, fun hfetched => ?_⟩
    · rcases hown with ⟨rfl, rfl⟩ | ⟨rfl, -⟩ <;> simp [hp, CallerPhase.hasStarted]
    · cases hfetched
      rcases hown with ⟨-, rfl⟩ | ⟨hjoined, -⟩
      · exact ⟨f, hf, hkey, hresult⟩
      · cases hjoined
  | takeError hc =>
    exact h.setCaller hc (by simp [CallerPhase.hasStarted]) (.of_detached (by simp) (by simp))
  | leave hc =>
    exact h.setCaller hc (by simp [CallerPhase.hasStarted]) (.of_detached (by simp) (by simp))
  | leaveOff _ _ hoff => rw [hon] at hoff; cases hoff
  | complete hf hp | expire hf hp | crash hf hp =>
    exact h.setFetch hf (by simp [hp, FetchPhase.isOpen]) (by simp [hp])
  | @keep _ f answer ttl hf hp =>
    exact (h.entries (s.entries.insert f.key ⟨answer, now, ttl⟩)).setFetch hf
      (by simp [hp, FetchPhase.isOpen]) (by simp [hp])
  | pass hf hp =>
    exact h.setFetch hf (by simp [hp, FetchPhase.isOpen]) (by simp [hp])
  | release hf hp => exact h.release hf hp

/-- A cache without fetches and callers is in order. -/
theorem start (timeout : Nat) : Orderly (.start true timeout) := by
  constructor <;> simp [State.start]

/-- **Every run keeps the markers in order.** -/
theorem of_run {timeout : Nat} {moves : List Move} (h : Run true timeout moves s) : Orderly s :=
  h.invariant (.start timeout) fun hon ih he => ih.of_effect hon he

end Orderly

/-! ### The fetches of a run -/

/-- What lets a move start a fetch. -/
theorem Move.starting {m : Move} {id : CallerId} {f : Fetch} (hon : m.before.enabled = true)
    (h : m.Starts id f) : Starting m.before m.time m.event id f := by
  obtain ⟨hafter, hrunning, hnew⟩ := h
  rcases m.effect.fetch_after hon hafter with hbefore | hstarting | ⟨g, -, -, hgo⟩
  · exact absurd hbefore hnew
  · exact hstarting
  · exact absurd hrunning hgo.ne_running

namespace Run

variable {timeout : Nat} {moves : List Move} {s : State} {id : CallerId}

/-- A fetch is started under a name that no other has. -/
theorem find?_eq_none_of_starts (h : Run true timeout moves s) {m : Move} (hm : m ∈ moves)
    {f : Fetch} (hstarts : m.Starts id f) : m.before.fetches.find? id = none := by
  obtain ⟨earlier, -, hrun, -⟩ := h.exists_before hm
  obtain ⟨c, hc, hp, -⟩ := (m.starting hrun.enabled_eq hstarts).caller
  exact (Orderly.of_run hrun).find?_eq_none hc (by simp [hp, CallerPhase.hasStarted])

/-- A fetch keeps its key and the time it was started at when a move follows, and stays where it is
or gets on. -/
theorem fetch_stays {m : Move} (h : Run true timeout moves m.before) {f : Fetch}
    (hf : m.before.fetches.find? id = some f) :
    ∃ g, m.after.fetches.find? id = some g ∧ g.key = f.key ∧ g.startedAt = f.startedAt ∧
      (g.phase = f.phase ∨ Progress id m.event f.phase g.phase) := by
  refine m.effect.fetch_before h.enabled_eq hf fun g hstarting => ?_
  -- a caller who starts a fetch has none yet, but under this name there is one
  obtain ⟨c, hc, hp, -⟩ := hstarting.caller
  rw [(Orderly.of_run h).find?_eq_none hc (by simp [hp, CallerPhase.hasStarted])] at hf
  cases hf

/-- A fetch is started under a name that had none, so that the move which lets it start starts it.
-/
theorem starts_of_starting {m : Move} (h : Run true timeout moves m.before) {f : Fetch}
    (hf : m.after.fetches.find? id = some f)
    (hstarting : Starting m.before m.time m.event id f) : m.Starts id f := by
  obtain ⟨c, hc, hp, -⟩ := hstarting.caller
  have hnone := (Orderly.of_run h).find?_eq_none hc (by simp [hp, CallerPhase.hasStarted])
  exact ⟨hf, hstarting.fetch.2, by simp [hnone]⟩

/-- Every fetch was started by a move, at the time it knows. -/
theorem exists_starts (h : Run true timeout moves s) {f : Fetch}
    (hf : s.fetches.find? id = some f) :
    ∃ m ∈ moves, ∃ g, m.Starts id g ∧ g.key = f.key ∧ m.time = f.startedAt := by
  induction h generalizing f with
  | start => simp [State.start] at hf
  | move m run later ih =>
    rcases m.effect.fetch_after run.enabled_eq hf with hbefore | hstarting | ⟨g, hg, hfg, -⟩
    · obtain ⟨m', hm', hrest⟩ := ih hbefore
      exact ⟨m', List.mem_cons_of_mem _ hm', hrest⟩
    · exact ⟨m, List.mem_cons_self, f, run.starts_of_starting hf hstarting, rfl,
        hstarting.fetch.1.symm⟩
    · obtain ⟨m', hm', g', hstarts, hkey, htime⟩ := ih hg
      rw [hfg]
      exact ⟨m', List.mem_cons_of_mem _ hm', g', hstarts, hkey, htime⟩

/-- A fetch that was there after some move stays under its name, with its key and the time it was
started at. -/
theorem find?_of_after (h : Run true timeout moves s) {m : Move} (hm : m ∈ moves) {f : Fetch}
    (hf : m.after.fetches.find? id = some f) :
    ∃ g, s.fetches.find? id = some g ∧ g.key = f.key ∧ g.startedAt = f.startedAt := by
  induction h with
  | start => cases hm
  | move last run later ih =>
    rcases List.mem_cons.mp hm with rfl | hm
    · exact ⟨f, hf, rfl, rfl⟩
    · obtain ⟨g, hg, hkey, htime⟩ := ih hm
      obtain ⟨g', hg', hkey', htime', -⟩ := run.fetch_stays hg
      exact ⟨g', hg', hkey'.trans hkey, htime'.trans htime⟩

/-- No name is given to two fetches. -/
theorem pairwise_starts (h : Run true timeout moves s) :
    moves.Pairwise fun later earlier =>
      ∀ id f g, earlier.Starts id f → ¬ later.Starts id g := by
  induction h with
  | start => exact .nil
  | move m run later ih =>
    refine .cons (fun earlier hearlier id f g hf hg => ?_) ih
    -- the earlier fetch is still there, where the later one finds none
    obtain ⟨f', hf', -⟩ := run.find?_of_after hearlier hf.1
    rw [(Run.move m run later).find?_eq_none_of_starts List.mem_cons_self hg] at hf'
    cases hf'

/-- Who was served by the cache or by the fetch of another has no fetch, and cannot start one. -/
private theorem find?_of_isServed (h : Run true timeout moves s) {m : Move} (hm : m ∈ moves)
    {c : Caller} (hc : m.after.callers.find? id = some c) (hserved : c.phase.isServed = true) :
    s.fetches.find? id = none ∧ ∃ c', s.callers.find? id = some c' ∧ c'.phase.isPast = true := by
  induction h with
  | start => cases hm
  | move last run later ih =>
    rcases List.mem_cons.mp hm with rfl | hm
    · have horder := Orderly.of_run (.move m run later)
      exact ⟨horder.find?_eq_none hc (c.phase.hasStarted_of_isServed hserved id), c, hc,
        c.phase.isPast_of_isServed hserved⟩
    · obtain ⟨hnone, c', hc', hpast⟩ := ih hm
      -- a fetch under the name would have been started by the caller, who is past that
      refine ⟨?_, last.effect.isPast hc' hpast⟩
      cases hf : last.after.fetches.find? id with
      | none => rfl
      | some f =>
        rcases last.effect.fetch_after run.enabled_eq hf with hbefore | hstarting | ⟨g, hg, -⟩
        · rw [hnone] at hbefore
          cases hbefore
        · obtain ⟨d, hd, hp, -⟩ := hstarting.caller
          rw [hc', Option.some.injEq] at hd
          rw [hd, hp] at hpast
          cases hpast
        · rw [hnone] at hg
          cases hg

/-- **Who was served by the cache or by the fetch of another never starts a fetch**, neither before
nor after. -/
theorem not_starts_of_isServed (h : Run true timeout moves s) {m : Move} (hm : m ∈ moves)
    {c : Caller} (hc : m.after.callers.find? id = some c) (hserved : c.phase.isServed = true)
    {m' : Move} (hm' : m' ∈ moves) (f : Fetch) : ¬ m'.Starts id f := by
  intro hstarts
  obtain ⟨g, hg, -⟩ := h.find?_of_after hm' hstarts.1
  rw [(h.find?_of_isServed hm hc hserved).1] at hg
  cases hg

/-- A fetch is started only when every other one for its key is over. -/
theorem isOpen_eq_false_of_starts (h : Run true timeout moves s) {m : Move} (hm : m ∈ moves)
    {f g : Fetch} (hstarts : m.Starts id f) {other : CallerId}
    (hg : m.after.fetches.find? other = some g) (hkey : g.key = f.key) (hne : other ≠ id) :
    g.phase.isOpen = false := by
  have horder : Orderly m.after := h.after_of_mem Orderly.of_run hm
  cases hopen : g.phase.isOpen with
  | false => rfl
  | true =>
    exact absurd (horder.eq_of_isOpen hstarts.1 hg (by simp [hstarts.2.1, FetchPhase.isOpen]) hopen
      hkey) hne

end Run

/-- **No two fetches for one key at a time, and one starter for each.**  Whenever a fetch is started
in a cache that is switched on, every other fetch for its key is over and no answer under its key
holds.  It is the caller of its name who starts it, on the way to the markers, and no other fetch is
ever started under that name; only this caller waits for it, or is answered by it, as the one it was
fetched for.  A caller who was answered from the cache or has joined a fetch starts none, before or
after. -/
theorem single_flight {timeout : Nat} {moves : List Move} {s : State}
    (h : Run true timeout moves s) :
    (∀ m ∈ moves, ∀ id f, m.Starts id f →
      (∀ other g, m.after.fetches.find? other = some g → g.key = f.key → other ≠ id →
        g.phase.isOpen = false) ∧
      (∀ e, m.before.entries.find? f.key = some e → e.isExpired m.time = true) ∧
      m.event = .enter id ∧ ∃ c, m.before.callers.find? id = some c ∧ c.key = f.key) ∧
    (moves.Pairwise fun later earlier => ∀ id f g, earlier.Starts id f → ¬ later.Starts id g) ∧
    (∀ id c fetch, s.callers.find? id = some c → c.phase = .waiting fetch .fetched → fetch = id) ∧
    (∀ id c answer, s.callers.find? id = some c → c.phase = .answered answer .fetched →
      (∃ m ∈ moves, ∃ f, m.Starts id f ∧ f.key = c.key) ∧
      ∃ f, s.fetches.find? id = some f ∧ f.phase = .released (.ok answer)) ∧
    ∀ m ∈ moves, ∀ id c, m.after.callers.find? id = some c → c.phase.isServed = true →
      ∀ m' ∈ moves, ∀ f, ¬ m'.Starts id f := by
  refine ⟨fun m hm id f hstarts => ?_, h.pairwise_starts, fun id c fetch hc hp => ?_,
    fun id c answer hc hp => ?_, fun m hm id c hc hserved m' hm' f =>
      h.not_starts_of_isServed hm hc hserved hm' f⟩
  · have hstarting := m.starting (h.before_of_mem Run.enabled_eq hm) hstarts
    obtain ⟨c, hc, -, hkey⟩ := hstarting.caller
    exact ⟨fun _ _ => h.isOpen_eq_false_of_starts hm hstarts,
      fun e he => decide_eq_true (hstarting.ended e he), hstarting.event, c, hc, hkey⟩
  · -- who waits for what it fetched waits for the fetch of its own name
    obtain ⟨f, -, -, hown⟩ := ((Orderly.of_run h).attached hc).waiting hp
    rcases hown with ⟨-, rfl⟩ | ⟨hjoined, -⟩
    · rfl
    · cases hjoined
  · obtain ⟨f, hf, hkey, hresult⟩ := ((Orderly.of_run h).attached hc).fetched hp
    obtain ⟨m, hm, g, hstarts, hkey', -⟩ := h.exists_starts hf
    exact ⟨⟨m, hm, g, hstarts, hkey'.trans hkey⟩, f, hf, hresult⟩

/-- The fingerprint of a question about the root. -/
def rootKey : Fingerprint := .ofQuestion ⟨.root, .a, Dns.classIn⟩ none

/-- An answer that holds for five minutes. -/
def rootAnswer : Dns.Message :=
  { Dns.Message.empty with
    response := true
    answers := [⟨.root, .a, Dns.classIn, 300, some (.a (.ofBytes [10, 0, 0, 1]))⟩] }

/-- Two callers miss; the first starts a fetch, which the second joins and both wait for. -/
def sharedFetch : List (Nat × Event) :=
  [(0, .arrive 0 rootKey .fetched), (0, .arrive 1 rootKey .fetched), (0, .look 0), (0, .look 1),
    (0, .enter 0), (0, .enter 1), (70, .complete 0 (.ok rootAnswer)), (70, .store 0),
    (70, .release 0), (70, .take 0), (70, .take 1)]

/-- Where the second of two callers joins the fetch of the first, it starts none in the whole run.
-/
theorem single_flight_sharedFetch :
    ∃ moves s, Run true 5000 moves s ∧
      s.callers.find? 1 = some ⟨rootKey, .fetched, .answered rootAnswer .joined⟩ ∧
      ∀ m ∈ moves, ∀ f, ¬ m.Starts 1 f := by
  have hplay : ∃ s, (State.start true 5000).play sharedFetch = some s ∧
      s.callers.find? 1 = some ⟨rootKey, .fetched, .answered rootAnswer .joined⟩ := ⟨_, rfl, rfl⟩
  obtain ⟨s, hs, hc⟩ := hplay
  obtain ⟨moves, hrun, hmap⟩ := Run.of_play (by decide) hs
  obtain ⟨m, hm, hafter⟩ := hrun.exists_last (by rintro rfl; simp [sharedFetch] at hmap)
  exact ⟨moves, s, hrun, hc, (single_flight hrun).2.2.2.2 m hm 1 _ (hafter ▸ hc) rfl⟩

end DohRelay.Cache
