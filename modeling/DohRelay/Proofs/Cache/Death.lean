import DohRelay.Proofs.Cache.Flight

/-!
# Fetches that die

A fetch that dies gives those who wait for it an error, but it does not take its marker away, and
nothing else ever does.  So nobody can start a fetch for its key again: whoever finds no answer
under the key joins the dead fetch, and is given the same error.  A fetch that ends in any other way
has its marker taken away, and the next miss starts another.

## Main definitions

* `Dead` — what is true of a fetch that died, at any time after that.

## Main results

* `Run.find?_of_crash` — what is dead stays dead.
* `Run.not_starts_after_crash` — **no fetch for the key of a dead one is started ever after.**
* `dead_fetches_keep_their_keys` — **a fetch that is over keeps its key just if it died.**
-/

namespace DohRelay.Cache

/-- A fetch dies that went on. -/
theorem Move.of_crash {m : Move} {id : CallerId} (hevent : m.event = .crash id) :
    ∃ f, m.before.fetches.find? id = some f ∧ f.phase = .running ∧
      m.after.fetches.find? id = some { f with phase := .crashed } := by
  have heffect := m.effect
  rw [hevent] at heffect
  generalize m.after = s' at heffect
  cases heffect with
  | crash hf hp => exact ⟨_, hf, hp, (State.find?_fetches_setFetch ..).trans (if_pos rfl)⟩

/-- What is true of a fetch that died, after some later moves. -/
structure Dead (later moves : List Move) (s : State) (id : CallerId) (f : Fetch) : Prop where
  /-- It is in the books. -/
  found : s.fetches.find? id = some f
  /-- It is dead. -/
  phase : f.phase = .crashed
  /-- Whoever waited for it still does, went away, or was told that it died. -/
  waiters : ∀ m ∈ moves, ∀ i c outcome, m.after.callers.find? i = some c →
    c.phase = .waiting id outcome →
      ∃ p, s.callers.find? i = some { c with phase := p } ∧
        (p = .waiting id outcome ∨ p = .gone ∨ p = .failed (.exchange crashMessage))
  /-- Whoever still waits for it can be told. -/
  told : ∀ i c outcome now, s.callers.find? i = some c → c.phase = .waiting id outcome →
    s.step now (.take i) = some (s.setCaller i c (.failed (.exchange crashMessage)))
  /-- Its marker is there. -/
  marked : s.markers.find? f.key = some id
  /-- No fetch for its key was started since. -/
  barred : ∀ m ∈ later, ∀ i g, m.Starts i g → g.key ≠ f.key
  /-- Whoever finds no answer under its key joins it. -/
  joined : ∀ i c now, s.callers.find? i = some c → c.key = f.key → c.phase = .entering →
    s.step now (.enter i) = some (s.setCaller i c (.waiting id .joined))

namespace Run

variable {timeout : Nat} {moves later earlier : List Move} {s : State} {m : Move} {id : CallerId}
  {f : Fetch}

/-- A fetch that was not released keeps its marker. -/
theorem find?_markers (h : Run true timeout moves s) (hf : s.fetches.find? id = some f)
    (hmarked : f.phase.isMarked = true) : s.markers.find? f.key = some id :=
  (Tidy.of_run h f.key id).mpr ⟨f, hf, rfl, hmarked⟩

/-- Where a fetch is marked, no other is started for its key. -/
theorem not_starts_of_isMarked (h : Run true timeout moves m.before)
    (hf : m.before.fetches.find? id = some f) (hmarked : f.phase.isMarked = true) {i : CallerId}
    {g : Fetch} (hstarts : m.Starts i g) : g.key ≠ f.key := by
  intro hkey
  have hnone := (m.starting h.enabled_eq hstarts).marker
  rw [hkey, h.find?_markers hf hmarked] at hnone
  cases hnone

/-- **What is dead stays dead**, with the key it had. -/
theorem find?_of_crash (h : Run true timeout (later ++ m :: earlier) s)
    (hevent : m.event = .crash id) :
    ∃ f, s.fetches.find? id = some f ∧ f.phase = .crashed := by
  induction later generalizing s with
  | nil =>
    obtain ⟨f, -, -, hf⟩ := m.of_crash hevent
    cases h
    exact ⟨_, hf, rfl⟩
  | cons last rest ih =>
    cases h with
    | move _ run _ =>
      obtain ⟨f, hf, hp⟩ := ih run
      exact ⟨f, run.find?_of_closed hf (by rw [hp]; rfl), hp⟩

/-- **No fetch for the key of a dead one is started ever after.** -/
theorem not_starts_after_crash (h : Run true timeout (later ++ m :: earlier) s)
    (hevent : m.event = .crash id) (hf : s.fetches.find? id = some f) :
    ∀ m' ∈ later, ∀ i g, m'.Starts i g → g.key ≠ f.key := by
  induction later generalizing s with
  | nil => exact List.forall_mem_nil _
  | cons last rest ih =>
    cases h with
    | move _ run _ =>
      obtain ⟨f', hf', hp⟩ := run.find?_of_crash hevent
      obtain rfl : f' = f := by
        have hstays := run.find?_of_closed hf' (by rw [hp]; rfl)
        rw [hf, Option.some.injEq] at hstays
        exact hstays.symm
      refine List.forall_mem_cons.mpr ⟨?_, ih run hf'⟩
      intro i g hstarts
      exact run.not_starts_of_isMarked hf' (by rw [hp]; rfl) hstarts

/-- What is true of a fetch that died. -/
theorem dead (h : Run true timeout (later ++ m :: earlier) s) (hevent : m.event = .crash id) :
    ∃ f, Dead later (later ++ m :: earlier) s id f := by
  obtain ⟨f, hf, hp⟩ := h.find?_of_crash hevent
  have hmarked := h.find?_markers hf (by rw [hp]; rfl)
  refine ⟨f, hf, hp, ?_, ?_, hmarked, h.not_starts_after_crash hevent hf, ?_⟩
  · intro m' hm' i c outcome hc hwaiting
    obtain ⟨p, hcaller, hattended⟩ := h.attended hm' hc hwaiting
    refine ⟨p, hcaller, ?_⟩
    cases hattended with
    | waiting => exact .inl rfl
    | gone => exact .inr (.inl rfl)
    | served hg hphase =>
      -- a dead fetch has no result to be given
      rw [hf, Option.some.injEq] at hg
      rw [← hg, hp] at hphase
      cases hphase
    | despaired => exact .inr (.inr rfl)
  · intro i c outcome now hc hwaiting
    exact step_of_effect (.takeError hc hwaiting hf (.inr ⟨hp, rfl⟩))
  · intro i c now hc hkey hentering
    exact step_of_effect (.join hc hentering (hkey ▸ hmarked))

/-- A fetch that is over is marked just if it died. -/
theorem find?_markers_iff (h : Run true timeout moves s) (hf : s.fetches.find? id = some f)
    (hover : f.phase.isOpen = false) :
    s.markers.find? f.key = some id ↔ f.phase = .crashed := by
  constructor
  · intro hmarker
    by_contra halive
    rw [(h.flight hf halive).marked, hover] at hmarker
    cases hmarker
  · intro hp
    exact h.find?_markers hf (by rw [hp]; rfl)

end Run

/-- **A fetch that is over keeps its key just if it died.**  Whoever waits for a dead fetch is told
so, and whoever waited for it was, unless the caller went away.  But its marker is never taken away,
and no fetch for its key is started ever after: whoever finds no answer under the key joins the dead
fetch, and waits for it like the others.  Where a fetch ended in any other way and no other for its
key is marked, the next miss starts one. -/
theorem dead_fetches_keep_their_keys {timeout : Nat} {moves : List Move} {s : State}
    (h : Run true timeout moves s) :
    (∀ later m earlier id, moves = later ++ m :: earlier → m.event = .crash id →
      ∃ f, Dead later moves s id f) ∧
    (∀ id f, s.fetches.find? id = some f → f.phase.isOpen = false →
      (s.markers.find? f.key = some id ↔ f.phase = .crashed)) ∧
    ∀ key, (∀ id f, s.fetches.find? id = some f → f.key = key → ∃ result,
        f.phase = .released result) →
      ∀ i c now, s.callers.find? i = some c → c.key = key → c.phase = .entering →
        (∀ e, s.entries.find? key = some e → e.isExpired now = true) →
          ∃ s', s.step now (.enter i) = some s' ∧
            s'.fetches.find? i = some ⟨key, now, .running⟩ ∧ s'.markers.find? key = some i := by
  refine ⟨?_, fun _ _ => h.find?_markers_iff, ?_⟩
  · rintro later m earlier id rfl hevent
    exact h.dead hevent
  · intro key hreleased i c now hc hkey hp hended
    refine h.starts_of_released ?_ hc hkey hp hended
    intro id f hf hfkey
    obtain ⟨result, hphase⟩ := hreleased id f hf hfkey
    rw [hphase]
    rfl

/-- A caller starts a fetch, which dies, and is told.  Later another caller finds no answer. -/
def deadFetch : List (Nat × Event) :=
  [(0, .arrive 0 rootKey .fetched), (0, .look 0), (0, .enter 0), (50, .crash 0), (50, .take 0),
    (9000, .arrive 1 rootKey .fetched), (9000, .look 1)]

/-- The other caller starts no fetch, and is told of the death of the first one. -/
theorem dead_fetch_is_joined : ∃ s,
    (State.start true 5000).play (deadFetch ++ [(9000, .enter 1), (9000, .take 1)]) = some s ∧
      s.fetches.find? 1 = none ∧ s.markers.find? rootKey = some 0 ∧
        s.callers.find? 1 = some ⟨rootKey, .fetched, .failed (.exchange crashMessage)⟩ :=
  ⟨_, rfl, rfl, rfl, rfl⟩

/-- So it is whenever the other caller comes to the markers. -/
theorem dead_fetches_keep_their_keys_deadFetch : ∃ moves s, Run true 5000 moves s ∧
    s.callers.find? 0 = some ⟨rootKey, .fetched, .failed (.exchange crashMessage)⟩ ∧
      s.markers.find? rootKey = some 0 ∧
        s.step 9000 (.enter 1) =
          some (s.setCaller 1 ⟨rootKey, .fetched, .entering⟩ (.waiting 0 .joined)) := by
  have hplay : ∃ s, (State.start true 5000).play deadFetch = some s ∧
      s.callers.find? 0 = some ⟨rootKey, .fetched, .failed (.exchange crashMessage)⟩ ∧
      s.callers.find? 1 = some ⟨rootKey, .fetched, .entering⟩ ∧
      s.fetches.find? 0 = some ⟨rootKey, 0, .crashed⟩ := ⟨_, rfl, rfl, rfl, rfl⟩
  obtain ⟨s, hs, hfirst, hsecond, hfetch⟩ := hplay
  obtain ⟨moves, hrun, hmap⟩ := Run.of_play (by decide) hs
  obtain ⟨m, hm, hcrash⟩ := List.mem_map.mp
    (hmap ▸ List.mem_reverse.mpr (by simp [deadFetch]) :
      (50, Event.crash 0) ∈ moves.map fun m => (m.time, m.event))
  have hevent : m.event = .crash 0 := congrArg Prod.snd hcrash
  obtain ⟨later, earlier, hmoves⟩ := List.append_of_mem hm
  obtain ⟨f, hdead⟩ := (dead_fetches_keep_their_keys hrun).1 later m earlier 0 hmoves hevent
  obtain rfl : ⟨rootKey, 0, .crashed⟩ = f := Option.some.inj (hfetch.symm.trans hdead.found)
  exact ⟨moves, s, hrun, hfirst, hdead.marked, hdead.joined 1 _ 9000 hsecond rfl rfl⟩

end DohRelay.Cache
