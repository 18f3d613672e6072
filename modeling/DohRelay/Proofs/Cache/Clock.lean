import DohRelay.Proofs.Cache.Markers
import DohRelay.Proofs.Cache.Provenance

/-!
# The clock

A clock that moves on only when nothing is left to be done never gets past the deadline of a fetch
that goes on, and stands still from the time when a fetch comes to its result until all who wait for
it have been given it.

## Main definitions

* `State.Idle`, `Timely` — nothing is left to be done, and the clock moves on only then.
* `Move.Settles` — a move brings a fetch to its result.
* `Punctual` — what the clock says about a fetch; this is what every move of a timely run keeps.

## Main results

* `Timely.time_le` — the clock does not get past a time at which something is left to be done.
* `Run.punctual` — **in a timely run fetches are punctual.**
* `Timely.append_play` — a timely run goes on with what happens at one time after a rest.
-/

namespace DohRelay.Cache

/-- Nobody goes on at the time `now`, unless something happens from outside. -/
structure State.Idle (s : State) (now : Nat) : Prop where
  /-- No caller can do anything. -/
  callers : ∀ id, s.callerEvent? id = none
  /-- No fetch has a result to be dealt with, or has taken too long. -/
  fetches : ∀ id, s.fetchEvent? id now = none

/-- The clock moves on only when nothing is left to be done. -/
def Timely (moves : List Move) : Prop :=
  moves.IsChain fun next previous =>
    ∀ time, previous.time ≤ time → time < next.time → next.before.Idle time

/-- Some caller waits for a fetch. -/
def State.Awaits (s : State) (fetch : CallerId) : Prop :=
  ∃ id c outcome, s.callers.find? id = some c ∧ c.phase = .waiting fetch outcome

theorem Timely.suffix {moves earlier : List Move} (h : Timely moves) (hs : earlier <:+ moves) :
    Timely earlier :=
  List.IsChain.suffix h hs

/-- The clock does not get past a time at which something is left to be done. -/
theorem Timely.time_le {m : Move} {moves : List Move} (h : Timely (m :: moves))
    (hne : moves ≠ []) {time : Nat} (hle : ∀ m' ∈ moves, m'.time ≤ time)
    (hbusy : ¬ m.before.Idle time) : m.time ≤ time := by
  cases moves with
  | nil => exact absurd rfl hne
  | cons previous rest =>
    by_contra hlt
    have hidle := (List.isChain_cons_cons.mp h).1
    exact hbusy (hidle time (hle previous List.mem_cons_self) (Nat.lt_of_not_le hlt))

namespace State

variable {s : State} {id : CallerId} {f : Fetch} {now : Nat}

/-- A fetch that goes on is to be dealt with from its deadline on. -/
theorem not_idle_of_running (hf : s.fetches.find? id = some f) (hp : f.phase = .running)
    (hlate : s.deadline f ≤ now) : ¬ s.Idle now := by
  intro h
  have hnone := h.fetches id
  simp [fetchEvent?, hf, hp, hlate] at hnone

/-- A result is to be dealt with at once, and so are those who wait for it. -/
theorem not_idle_of_result (hf : s.fetches.find? id = some f) {result : FetchResult}
    (hr : f.phase.result? = some result) (hbusy : f.phase.isOpen = true ∨ s.Awaits id) :
    ¬ s.Idle now := by
  intro h
  have hnone := h.fetches id
  cases hp : f.phase with
  | running | crashed =>
    rw [hp] at hr
    cases hr
  | ended | stored => simp [fetchEvent?, hf, hp] at hnone
  | released result =>
    rcases hbusy with hopen | ⟨i, c, outcome, hc, hwaiting⟩
    · rw [hp] at hopen
      cases hopen
    · have hcaller := h.callers i
      simp [callerEvent?, hc, hwaiting, isResolved, hf, hp] at hcaller

end State

/-- A fetch is told to have taken too long from its deadline on. -/
theorem Move.deadline_le {m : Move} {id : CallerId} {f : Fetch} (hevent : m.event = .expire id)
    (hf : m.before.fetches.find? id = some f) : m.before.deadline f ≤ m.time := by
  have heffect := m.effect
  rw [hevent] at heffect
  generalize m.after = s' at heffect
  cases heffect with
  | expire hg _ late =>
    rw [hf, Option.some.injEq] at hg
    exact hg ▸ late

/-- A move brings a fetch to its result: its own, or that it took too long, from its deadline on. -/
inductive Move.Settles (m : Move) (id : CallerId) (deadline : Nat) : FetchResult → Prop
  /-- The fetch comes to a result of its own. -/
  | own {result : FetchResult} (event : m.event = .complete id result) :
      m.Settles id deadline result
  /-- The fetch has taken too long. -/
  | late (event : m.event = .expire id) (passed : deadline ≤ m.time) :
      m.Settles id deadline (.error .timeout)

/-- What the clock says about a fetch after some moves. -/
structure Punctual (moves : List Move) (s : State) (id : CallerId) (f : Fetch) : Prop where
  /-- As long as it goes on, its deadline is not passed. -/
  running : f.phase = .running → ∀ m ∈ moves, m.time ≤ s.deadline f
  /-- Its result was settled by a move, at its deadline at the latest.  The clock has stood still
  since while the fetch can be joined or somebody waits for it, and its marker was taken away at
  that very time. -/
  settled : ∀ {result}, f.phase.result? = some result →
    ∃ m ∈ moves, m.Settles id (s.deadline f) result ∧ m.time ≤ s.deadline f ∧
      (f.phase.isOpen = true ∨ s.Awaits id → ∀ m' ∈ moves, m'.time ≤ m.time) ∧
      (f.phase.isOpen = false → ∃ m' ∈ moves, m'.event = .release id ∧ m'.time = m.time)

namespace Run

variable {timeout : Nat} {moves : List Move} {s : State} {id : CallerId} {f : Fetch}

/-- Nobody comes to wait for a fetch whose marker was taken away. -/
theorem awaits_before {m : Move} (h : Run true timeout moves m.before)
    (hf : m.before.fetches.find? id = some f) (hp : f.phase.isMarked = false)
    (hawaits : m.after.Awaits id) : m.before.Awaits id := by
  obtain ⟨i, c, outcome, hc, hwaiting⟩ := hawaits
  rcases m.effect.caller_after hc with hbefore | harrived | ⟨d, hd, -, hgo⟩
  · exact ⟨i, c, outcome, hbefore, hwaiting⟩
  · rw [hwaiting] at harrived
    cases harrived
  · obtain ⟨hentering, hmark | rfl⟩ := hgo.of_waiting h.enabled_eq hwaiting
    · -- only fetches that are marked are joined
      obtain ⟨g, hg, -, hmarked⟩ := (Tidy.of_run h _ _).mp hmark
      rw [hf, Option.some.injEq] at hg
      rw [← hg, hp] at hmarked
      cases hmarked
    · -- and whoever starts one had none before
      have hnone := (Orderly.of_run h).find?_eq_none hd
        (by simp [hentering, CallerPhase.hasStarted])
      rw [hf] at hnone
      cases hnone

/-- Something has happened when there is a fetch. -/
theorem ne_nil (h : Run true timeout moves s) (hf : s.fetches.find? id = some f) : moves ≠ [] := by
  obtain ⟨m, hm, -⟩ := h.exists_starts hf
  exact List.ne_nil_of_mem hm

/-- A fetch that one more move leaves alone stays punctual. -/
private theorem punctual_of_same {m : Move} (h : Run true timeout moves m.before)
    (htimely : Timely (m :: moves)) (hf : m.before.fetches.find? id = some f)
    (hpunctual : Punctual moves m.before id f) : Punctual (m :: moves) m.after id f := by
  have hdeadline : m.after.deadline f = m.before.deadline f := by
    rw [State.deadline, State.deadline, m.effect.timeout_eq]
  constructor
  case running =>
    intro hp
    have hle := hpunctual.running hp
    have hbusy := State.not_idle_of_running hf hp le_rfl
    rw [hdeadline]
    exact List.forall_mem_cons.mpr ⟨htimely.time_le (h.ne_nil hf) hle hbusy, hle⟩
  case settled =>
    intro result hr
    obtain ⟨m', hm', hsettles, htime, hstill, hreleased⟩ := hpunctual.settled hr
    rw [hdeadline]
    refine ⟨m', List.mem_cons_of_mem _ hm', hsettles, htime, fun hbusy => ?_, fun hclosed => ?_⟩
    · have hbefore : f.phase.isOpen = true ∨ m.before.Awaits id := by
        cases hp : f.phase with
        | running | crashed =>
          rw [hp] at hr
          cases hr
        | ended | stored => exact .inl rfl
        | released =>
          refine .inr (h.awaits_before hf (by rw [hp]; rfl) (hbusy.resolve_left ?_))
          simp [hp, FetchPhase.isOpen]
      have hle := hstill hbefore
      exact List.forall_mem_cons.mpr
        ⟨htimely.time_le (h.ne_nil hf) hle (State.not_idle_of_result hf hr hbefore), hle⟩
    · obtain ⟨m'', hm'', hevent⟩ := hreleased hclosed
      exact ⟨m'', List.mem_cons_of_mem _ hm'', hevent⟩

/-- A fetch that one more move takes on stays punctual. -/
private theorem punctual_of_progress {m : Move} (h : Run true timeout moves m.before)
    (htimely : Timely (m :: moves)) (hlater : ∀ earlier ∈ moves, earlier.time ≤ m.time) {g : Fetch}
    (hg : m.before.fetches.find? id = some g) (hpunctual : Punctual moves m.before id g)
    (hfg : f = { g with phase := f.phase }) (hgo : Progress id m.event g.phase f.phase) :
    Punctual (m :: moves) m.after id f := by
  have hdeadline : m.after.deadline f = m.before.deadline g := by
    rw [State.deadline, State.deadline, m.effect.timeout_eq, hfg]
  have hlatest : ∀ m' ∈ m :: moves, m'.time ≤ m.time := List.forall_mem_cons.mpr ⟨le_rfl, hlater⟩
  -- what was running is taken on before its deadline is passed
  have hrunning (hp : g.phase = .running) : m.time ≤ m.before.deadline g :=
    htimely.time_le (h.ne_nil hg) (hpunctual.running hp)
      (State.not_idle_of_running hg hp le_rfl)
  -- and what has a result is taken on at once
  have hsettled {result : FetchResult} (hr : g.phase.result? = some result)
      (hopen : g.phase.isOpen = true) :
      ∃ m' ∈ m :: moves, m'.Settles id (m.before.deadline g) result ∧
        m'.time ≤ m.before.deadline g ∧ m.time ≤ m'.time := by
    obtain ⟨m', hm', hsettles, htime, hstill, -⟩ := hpunctual.settled hr
    exact ⟨m', List.mem_cons_of_mem _ hm', hsettles, htime, htimely.time_le (h.ne_nil hg)
      (hstill (.inl hopen)) (State.not_idle_of_result hg hr (.inl hopen))⟩
  refine ⟨fun hp => absurd hp hgo.ne_running, fun {result} hr => ?_⟩
  rw [hdeadline]
  generalize hp : g.phase = p, he : m.event = e, hq : f.phase = q at hgo
  rw [hq] at hr
  cases hgo with
  | complete =>
    cases hr
    exact ⟨m, List.mem_cons_self, .own he, hrunning hp, fun _ => hlatest,
      by simp [FetchPhase.isOpen]⟩
  | expire =>
    cases hr
    exact ⟨m, List.mem_cons_self, .late he (m.deadline_le he hg), hrunning hp, fun _ => hlatest,
      by simp [FetchPhase.isOpen]⟩
  | crash => cases hr
  | store =>
    obtain ⟨m', hm', hsettles, htime, hle⟩ :=
      hsettled (by rw [hp]; exact hr) (by rw [hp]; rfl)
    exact ⟨m', hm', hsettles, htime, fun _ m'' hm'' => (hlatest m'' hm'').trans hle,
      by simp [FetchPhase.isOpen]⟩
  | release =>
    obtain ⟨m', hm', hsettles, htime, hle⟩ :=
      hsettled (by rw [hp]; exact hr) (by rw [hp]; rfl)
    exact ⟨m', hm', hsettles, htime, fun _ m'' hm'' => (hlatest m'' hm'').trans hle,
      fun _ => ⟨m, List.mem_cons_self, he, le_antisymm hle (hlatest m' hm')⟩⟩

/-- **In a timely run fetches are punctual.** -/
theorem punctual (h : Run true timeout moves s) (htimely : Timely moves)
    (hf : s.fetches.find? id = some f) : Punctual moves s id f := by
  induction h generalizing f with
  | start => simp [State.start] at hf
  | @move moves m run later ih =>
    have hbefore {g : Fetch} (hg : m.before.fetches.find? id = some g) :=
      ih (htimely.suffix (List.suffix_cons _ _)) hg
    rcases m.effect.fetch_after run.enabled_eq hf with hsame | hstarting | ⟨g, hg, hfg, hgo⟩
    · exact run.punctual_of_same htimely hsame (hbefore hsame)
    · obtain ⟨hstarted, hrunning⟩ := hstarting.fetch
      constructor
      case running =>
        rw [State.deadline, hstarted]
        exact fun _ => List.forall_mem_cons.mpr
          ⟨Nat.le_add_right _ _, fun m' hm' => (later m' hm').trans (Nat.le_add_right _ _)⟩
      case settled =>
        intro result hr
        rw [hrunning] at hr
        cases hr
    · exact run.punctual_of_progress htimely later hg (hbefore hg) hfg hgo

end Run

/-- A timely run goes on with events that can happen at one time, if there was nothing left to be
done until then. -/
theorem Timely.append_play {enabled : Bool} {timeout : Nat} {moves : List Move} {s s' : State}
    (h : Run enabled timeout moves s) (htimely : Timely moves) {now : Nat}
    (hle : ∀ m ∈ moves, m.time ≤ now)
    (hidle : ∀ m ∈ moves.head?, ∀ time, m.time ≤ time → time < now → s.Idle time)
    {events : List Event} (hplay : s.play (events.map (now, ·)) = some s') :
    ∃ more, Run enabled timeout more s' ∧ Timely more ∧ ∀ m ∈ more, m.time ≤ now := by
  induction events generalizing moves s with
  | nil =>
    rw [List.map_nil, State.play, Option.some.injEq] at hplay
    exact ⟨moves, hplay ▸ h, htimely, hle⟩
  | cons e rest ih =>
    obtain ⟨next, hstep, hrest⟩ := Option.bind_eq_some_iff.mp hplay
    let m : Move := ⟨now, e, s, next, hstep⟩
    have htime : Timely (m :: moves) := List.isChain_cons.mpr ⟨hidle, htimely⟩
    have hnext : ∀ m' ∈ m :: moves, m'.time ≤ now := List.forall_mem_cons.mpr ⟨le_rfl, hle⟩
    -- between two events at one time the clock stands still
    have hstill : ∀ m' ∈ (m :: moves).head?, ∀ time, m'.time ≤ time → time < now →
        next.Idle time := by
      intro m' hm' time hge hlt
      cases hm'
      exact absurd hlt (Nat.not_lt.mpr hge)
    exact ih (.move m h hle) htime hnext hstill hrest

end DohRelay.Cache
