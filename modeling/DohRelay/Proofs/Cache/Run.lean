import DohRelay.Proofs.Cache.Effect
import Mathlib.Data.List.Chain

/-!
# Runs of the cache

A run is what has happened to a cache since there was nothing in it: any events in any order, each
at a time that is not before that of the one before it.  Between two events that belong to one
caller or one fetch there may be any number of others, and any time may pass.

## Main definitions

* `Move` — an event that happened, with its time and the cache before and after it.
* `Run` — the moves of a run, the latest first, and the cache they lead to.
* `Move.Starts`, `Move.Serves` — the moves that start a fetch, or answer a caller from the cache.
* `Prompt` — runs in which what the cache does by itself takes no time.
* `State.play` — the cache after some events, the earliest first.

## Main results

* `Run.invariant` — what every effect keeps holds at the end of a run.
* `Run.exists_before` — every move of a run ends a run of its own.
* `Run.of_play` — events that can happen one after the other make a run.
-/

namespace DohRelay.Cache

/-- An event that happened. -/
structure Move where
  /-- When it happened. -/
  time : Nat
  /-- What happened. -/
  event : Event
  /-- The cache before it. -/
  before : State
  /-- The cache after it. -/
  after : State
  /-- The event can happen, and makes the one from the other. -/
  happens : before.step time event = some after

/-- The moves of a run of the cache, the latest first, and the cache they lead to. -/
inductive Run (enabled : Bool) (timeout : Nat) : List Move → State → Prop
  /-- Nothing has happened. -/
  | start : Run enabled timeout [] (.start enabled timeout)
  /-- One more event happened. -/
  | move {moves : List Move} (m : Move) (run : Run enabled timeout moves m.before)
      (later : ∀ earlier ∈ moves, earlier.time ≤ m.time) :
      Run enabled timeout (m :: moves) m.after

/-- What a move did. -/
theorem Move.effect (m : Move) : Effect m.time m.before m.event m.after :=
  effect_of_step m.happens

/-- A move starts a fetch: afterwards one goes on that was not there before. -/
def Move.Starts (m : Move) (id : CallerId) (f : Fetch) : Prop :=
  m.after.fetches.find? id = some f ∧ f.phase = .running ∧ m.before.fetches.find? id ≠ some f

/-- A move answers a caller from the cache. -/
def Move.Serves (m : Move) (id : CallerId) (c : Caller) (answer : Dns.Message) : Prop :=
  m.before.callers.find? id = some c ∧
    m.after.callers.find? id = some { c with phase := .answered answer .hit } ∧
      c.phase ≠ .answered answer .hit

/-- Whether the result of some fetch is on its way to the store. -/
def State.Unsettled (s : State) : Prop :=
  ∃ id f result, s.fetches.find? id = some f ∧ f.phase = .ended result

/-- What the cache does by itself takes no time: the clock stands still while the result of a fetch
is on its way to the store. -/
def Prompt (moves : List Move) : Prop :=
  moves.IsChain fun next previous => next.before.Unsettled → next.time = previous.time

namespace Run

variable {enabled : Bool} {timeout : Nat} {moves : List Move} {s : State}

/-- A cache stays switched on or off. -/
theorem enabled_eq (h : Run enabled timeout moves s) : s.enabled = enabled := by
  induction h with
  | start => rfl
  | move m _ _ ih => rw [m.effect.enabled_eq, ih]

/-- The limit on fetches stays. -/
theorem timeout_eq (h : Run enabled timeout moves s) : s.timeout = timeout := by
  induction h with
  | start => rfl
  | move m _ _ ih => rw [m.effect.timeout_eq, ih]

/-- What holds of an empty cache and is kept by every effect holds at the end of a run. -/
theorem invariant {P : State → Prop} (h : Run enabled timeout moves s)
    (hstart : P (.start enabled timeout))
    (hkeep : ∀ {now s e s'}, s.enabled = enabled → P s → Effect now s e s' → P s') : P s := by
  induction h with
  | start => exact hstart
  | move m run _ ih => exact hkeep run.enabled_eq ih m.effect

/-- Every move of a run ends a run of its own, which is part of it. -/
theorem exists_before (h : Run enabled timeout moves s) {m : Move} (hm : m ∈ moves) :
    ∃ earlier, (m :: earlier) <:+ moves ∧ Run enabled timeout earlier m.before ∧
      ∀ other ∈ earlier, other.time ≤ m.time := by
  induction h with
  | start => cases hm
  | @move moves last run later ih =>
    rcases List.mem_cons.mp hm with rfl | hm
    · exact ⟨moves, List.suffix_refl _, run, later⟩
    · obtain ⟨earlier, hsuffix, hrun, htime⟩ := ih hm
      exact ⟨earlier, hsuffix.trans (List.suffix_cons _ _), hrun, htime⟩

/-- What holds of every cache at the end of a run holds before each of its moves. -/
theorem before_of_mem {P : State → Prop}
    (hP : ∀ {moves s}, Run enabled timeout moves s → P s) (h : Run enabled timeout moves s)
    {m : Move} (hm : m ∈ moves) : P m.before := by
  obtain ⟨earlier, -, hrun, -⟩ := h.exists_before hm
  exact hP hrun

/-- What holds of every cache at the end of a run holds after each of its moves. -/
theorem after_of_mem {P : State → Prop}
    (hP : ∀ {moves s}, Run enabled timeout moves s → P s) (h : Run enabled timeout moves s)
    {m : Move} (hm : m ∈ moves) : P m.after := by
  obtain ⟨earlier, -, hrun, htime⟩ := h.exists_before hm
  exact hP (.move m hrun htime)

/-- The last move leads to the cache at the end of a run. -/
theorem exists_last (h : Run enabled timeout moves s) (hmoves : moves ≠ []) :
    ∃ m ∈ moves, m.after = s := by
  cases h with
  | start => exact absurd rfl hmoves
  | move m _ _ => exact ⟨m, List.mem_cons_self, rfl⟩

end Run

/-! ### Runs from events -/

/-- The cache after some events with their times, the earliest first, if they can happen. -/
def State.play (s : State) : List (Nat × Event) → Option State
  | [] => some s
  | (time, e) :: rest => (s.step time e).bind (·.play rest)

/-- A run goes on with the events that can happen after it. -/
theorem Run.append_play {enabled : Bool} {timeout : Nat} {moves : List Move} {s s' : State}
    (h : Run enabled timeout moves s) {events : List (Nat × Event)}
    (hsorted : (events.map Prod.fst).Pairwise (· ≤ ·))
    (hlater : ∀ m ∈ moves, ∀ x ∈ events, m.time ≤ x.1) (hplay : s.play events = some s') :
    ∃ more, Run enabled timeout (more ++ moves) s' ∧
      more.map (fun m => (m.time, m.event)) = events.reverse := by
  induction events generalizing moves s with
  | nil =>
    rw [State.play, Option.some.injEq] at hplay
    exact ⟨[], hplay ▸ h, rfl⟩
  | cons x rest ih =>
    obtain ⟨time, e⟩ := x
    rw [List.map_cons, List.pairwise_cons] at hsorted
    obtain ⟨next, hstep, hrest⟩ := Option.bind_eq_some_iff.mp hplay
    let m : Move := ⟨time, e, s, next, hstep⟩
    -- times are in order among the events, so the first of them is later than all moves before
    have hrun : Run enabled timeout (m :: moves) next :=
      .move m h fun earlier hearlier => hlater earlier hearlier _ List.mem_cons_self
    have hnext : ∀ earlier ∈ m :: moves, ∀ x ∈ rest, earlier.time ≤ x.1 := by
      intro earlier hearlier x hx
      rcases List.mem_cons.mp hearlier with rfl | hearlier
      · exact hsorted.1 _ (List.mem_map_of_mem hx)
      · exact hlater earlier hearlier x (List.mem_cons_of_mem _ hx)
    obtain ⟨more, hmore, hmap⟩ := ih hrun hsorted.2 hnext hrest
    refine ⟨more ++ [m], by rwa [List.append_assoc], ?_⟩
    rw [List.map_append, hmap, List.reverse_cons, List.map_singleton]

/-- **Events that can happen one after the other make a run.** -/
theorem Run.of_play {enabled : Bool} {timeout : Nat} {events : List (Nat × Event)} {s : State}
    (hsorted : (events.map Prod.fst).Pairwise (· ≤ ·))
    (hplay : (State.start enabled timeout).play events = some s) :
    ∃ moves, Run enabled timeout moves s ∧
      moves.map (fun m => (m.time, m.event)) = events.reverse := by
  obtain ⟨more, hrun, hmap⟩ := Run.start.append_play hsorted (by simp) hplay
  rw [List.append_nil] at hrun
  exact ⟨more, hrun, hmap⟩

end DohRelay.Cache
