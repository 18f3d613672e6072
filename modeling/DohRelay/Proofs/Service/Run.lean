import DohRelay.Proofs.Service.Effect

/-!
# Runs of the service

A run is what has happened to a service since it was started: any clients with any inputs, any
responses of the endpoint and any networks found, in any order and at any times.

## Main definitions

* `Move` — an event that happened, with the service before and after it.
* `Run` — the moves of a run, the latest first, and the service they lead to.
* `HandedIn` — what the clients handed in.
* `State.play` — the service after some events, the earliest first.

## Main results

* `Run.exists_input` — every client of a run has handed in something.
* `Run.of_play` — events that can happen one after the other make a run.
-/

namespace DohRelay.Service

open Cache (CallerId)

/-- An event that happened. -/
structure Move where
  /-- What happened. -/
  event : Event
  /-- The service before it. -/
  before : State
  /-- The service after it. -/
  after : State
  /-- The event can happen, and makes the one from the other. -/
  happens : before.step event = some after

/-- The moves of a run of the service, the latest first, and the service they lead to. -/
inductive Run (config : Config) (fetchTimeout : Nat) : List Move → State → Prop
  /-- Nothing has happened. -/
  | start : Run config fetchTimeout [] (.start config fetchTimeout)
  /-- One more event happened. -/
  | move {moves : List Move} (m : Move) (run : Run config fetchTimeout moves m.before) :
      Run config fetchTimeout (m :: moves) m.after

/-- What a move did. -/
theorem Move.effect (m : Move) : Effect m.before m.event m.after :=
  effect_of_step m.happens

/-- By some move a client handed in something. -/
def HandedIn (moves : List Move) (id : CallerId) (input : Input) : Prop :=
  ∃ m ∈ moves, m.event.input? = some (id, input)

theorem HandedIn.cons {m : Move} {moves : List Move} {id : CallerId} {input : Input} :
    HandedIn (m :: moves) id input ↔
      m.event.input? = some (id, input) ∨ HandedIn moves id input := by
  simp [HandedIn]

namespace Run

variable {config : Config} {fetchTimeout : Nat} {moves : List Move} {s : State}

/-- The service keeps what it was told when it started. -/
theorem config_eq (h : Run config fetchTimeout moves s) : s.config = config := by
  induction h with
  | start => rfl
  | move m _ ih => rw [m.effect.config_eq, ih]

/-- The cache stays switched on or off. -/
theorem enabled_eq (h : Run config fetchTimeout moves s) : s.cache.enabled = config.cache := by
  induction h with
  | start => rfl
  | move m _ ih =>
    rcases m.effect.cache_after with hsame | ⟨e, he, -⟩
    · rw [hsame, ih]
    · rw [he.enabled_eq, ih]

/-- Every move of a run ends a run of its own, which is part of it. -/
theorem exists_before (h : Run config fetchTimeout moves s) {m : Move} (hm : m ∈ moves) :
    ∃ earlier, earlier <:+ moves ∧ Run config fetchTimeout earlier m.before := by
  induction h with
  | start => cases hm
  | @move moves last run ih =>
    rcases List.mem_cons.mp hm with rfl | hm
    · exact ⟨moves, List.suffix_cons _ _, run⟩
    · obtain ⟨earlier, hsuffix, hrun⟩ := ih hm
      exact ⟨earlier, hsuffix.trans (List.suffix_cons _ _), hrun⟩

/-- Every client has handed in something. -/
theorem exists_input (h : Run config fetchTimeout moves s) {id : CallerId} {c : Client}
    (hc : s.clients.find? id = some c) : ∃ input, HandedIn moves id input := by
  induction h generalizing c with
  | start => simp [State.start] at hc
  | move m run ih =>
    rcases m.effect.client_after hc with hbefore | ⟨input, hinput⟩ | ⟨before, hbefore, -⟩
    · obtain ⟨input, hinput⟩ := ih hbefore
      exact ⟨input, HandedIn.cons.mpr (.inr hinput)⟩
    · exact ⟨input, HandedIn.cons.mpr (.inl hinput)⟩
    · obtain ⟨input, hinput⟩ := ih hbefore
      exact ⟨input, HandedIn.cons.mpr (.inr hinput)⟩

end Run

/-! ### Runs from events -/

/-- The service after some events, the earliest first, if they can happen. -/
def State.play (s : State) : List Event → Option State
  | [] => some s
  | e :: rest => (s.step e).bind (·.play rest)

/-- Some events and then others. -/
theorem State.play_append (s : State) (events rest : List Event) :
    s.play (events ++ rest) = (s.play events).bind (·.play rest) := by
  induction events generalizing s with
  | nil => rfl
  | cons e events ih =>
    simp only [List.cons_append, State.play, Option.bind_assoc, ih]

/-- A run goes on with the events that can happen after it. -/
theorem Run.append_play {config : Config} {fetchTimeout : Nat} {moves : List Move} {s s' : State}
    (h : Run config fetchTimeout moves s) {events : List Event} (hplay : s.play events = some s') :
    ∃ more, Run config fetchTimeout (more ++ moves) s' ∧
      more.map Move.event = events.reverse := by
  induction events generalizing moves s with
  | nil =>
    rw [State.play, Option.some.injEq] at hplay
    exact ⟨[], hplay ▸ h, rfl⟩
  | cons e rest ih =>
    obtain ⟨next, hstep, hrest⟩ := Option.bind_eq_some_iff.mp hplay
    let m : Move := ⟨e, s, next, hstep⟩
    have hrun : Run config fetchTimeout (m :: moves) next := .move m h
    obtain ⟨more, hmore, hmap⟩ := ih hrun hrest
    refine ⟨more ++ [m], by rwa [List.append_assoc], ?_⟩
    rw [List.map_append, hmap, List.reverse_cons, List.map_singleton]

/-- **Events that can happen one after the other make a run.** -/
theorem Run.of_play {config : Config} {fetchTimeout : Nat} {events : List Event} {s : State}
    (hplay : (State.start config fetchTimeout).play events = some s) :
    ∃ moves, Run config fetchTimeout moves s ∧ moves.map Move.event = events.reverse := by
  obtain ⟨more, hrun, hmap⟩ := Run.start.append_play hplay
  rw [List.append_nil] at hrun
  exact ⟨more, hrun, hmap⟩

/-- What an event among them hands in was handed in. -/
theorem HandedIn.of_play {moves : List Move} {events : List Event}
    (hmap : moves.map Move.event = events.reverse) {e : Event} (he : e ∈ events) {id : CallerId}
    {input : Input} (hinput : e.input? = some (id, input)) : HandedIn moves id input := by
  have hmem : e ∈ moves.map Move.event := by
    rw [hmap]
    exact List.mem_reverse.mpr he
  obtain ⟨m, hm, rfl⟩ := List.mem_map.mp hmem
  exact ⟨m, hm, hinput⟩

end DohRelay.Service
