import DohRelay.Proofs.Subnet.Effect

/-!
# Runs of the detection

A run is what has happened to the detection of the network since nobody had asked for it: any
callers, who come, wait, look up and go away, and any outcomes of their lookups, in any order, each
at a time that is not before that of the one before it.

## Main definitions

* `Move` — an event that happened, with its time and the detection before and after it.
* `Run` — the moves of a run, the latest first, and the detection they lead to.
* `Detection.play` — the detection after some events, the earliest first.

## Main results

* `Run.split` — what happened up to a move is a run.
* `Run.of_play` — events that can happen one after the other make a run.
* `Detection.play_alone` — a caller who is alone is told what `Detection.ask` says.
-/

namespace DohRelay.Subnet

open Cache (CallerId)

/-- An event that happened. -/
structure Move where
  /-- When it happened. -/
  time : Nat
  /-- What happened. -/
  event : DetectionEvent
  /-- The detection before it. -/
  before : Detection
  /-- The detection after it. -/
  after : Detection
  /-- The event can happen, and makes the one from the other. -/
  happens : before.step time event = some after

/-- The moves of a run of the detection, the latest first, and the detection they lead to. -/
inductive Run (refresh : Option Nat) : List Move → Detection → Prop
  /-- Nothing has happened. -/
  | start : Run refresh [] (.start refresh)
  /-- One more event happened. -/
  | move {moves : List Move} (m : Move) (run : Run refresh moves m.before)
      (later : ∀ earlier ∈ moves, earlier.time ≤ m.time) : Run refresh (m :: moves) m.after

/-- What a move did. -/
theorem Move.effect (m : Move) : m.before.Effect m.time m.event m.after :=
  Detection.effect_of_step m.happens

namespace Run

variable {refresh : Option Nat} {moves : List Move} {d : Detection}

/-- After how long to look up again stays. -/
theorem refresh_eq (h : Run refresh moves d) : d.refresh = refresh := by
  induction h with
  | start => rfl
  | move m _ _ ih => rw [m.effect.refresh_eq, ih]

/-- **What happened up to a move is a run**, and what happened later is not before it. -/
theorem split {later earlier : List Move} {m : Move} (h : Run refresh (later ++ m :: earlier) d) :
    Run refresh (m :: earlier) m.after ∧ ∀ next ∈ later, m.time ≤ next.time := by
  induction later generalizing d with
  | nil =>
    cases h with
    | move _ run htime => exact ⟨.move m run htime, by simp⟩
  | cons last later ih =>
    cases h with
    | move _ run htime =>
      obtain ⟨hrun, hlater⟩ := ih run
      have hlast : m.time ≤ last.time := htime m (by simp)
      exact ⟨hrun, List.forall_mem_cons.mpr ⟨hlast, hlater⟩⟩

end Run

/-! ### Runs from events -/

/-- The detection after some events with their times, the earliest first, if they can happen. -/
def Detection.play (d : Detection) : List (Nat × DetectionEvent) → Option Detection
  | [] => some d
  | (time, e) :: rest => (d.step time e).bind (·.play rest)

/-- A run goes on with the events that can happen after it. -/
theorem Run.append_play {refresh : Option Nat} {moves : List Move} {d d' : Detection}
    (h : Run refresh moves d) {events : List (Nat × DetectionEvent)}
    (hsorted : (events.map Prod.fst).Pairwise (· ≤ ·))
    (hlater : ∀ m ∈ moves, ∀ x ∈ events, m.time ≤ x.1) (hplay : d.play events = some d') :
    ∃ more, Run refresh (more ++ moves) d' ∧
      more.map (fun m => (m.time, m.event)) = events.reverse := by
  induction events generalizing moves d with
  | nil =>
    rw [Detection.play, Option.some.injEq] at hplay
    exact ⟨[], hplay ▸ h, rfl⟩
  | cons x rest ih =>
    obtain ⟨time, e⟩ := x
    rw [List.map_cons, List.pairwise_cons] at hsorted
    obtain ⟨next, hstep, hrest⟩ := Option.bind_eq_some_iff.mp hplay
    let m : Move := ⟨time, e, d, next, hstep⟩
    have hrun : Run refresh (m :: moves) next :=
      .move m h fun earlier hearlier => hlater earlier hearlier _ List.mem_cons_self
    have hnext : ∀ earlier ∈ m :: moves, ∀ x ∈ rest, earlier.time ≤ x.1 := by
      intro earlier hearlier x hx
      rcases List.mem_cons.mp hearlier with rfl | hearlier
      · exact hsorted.1 _ (List.mem_map_of_mem hx)
      · exact hlater earlier hearlier x (List.mem_cons_of_mem _ hx)
    obtain ⟨more, hmore, hmap⟩ := ih hrun hsorted.2 hnext hrest
    refine ⟨more ++ [m], by rwa [List.append_assoc], ?_⟩
    rw [List.map_append, hmap, List.reverse_cons, List.map_singleton]

/-- **Events that can happen one after the other make a run.** -/
theorem Run.of_play {refresh : Option Nat} {events : List (Nat × DetectionEvent)} {d : Detection}
    (hsorted : (events.map Prod.fst).Pairwise (· ≤ ·))
    (hplay : (Detection.start refresh).play events = some d) :
    ∃ moves, Run refresh moves d ∧
      moves.map (fun m => (m.time, m.event)) = events.reverse := by
  obtain ⟨more, hrun, hmap⟩ := Run.start.append_play hsorted (by simp) hplay
  rw [List.append_nil] at hrun
  exact ⟨more, hrun, hmap⟩

/-- What holds of all events with their times holds of the moves that they make. -/
theorem forall_of_play {moves : List Move} {events : List (Nat × DetectionEvent)}
    (hmap : moves.map (fun m => (m.time, m.event)) = events.reverse)
    {P : Nat × DetectionEvent → Prop} (h : ∀ x ∈ events, P x) :
    ∀ m ∈ moves, P (m.time, m.event) := by
  intro m hm
  have hmem : (m.time, m.event) ∈ moves.map fun m => (m.time, m.event) :=
    List.mem_map_of_mem hm
  rw [hmap] at hmem
  exact h _ (List.mem_reverse.mp hmem)

/-! ### A caller who is alone -/

namespace Detection

@[simp] theorem usable_setCaller (d : Detection) (id : CallerId) (p : DetectionPhase) (now : Nat) :
    (d.setCaller id p).usable now = d.usable now := rfl

/-- What happens when a caller is alone and a lookup, where there is one, ends at once. -/
def aloneEvents (d : Detection) (now : Nat) (id : CallerId) (address : Option Net.Ip) :
    List (Nat × DetectionEvent) :=
  if (d.usable now).isSome then [(now, .arrive id), (now, .look id)]
  else [(now, .arrive id), (now, .look id), (now, .begin id), (now, .check id),
    (now, .lookedUp id address)]

/-- **A caller who is alone is told what `Detection.ask` says**, and that is what is known
afterwards. -/
theorem play_alone {d : Detection} {id : CallerId} (hfresh : d.callers.find? id = none)
    (hturn : d.turn = none) (now : Nat) (address : Option Net.Ip) :
    ∃ d', d.play (d.aloneEvents now id address) = some d' ∧
      d'.callers.find? id = some (.told (d.ask now address).1) ∧
      d'.detected = (d.ask now address).2.2.detected ∧ d'.turn = none := by
  let d₁ := d.setCaller id .arrived
  have harrive : d.step now (.arrive id) = some d₁ := (Effect.arrive hfresh).step_eq
  cases husable : d.usable now with
  | some net =>
    let d₂ := d₁.setCaller id (.told net)
    have hlook : d₁.step now (.look id) = some d₂ :=
      (Effect.tell (d := d₁) (Table.find?_insert_self ..) husable).step_eq
    refine ⟨d₂, ?_, ?_, ?_, hturn⟩
    · simp [aloneEvents, husable, play, harrive, hlook]
    · simp [ask, husable, d₂]
    · simp [ask, husable, d₁, d₂]
  | none =>
    let d₂ := d₁.setCaller id .queued
    let d₃ := { d₂.setCaller id .checking with turn := some id }
    let d₄ := d₃.setCaller id (.lookingUp d.lastKnown)
    have hlook : d₁.step now (.look id) = some d₂ :=
      (Effect.wait (d := d₁) (Table.find?_insert_self ..) husable).step_eq
    have hbegin : d₂.step now (.begin id) = some d₃ :=
      (Effect.begin (d := d₂) (Table.find?_insert_self ..) hturn).step_eq
    have hcheck : d₃.step now (.check id) = some d₄ :=
      (Effect.start (d := d₃) (Table.find?_insert_self ..) husable).step_eq
    let known := Detected.ofLookup d.lastKnown now address
    let d₅ := ({ d₄ with detected := some known }.setCaller id (.told known.net)).endTurn id
    have hlookedUp : d₄.step now (.lookedUp id address) = some d₅ :=
      (Effect.finish (d := d₄) (Table.find?_insert_self ..)).step_eq
    refine ⟨d₅, ?_, ?_, ?_, ?_⟩
    · simp [aloneEvents, husable, play, harrive, hlook, hbegin, hcheck, hlookedUp]
    · cases address <;> simp [ask, husable, Detected.ofLookup, known, d₅]
    · cases address <;> simp [ask, husable, Detected.ofLookup, known, d₅]
    · simp [turn_endTurn, d₃, d₄, d₅]

end Detection

end DohRelay.Subnet
