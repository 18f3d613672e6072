import DohRelay.Proofs.Cache.Clock

/-!
# How fetches end

A fetch that does not die is marked from its start until it is released with a result: the one it
came to by itself, or else that it took too long.  Whoever waits for it is given that result, and
the next miss starts another fetch.  Where the clock moves on only when nothing is left to be done,
all this has happened by the deadline of the fetch.

## Main definitions

* `Attended` — what becomes of a caller who waited for a fetch.
* `Flight`, `OnTime` — what is true of a fetch at any time, and what the clock adds to that.

## Main results

* `Run.attended` — **whoever waited for a fetch still does, went away, or was given its result.**
* `Run.starts_after_release` — **the next miss after the end of a fetch starts another.**
* `fetches_end` — **every fetch that does not die ends, for all who wait for it, and on time.**
-/

namespace DohRelay.Cache

/-! ### What can be done -/

namespace State

variable {s : State} {id : CallerId} {f : Fetch} {now : Nat}

/-- From its deadline on, a fetch that can still be joined can go on. -/
theorem exists_step_of_isOpen (hf : s.fetches.find? id = some f) (hopen : f.phase.isOpen = true)
    (hlate : s.deadline f ≤ now) :
    ∃ e s', s.fetchEvent? id now = some e ∧ s.step now e = some s' := by
  cases hp : f.phase with
  | running =>
    exact ⟨.expire id, _, by simp [fetchEvent?, hf, hp, hlate],
      step_of_effect (.expire hf hp hlate)⟩
  | ended result =>
    exact ⟨.store id, _, by simp [fetchEvent?, hf, hp], by simp only [step, store, hf, hp]; rfl⟩
  | stored result =>
    exact ⟨.release id, _, by simp [fetchEvent?, hf, hp], step_of_effect (.release hf hp)⟩
  | released | crashed =>
    rw [hp] at hopen
    cases hopen

/-- Whoever waits for a fetch whose marker was taken away can be given its result. -/
theorem step_take (hf : s.fetches.find? id = some f) {result : FetchResult}
    (hp : f.phase = .released result) {i : CallerId} {c : Caller} {outcome : Outcome}
    (hc : s.callers.find? i = some c) (hwaiting : c.phase = .waiting id outcome) :
    s.step now (.take i) = some (s.setCaller i c (CallerPhase.served outcome result)) := by
  cases result with
  | ok answer => exact step_of_effect (.takeAnswer hc hwaiting hf hp)
  | error e => exact step_of_effect (.takeError hc hwaiting hf (.inl hp))

end State

/-! ### Who waits for a fetch -/

/-- What has become of a caller who waited for a fetch. -/
inductive Attended (s : State) (fetch : CallerId) (outcome : Outcome) : CallerPhase → Prop
  /-- The caller still waits. -/
  | waiting : Attended s fetch outcome (.waiting fetch outcome)
  /-- The caller went away. -/
  | gone : Attended s fetch outcome .gone
  /-- The caller was given the result. -/
  | served {f : Fetch} {result : FetchResult} (found : s.fetches.find? fetch = some f)
      (phase : f.phase = .released result) :
      Attended s fetch outcome (CallerPhase.served outcome result)
  /-- The caller was told that the fetch died. -/
  | despaired {f : Fetch} (found : s.fetches.find? fetch = some f) (phase : f.phase = .crashed) :
      Attended s fetch outcome (.failed (.exchange crashMessage))

theorem State.CallerPhase.isOver_served (outcome : Outcome) (result : FetchResult) :
    isOver (.served outcome result) = true := by
  cases result <;> rfl

/-- What a caller does who waits for a fetch. -/
theorem Turn.attended {s : State} {id fetch : CallerId} {key : Fingerprint} {e : Event}
    {p q : CallerPhase} {outcome : Outcome} (h : Turn s id key e p q)
    (hp : p = .waiting fetch outcome) : Attended s fetch outcome q := by
  cases h with
  | take hf hr =>
    cases hp
    exact .served hf hr
  | despair hf hr =>
    cases hp
    exact .despaired hf hr
  | leave => exact .gone
  | _ => cases hp

namespace Run

variable {timeout : Nat} {moves : List Move} {s : State} {id : CallerId} {f : Fetch}

/-- What was released or died stays so. -/
theorem find?_of_closed {m : Move} (h : Run true timeout moves m.before)
    (hf : m.before.fetches.find? id = some f) (hclosed : f.phase.isOpen = false) :
    m.after.fetches.find? id = some f := by
  obtain ⟨⟨key, startedAt, phase⟩, hg, hkey, htime, hphase⟩ := h.fetch_stays hf
  rcases hphase with hphase | hgo
  · obtain ⟨_, _, _⟩ := f
    cases hkey
    cases htime
    cases hphase
    exact hg
  · rw [hgo.isOpen] at hclosed
    cases hclosed

/-- **Whoever waited for a fetch still does, went away, or was given its result.** -/
theorem attended (h : Run true timeout moves s) {m : Move} (hm : m ∈ moves) {i : CallerId}
    {c : Caller} {outcome : Outcome} (hc : m.after.callers.find? i = some c)
    (hwaiting : c.phase = .waiting id outcome) :
    ∃ p, s.callers.find? i = some { c with phase := p } ∧ Attended s id outcome p := by
  induction h with
  | start => cases hm
  | move last run later ih =>
    rcases List.mem_cons.mp hm with rfl | hm
    · exact ⟨c.phase, hc, hwaiting ▸ .waiting⟩
    · obtain ⟨p, hp, hattended⟩ := ih hm
      obtain ⟨q, hq, hgo⟩ := last.effect.caller_before hp
      refine ⟨q, hq, ?_⟩
      have hstays {f : Fetch} (hf : last.before.fetches.find? id = some f)
          (hclosed : f.phase.isOpen = false) := run.find?_of_closed hf hclosed
      rcases hgo with rfl | hgo
      · cases hattended with
        | waiting => exact .waiting
        | gone => exact .gone
        | served hf hphase => exact .served (hstays hf (by rw [hphase]; rfl)) hphase
        | despaired hf hphase => exact .despaired (hstays hf (by rw [hphase]; rfl)) hphase
      · have hover := hgo.isOver
        cases hattended with
        | waiting =>
          cases hgo.attended rfl with
          | waiting => exact .waiting
          | gone => exact .gone
          | served hf hphase => exact .served (hstays hf (by rw [hphase]; rfl)) hphase
          | despaired hf hphase => exact .despaired (hstays hf (by rw [hphase]; rfl)) hphase
        | gone | despaired => cases hover
        | @served f result =>
          rw [State.CallerPhase.isOver_served] at hover
          cases hover

end Run

/-! ### What a fetch comes to -/

/-- A result stays. -/
theorem Progress.result?_eq {id : CallerId} {e : Event} {p q : FetchPhase}
    (h : Progress id e p q) {result : FetchResult} (hp : p.result? = some result) :
    q.result? = some result := by
  cases h <;> simp_all [FetchPhase.result?]

/-- A fetch that goes on comes to a result of its own. -/
theorem Move.of_complete {m : Move} {id : CallerId} {result : FetchResult}
    (hevent : m.event = .complete id result) :
    ∃ f, m.before.fetches.find? id = some f ∧ f.phase = .running ∧
      m.after.fetches.find? id = some { f with phase := .ended result } := by
  have heffect := m.effect
  rw [hevent] at heffect
  generalize m.after = s' at heffect
  cases heffect with
  | complete hf hp => exact ⟨_, hf, hp, (State.find?_fetches_setFetch ..).trans (if_pos rfl)⟩

namespace Run

variable {timeout : Nat} {moves : List Move} {s : State} {id : CallerId} {f : Fetch}

theorem deadline_eq (h : Run true timeout moves s) (f : Fetch) :
    s.deadline f = f.startedAt + timeout := by
  rw [State.deadline, h.timeout_eq]

/-- What a fetch has come to by itself is its result ever after. -/
theorem result?_of_complete (h : Run true timeout moves s) {m : Move} (hm : m ∈ moves)
    {result : FetchResult} (hevent : m.event = .complete id result) :
    ∃ f, s.fetches.find? id = some f ∧ f.phase.result? = some result := by
  induction h with
  | start => cases hm
  | move last run later ih =>
    rcases List.mem_cons.mp hm with rfl | hm
    · obtain ⟨f, -, -, hf⟩ := m.of_complete hevent
      exact ⟨_, hf, rfl⟩
    · obtain ⟨f, hf, hresult⟩ := ih hm
      obtain ⟨g, hg, -, -, hphase | hgo⟩ := run.fetch_stays hf
      · exact ⟨g, hg, by rw [hphase, hresult]⟩
      · exact ⟨g, hg, hgo.result?_eq hresult⟩

/-- The result of a fetch was settled by a move. -/
theorem exists_settles (h : Run true timeout moves s) (hf : s.fetches.find? id = some f)
    {result : FetchResult} (hr : f.phase.result? = some result) :
    ∃ m ∈ moves, m.Settles id (s.deadline f) result := by
  induction h generalizing f with
  | start => simp [State.start] at hf
  | @move moves m run later ih =>
    have hdeadline : m.after.deadline f = m.before.deadline f := by
      rw [State.deadline, State.deadline, m.effect.timeout_eq]
    rw [hdeadline]
    have hbefore {g : Fetch} (hg : m.before.fetches.find? id = some g)
        (hr : g.phase.result? = some result) :
        ∃ m' ∈ m :: moves, m'.Settles id (m.before.deadline g) result := by
      obtain ⟨m', hm', hsettles⟩ := ih hg hr
      exact ⟨m', List.mem_cons_of_mem _ hm', hsettles⟩
    rcases m.effect.fetch_after run.enabled_eq hf with hsame | hstarting | ⟨g, hg, hfg, hgo⟩
    · exact hbefore hsame hr
    · rw [hstarting.fetch.2] at hr
      cases hr
    · have hsame : m.before.deadline f = m.before.deadline g := by
        rw [State.deadline, State.deadline, hfg]
      rw [hsame]
      generalize hp : g.phase = p, he : m.event = e, hq : f.phase = q at hgo
      rw [hq] at hr
      cases hgo with
      | complete =>
        cases hr
        exact ⟨m, List.mem_cons_self, .own he⟩
      | expire =>
        cases hr
        exact ⟨m, List.mem_cons_self, .late he (m.deadline_le he hg)⟩
      | crash => cases hr
      | store | release => exact hbefore hg (by rw [hp]; exact hr)

end Run

/-! ### The next fetch -/

/-- The marker of a fetch is taken away from its key. -/
theorem Move.of_release {m : Move} {id : CallerId} (hevent : m.event = .release id) :
    ∃ f, m.after.fetches.find? id = some f ∧ m.after.markers.find? f.key = none := by
  have heffect := m.effect
  rw [hevent] at heffect
  generalize m.after = s' at heffect
  cases heffect with
  | release =>
    exact ⟨_, (State.find?_fetches_setFetch ..).trans (if_pos rfl), Table.find?_erase_self _ _⟩

namespace Run

variable {timeout : Nat} {moves : List Move} {s : State} {id : CallerId} {f : Fetch}

/-- Where a run has come to is where its later moves set out from. -/
theorem of_append {enabled : Bool} {later earlier : List Move} {m : Move}
    (h : Run enabled timeout (later ++ m :: earlier) s) :
    Run enabled timeout (m :: earlier) m.after := by
  induction later generalizing s with
  | nil =>
    cases h with
    | move _ run hlater => exact .move m run hlater
  | cons last rest ih =>
    cases h with
    | move _ run _ => exact ih run

/-- Where no fetch for a key is marked, none is until another is started. -/
theorem isMarked_eq_false {later earlier : List Move} {m : Move} {key : Fingerprint}
    (h : Run true timeout (later ++ m :: earlier) s)
    (hnone : m.after.markers.find? key = none)
    (hno : ∀ m' ∈ later, ∀ i g, m'.Starts i g → g.key ≠ key)
    (hf : s.fetches.find? id = some f) (hkey : f.key = key) : f.phase.isMarked = false := by
  induction later generalizing s f with
  | nil =>
    have hrun := h.of_append
    cases h
    by_contra hmarked
    have hmark := (Tidy.of_run hrun key id).mpr ⟨f, hf, hkey, by simpa using hmarked⟩
    rw [hnone] at hmark
    cases hmark
  | cons last rest ih =>
    obtain ⟨hlast, hrest⟩ := List.forall_mem_cons.mp hno
    cases h with
    | move _ run _ =>
      rcases last.effect.fetch_after run.enabled_eq hf with hsame | hstarting | ⟨g, hg, hfg, hgo⟩
      · exact ih run hrest hsame hkey
      · exact absurd hkey (hlast id f (run.starts_of_starting hf hstarting))
      · -- what is not marked has been released, and goes on no more
        have hmarked := ih run hrest hg (by rw [← hkey, hfg])
        have hopen := hgo.isOpen
        cases hp : g.phase with
        | released =>
          rw [hp] at hopen
          cases hopen
        | _ =>
          rw [hp] at hmarked
          cases hmarked

/-- **The next miss after the end of a fetch starts another**: its marker is gone, and as long as no
other fetch for its key has been started, whoever found no answer and comes to the markers when none
holds starts one. -/
theorem starts_after_release {later earlier : List Move} {m : Move}
    (h : Run true timeout (later ++ m :: earlier) s) (hevent : m.event = .release id)
    (hf : s.fetches.find? id = some f)
    (hno : ∀ m' ∈ later, ∀ i g, m'.Starts i g → g.key ≠ f.key)
    {i : CallerId} {c : Caller} (hc : s.callers.find? i = some c) (hkey : c.key = f.key)
    (hp : c.phase = .entering) {now : Nat}
    (hended : ∀ e, s.entries.find? f.key = some e → e.isExpired now = true) :
    ∃ s', s.step now (.enter i) = some s' ∧
      s'.fetches.find? i = some ⟨f.key, now, .running⟩ ∧ s'.markers.find? f.key = some i := by
  obtain ⟨g, hg, hnone⟩ := m.of_release hevent
  obtain ⟨f', hf', hgkey, -⟩ := h.find?_of_after (List.mem_append_right _ List.mem_cons_self) hg
  rw [hf, Option.some.injEq] at hf'
  subst hf'
  exact h.starts_of_released (fun _ _ => h.isMarked_eq_false (hgkey ▸ hnone) hno) hc hkey hp hended

end Run

/-! ### The end of a fetch -/

/-- What is true of a fetch that did not die, at any time of a run. -/
structure Flight (moves : List Move) (s : State) (id : CallerId) (f : Fetch) : Prop where
  /-- Its marker is there until it is released, and not afterwards. -/
  marked : s.markers.find? f.key = some id ↔ f.phase.isOpen = true
  /-- From its deadline on it can go on until it is released. -/
  goesOn : f.phase.isOpen = true → ∀ now, s.deadline f ≤ now →
    ∃ e s', s.fetchEvent? id now = some e ∧ s.step now e = some s'
  /-- What it came to by itself is its result. -/
  own : ∀ m ∈ moves, ∀ result, m.event = .complete id result → f.phase.result? = some result
  /-- If it came to nothing by itself, its result is that it took too long, said from its deadline
  on. -/
  late : (∀ m ∈ moves, ∀ result, m.event ≠ .complete id result) →
    ∀ result, f.phase.result? = some result →
      result = .error .timeout ∧ ∃ m ∈ moves, m.event = .expire id ∧ s.deadline f ≤ m.time
  /-- Whoever waited for it still does, went away, or was given its result. -/
  waiters : ∀ m ∈ moves, ∀ i c outcome, m.after.callers.find? i = some c →
    c.phase = .waiting id outcome →
      ∃ p, s.callers.find? i = some { c with phase := p } ∧
        (p = .waiting id outcome ∨ p = .gone ∨
          ∃ result, f.phase = .released result ∧ p = .served outcome result)
  /-- Whoever still waits for it when it is released can be given its result. -/
  taken : ∀ result, f.phase = .released result → ∀ i c outcome, s.callers.find? i = some c →
    c.phase = .waiting id outcome →
      ∀ now, s.step now (.take i) = some (s.setCaller i c (.served outcome result))
  /-- Once it is released, the next miss under its key starts another. -/
  next : ∀ later m earlier, moves = later ++ m :: earlier → m.event = .release id →
    (∀ m' ∈ later, ∀ i g, m'.Starts i g → g.key ≠ f.key) →
      ∀ i c now, s.callers.find? i = some c → c.key = f.key → c.phase = .entering →
        (∀ e, s.entries.find? f.key = some e → e.isExpired now = true) →
          ∃ s', s.step now (.enter i) = some s' ∧
            s'.fetches.find? i = some ⟨f.key, now, .running⟩ ∧ s'.markers.find? f.key = some i

/-- What the clock adds to that in a timely run. -/
structure OnTime (moves : List Move) (s : State) (id : CallerId) (f : Fetch) : Prop where
  /-- While the marker is there, the deadline is not passed. -/
  marked : f.phase.isOpen = true → ∀ m ∈ moves, m.time ≤ s.deadline f
  /-- What it came to by itself, it came to by the deadline. -/
  own : ∀ m ∈ moves, ∀ result, m.event = .complete id result → m.time ≤ s.deadline f
  /-- When it was released, it had come to its result at that very time: by itself, or because it
  took too long, and that was said at the deadline. -/
  released : ∀ result, f.phase = .released result →
    ∃ m ∈ moves, m.event = .release id ∧
      ∃ came ∈ moves, came.time = m.time ∧ (came.event = .complete id result ∨
        came.event = .expire id ∧ result = .error .timeout ∧ came.time = s.deadline f)
  /-- The clock stands still from then on until nobody waits for the result any more. -/
  waiters : ∀ result, f.phase = .released result → s.Awaits id →
    ∃ m ∈ moves, m.event = .release id ∧ ∀ m' ∈ moves, m'.time ≤ m.time

namespace Run

variable {timeout : Nat} {moves : List Move} {s : State} {id : CallerId} {f : Fetch}

/-- How a fetch ends that does not die. -/
theorem flight (h : Run true timeout moves s) (hf : s.fetches.find? id = some f)
    (halive : f.phase ≠ .crashed) : Flight moves s id f := by
  constructor
  case marked =>
    rw [Tidy.of_run h f.key id, ← FetchPhase.isMarked_eq_isOpen halive]
    constructor
    · rintro ⟨g, hg, -, hmarked⟩
      rw [hf, Option.some.injEq] at hg
      exact hg ▸ hmarked
    · exact fun hmarked => ⟨f, hf, rfl, hmarked⟩
  case goesOn => exact fun hopen now hlate => State.exists_step_of_isOpen hf hopen hlate
  case own =>
    intro m hm result hevent
    obtain ⟨g, hg, hresult⟩ := h.result?_of_complete hm hevent
    rw [hf, Option.some.injEq] at hg
    exact hg ▸ hresult
  case late =>
    intro hno result hresult
    obtain ⟨m, hm, hsettles⟩ := h.exists_settles hf hresult
    cases hsettles with
    | own hevent => exact absurd hevent (hno m hm result)
    | late hevent hpassed => exact ⟨rfl, m, hm, hevent, hpassed⟩
  case waiters =>
    intro m hm i c outcome hc hwaiting
    obtain ⟨p, hp, hattended⟩ := h.attended hm hc hwaiting
    refine ⟨p, hp, ?_⟩
    cases hattended with
    | waiting => exact .inl rfl
    | gone => exact .inr (.inl rfl)
    | @served g result hg hphase =>
      rw [hf, Option.some.injEq] at hg
      exact .inr (.inr ⟨result, hg ▸ hphase, rfl⟩)
    | despaired hg hphase =>
      rw [hf, Option.some.injEq] at hg
      exact absurd (hg ▸ hphase) halive
  case taken => exact fun result hp i c outcome hc hwaiting now => State.step_take hf hp hc hwaiting
  case next =>
    rintro later m earlier rfl hevent hno i c now hc hkey hp hended
    exact h.starts_after_release hevent hf hno hc hkey hp hended

/-- A fetch comes to a result of its own by its deadline. -/
theorem complete_le_deadline (h : Run true timeout moves s) (htimely : Timely moves)
    (hf : s.fetches.find? id = some f) {m : Move} (hm : m ∈ moves) {result : FetchResult}
    (hevent : m.event = .complete id result) : m.time ≤ s.deadline f := by
  obtain ⟨earlier, hsuffix, hrun, -⟩ := h.exists_before hm
  have htime := htimely.suffix hsuffix
  obtain ⟨g, hg, hp, hafter⟩ := m.of_complete hevent
  obtain ⟨f', hf', -, hstarted⟩ := h.find?_of_after hm hafter
  rw [hf, Option.some.injEq] at hf'
  have hdeadline : m.before.deadline g = s.deadline f := by
    rw [h.deadline_eq, hrun.deadline_eq, hf', hstarted]
  have hrunning := (hrun.punctual (htime.suffix (List.suffix_cons _ _)) hg).running hp
  exact hdeadline ▸ htime.time_le (hrun.ne_nil hg) hrunning
    (State.not_idle_of_running hg hp le_rfl)

/-- In a timely run a fetch is over by its deadline. -/
theorem onTime (h : Run true timeout moves s) (htimely : Timely moves)
    (hf : s.fetches.find? id = some f) : OnTime moves s id f := by
  have hpunctual := h.punctual htimely hf
  constructor
  case marked =>
    intro hopen
    cases hp : f.phase with
    | running => exact hpunctual.running hp
    | ended result | stored result =>
      obtain ⟨came, -, -, htime, hstill, -⟩ := hpunctual.settled (by rw [hp]; rfl)
      exact fun m hm => (hstill (.inl hopen) m hm).trans htime
    | released | crashed =>
      rw [hp] at hopen
      cases hopen
  case own => exact fun m hm result => h.complete_le_deadline htimely hf hm
  case released =>
    intro result hp
    obtain ⟨came, hcame, hsettles, htime, -, hreleased⟩ := hpunctual.settled (by rw [hp]; rfl)
    obtain ⟨m, hm, hevent, heq⟩ := hreleased (by rw [hp]; rfl)
    refine ⟨m, hm, hevent, came, hcame, heq.symm, ?_⟩
    cases hsettles with
    | own hcomplete => exact .inl hcomplete
    | late hexpire hpassed => exact .inr ⟨hexpire, rfl, le_antisymm htime hpassed⟩
  case waiters =>
    intro result hp hawaits
    obtain ⟨came, -, -, -, hstill, hreleased⟩ := hpunctual.settled (by rw [hp]; rfl)
    obtain ⟨m, hm, hevent, heq⟩ := hreleased (by rw [hp]; rfl)
    exact ⟨m, hm, hevent, fun m' hm' => heq ▸ hstill (.inr hawaits) m' hm'⟩

end Run

/-- **Every fetch that does not die ends, for all who wait for it, and on time.**  At any time of a
run there are as many markers as fetches that were not released.  A fetch that did not die is marked
from its start until it is released.  Its result is the one it came to by itself, or else that it
took too long.  Whoever waited for it, the starter or one who joined, is given this result unless
the caller went away, and the next miss under its key starts another.  Where the clock moves on only
when nothing is left to be done, the marker does not outlast the deadline of the fetch, and all who
wait have the result before the clock moves on. -/
theorem fetches_end {timeout : Nat} {moves : List Move} {s : State}
    (h : Run true timeout moves s) :
    s.markers.size = (s.fetches.values.filter fun f => f.phase.isMarked).length ∧
      ∀ id f, s.fetches.find? id = some f → f.phase ≠ .crashed →
        s.deadline f = f.startedAt + timeout ∧ Flight moves s id f ∧
          (Timely moves → OnTime moves s id f) :=
  ⟨h.size_markers, fun _ f hf halive =>
    ⟨h.deadline_eq f, h.flight hf halive, fun htimely => h.onTime htimely hf⟩⟩

/-- Two callers wait for a fetch that comes to nothing. -/
def stuckFetch : List Event :=
  [.arrive 0 rootKey .fetched, .arrive 1 rootKey .fetched, .look 0, .look 1, .enter 0, .enter 1]

/-- The fetch is given up, and both are told. -/
def stuckFetchEnd : List Event :=
  [.expire 0, .store 0, .release 0, .take 0, .take 1]

/-- A fetch that never comes to a result is given up at its deadline, and both callers are told. -/
theorem fetches_end_stuckFetch :
    ∃ moves s, Run true 5000 moves s ∧ Timely moves ∧
      s.callers.find? 0 = some ⟨rootKey, .fetched, .failed .timeout⟩ ∧
      s.callers.find? 1 = some ⟨rootKey, .fetched, .failed .timeout⟩ ∧
      s.fetches.find? 0 = some ⟨rootKey, 0, .released (.error .timeout)⟩ ∧
      s.markers.size = 0 ∧
      Flight moves s 0 ⟨rootKey, 0, .released (.error .timeout)⟩ ∧
      OnTime moves s 0 ⟨rootKey, 0, .released (.error .timeout)⟩ := by
  have hplay : ∃ s s', (State.start true 5000).play (stuckFetch.map (0, ·)) = some s ∧
      s.play (stuckFetchEnd.map (5000, ·)) = some s' ∧
      s.callers = (Table.empty.insert 0 ⟨rootKey, .fetched, .waiting 0 .fetched⟩).insert 1
        ⟨rootKey, .fetched, .waiting 0 .joined⟩ ∧
      s.fetches = Table.empty.insert 0 ⟨rootKey, 0, .running⟩ ∧ s.timeout = 5000 ∧
      s'.callers.find? 0 = some ⟨rootKey, .fetched, .failed .timeout⟩ ∧
      s'.callers.find? 1 = some ⟨rootKey, .fetched, .failed .timeout⟩ ∧
      s'.fetches.find? 0 = some ⟨rootKey, 0, .released (.error .timeout)⟩ ∧
      s'.markers.size = 0 :=
    ⟨_, _, rfl, rfl, rfl, rfl, rfl, rfl, rfl, rfl, rfl⟩
  obtain ⟨s, s', hs, hs', hcallers, hfetches, htimeout, h0, h1, hfetch, hsize⟩ := hplay
  -- before the deadline both callers wait, and nothing can be done
  have hidle : ∀ time < 5000, s.Idle time := by
    intro time htime
    constructor
    · intro id
      by_cases hid : id = 1 ∨ id = 0
      · rcases hid with rfl | rfl <;>
          simp [State.callerEvent?, hcallers, Table.find?_insert, State.isResolved, hfetches]
      · rw [not_or] at hid
        simp [State.callerEvent?, hcallers, Table.find?_insert, hid]
    · intro id
      by_cases hid : id = 0
      · simp [State.fetchEvent?, hfetches, hid, State.deadline, htimeout, htime]
      · simp [State.fetchEvent?, hfetches, Table.find?_insert, hid]
  obtain ⟨first, hrun, htimely, hle⟩ := Timely.append_play .start .nil (by simp) (by simp) hs
  obtain ⟨moves, hrun', htimely', -⟩ := Timely.append_play hrun htimely
    (fun m hm => (hle m hm).trans (Nat.zero_le _)) (fun _ _ time _ => hidle time) hs'
  obtain ⟨-, hflight, honTime⟩ := (fetches_end hrun').2 0 _ hfetch (by simp)
  exact ⟨moves, s', hrun', htimely', h0, h1, hfetch, hsize, hflight, honTime htimely'⟩

end DohRelay.Cache
