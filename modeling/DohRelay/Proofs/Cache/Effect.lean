import DohRelay.Cache.State

/-!
# What an event does to the cache

The cache after an event is told by one case for each thing that can happen: which guard let it
happen, and what it changed.  All that is shown about runs of the cache is shown by these cases.

## Main definitions

* `FetchPhase.isOpen` — whether a fetch can still be joined.
* `Effect` — the cases.
* `Progress`, `Turn` — how a fetch and how a caller gets on.

## Main results

* `effect_of_step`, `step_of_effect` — what an event does is one of the cases, and each of them can
  happen.
* `Effect.enabled_eq`, `Effect.timeout_eq` — nothing switches a cache on or off or changes its
  limit.
* `Effect.fetch_after`, `Effect.fetch_before` — where a fetch came from, and what becomes of it.
* `Effect.caller_after`, `Effect.caller_before` — the same of a caller.
* `Effect.isPast` — a caller who can start no fetch any more never can again.
-/

namespace DohRelay.Cache

/-- Whether a fetch can still be joined: its marker has not been taken away. -/
def FetchPhase.isOpen : FetchPhase → Bool
  | .running | .ended _ | .stored _ => true
  | .released _ | .crashed => false

namespace State

variable (s : State) (id : CallerId) (c : Caller) (f : Fetch)

@[simp] theorem enabled_setCaller (p : CallerPhase) :
    (s.setCaller id c p).enabled = s.enabled := rfl
@[simp] theorem timeout_setCaller (p : CallerPhase) :
    (s.setCaller id c p).timeout = s.timeout := rfl
@[simp] theorem entries_setCaller (p : CallerPhase) :
    (s.setCaller id c p).entries = s.entries := rfl
@[simp] theorem markers_setCaller (p : CallerPhase) :
    (s.setCaller id c p).markers = s.markers := rfl
@[simp] theorem fetches_setCaller (p : CallerPhase) :
    (s.setCaller id c p).fetches = s.fetches := rfl

/-- Only the caller who comes to a phase is another afterwards. -/
theorem find?_callers_setCaller (p : CallerPhase) (i : CallerId) :
    (s.setCaller id c p).callers.find? i =
      if i = id then some { c with phase := p } else s.callers.find? i :=
  Table.find?_insert ..

@[simp] theorem enabled_setFetch (p : FetchPhase) : (s.setFetch id f p).enabled = s.enabled := rfl
@[simp] theorem timeout_setFetch (p : FetchPhase) : (s.setFetch id f p).timeout = s.timeout := rfl
@[simp] theorem entries_setFetch (p : FetchPhase) : (s.setFetch id f p).entries = s.entries := rfl
@[simp] theorem markers_setFetch (p : FetchPhase) : (s.setFetch id f p).markers = s.markers := rfl
@[simp] theorem callers_setFetch (p : FetchPhase) : (s.setFetch id f p).callers = s.callers := rfl

/-- Only the fetch that comes to a phase is another afterwards. -/
theorem find?_fetches_setFetch (p : FetchPhase) (i : CallerId) :
    (s.setFetch id f p).fetches.find? i =
      if i = id then some { f with phase := p } else s.fetches.find? i :=
  Table.find?_insert ..

@[simp] theorem enabled_startFetch (now : Nat) : (s.startFetch id c now).enabled = s.enabled := rfl
@[simp] theorem timeout_startFetch (now : Nat) : (s.startFetch id c now).timeout = s.timeout := rfl
@[simp] theorem entries_startFetch (now : Nat) : (s.startFetch id c now).entries = s.entries := rfl

/-- Only the fetch that is started is another afterwards. -/
theorem find?_fetches_startFetch (now : Nat) (i : CallerId) :
    (s.startFetch id c now).fetches.find? i =
      if i = id then some ⟨c.key, now, .running⟩ else s.fetches.find? i :=
  Table.find?_insert ..

/-- Whoever starts a fetch waits for it. -/
theorem find?_callers_startFetch (now : Nat) (i : CallerId) :
    (s.startFetch id c now).callers.find? i =
      if i = id then some { c with phase := .waiting id .fetched } else s.callers.find? i :=
  Table.find?_insert ..

/-- Where the cache is switched on, a fetch that is started is marked. -/
theorem find?_markers_startFetch (now : Nat) (hon : s.enabled = true) (key : Fingerprint) :
    (s.startFetch id c now).markers.find? key =
      if key = c.key then some id else s.markers.find? key := by
  have h : (s.startFetch id c now).markers = s.markers.insert c.key id := by
    simp [startFetch, setCaller, hon]
  rw [h, Table.find?_insert]

/-- The phase that a caller comes to who found nothing. -/
def missPhase : Want → CallerPhase
  | .stored => .missed
  | .fetched => .entering

theorem miss_eq : s.miss id c = s.setCaller id c (missPhase c.want) := by
  unfold miss
  cases c.want <;> rfl

end State

/-- What an event that happens at the time `now` makes of a cache. -/
inductive Effect (now : Nat) (s : State) : Event → State → Prop
  /-- A caller comes. -/
  | arrive {id : CallerId} {key : Fingerprint} {want : Want} (fresh : s.callers.find? id = none) :
      Effect now s (.arrive id key want)
        { s with callers := s.callers.insert id ⟨key, want, .arrived⟩ }
  /-- A caller finds an answer that holds. -/
  | hit {id : CallerId} {c : Caller} {e : Entry} (caller : s.callers.find? id = some c)
      (phase : c.phase = .arrived) (on : s.enabled = true)
      (entry : s.entries.find? c.key = some e) (holds : now < e.expiresAt) :
      Effect now s (.look id) (s.setCaller id c (.answered e.answer .hit))
  /-- A caller finds an answer that holds no more. -/
  | stale {id : CallerId} {c : Caller} {e : Entry} (caller : s.callers.find? id = some c)
      (phase : c.phase = .arrived) (on : s.enabled = true)
      (entry : s.entries.find? c.key = some e) (ended : e.expiresAt ≤ now) :
      Effect now s (.look id) (s.setCaller id c (.dropping now))
  /-- A caller finds no answer. -/
  | miss {id : CallerId} {c : Caller} (caller : s.callers.find? id = some c)
      (phase : c.phase = .arrived) (on : s.enabled = true)
      (entry : s.entries.find? c.key = none) :
      Effect now s (.look id) (s.setCaller id c (State.missPhase c.want))
  /-- A caller asks a cache that is switched off for an answer that is there. -/
  | refuse {id : CallerId} {c : Caller} (caller : s.callers.find? id = some c)
      (phase : c.phase = .arrived) (off : s.enabled = false) (want : c.want = .stored) :
      Effect now s (.look id) (s.setCaller id c .missed)
  /-- A caller starts a fetch because the cache is switched off. -/
  | bypass {id : CallerId} {c : Caller} (caller : s.callers.find? id = some c)
      (phase : c.phase = .arrived) (off : s.enabled = false) (want : c.want = .fetched) :
      Effect now s (.look id) (s.startFetch id c now)
  /-- A caller drops an answer. -/
  | drop {id : CallerId} {c : Caller} {seenAt : Nat} (caller : s.callers.find? id = some c)
      (phase : c.phase = .dropping seenAt) :
      Effect now s (.drop id) ({ s with entries := s.entries.drop c.key seenAt }.setCaller id c
        (State.missPhase c.want))
  /-- A caller joins the fetch that is marked. -/
  | join {id fetch : CallerId} {c : Caller} (caller : s.callers.find? id = some c)
      (phase : c.phase = .entering) (marker : s.markers.find? c.key = some fetch) :
      Effect now s (.enter id) (s.setCaller id c (.waiting fetch .joined))
  /-- A caller who was about to start a fetch finds an answer that holds. -/
  | lateHit {id : CallerId} {c : Caller} {e : Entry} (caller : s.callers.find? id = some c)
      (phase : c.phase = .entering) (marker : s.markers.find? c.key = none)
      (entry : s.entries.find? c.key = some e) (holds : now < e.expiresAt) :
      Effect now s (.enter id) (s.setCaller id c (.answered e.answer .hit))
  /-- A caller starts a fetch: none is marked, and no answer holds. -/
  | start {id : CallerId} {c : Caller} (caller : s.callers.find? id = some c)
      (phase : c.phase = .entering) (marker : s.markers.find? c.key = none)
      (ended : ∀ e, s.entries.find? c.key = some e → e.expiresAt ≤ now) :
      Effect now s (.enter id)
        ({ s with entries := s.entries.drop c.key now }.startFetch id c now)
  /-- A caller takes the answer of a fetch. -/
  | takeAnswer {id fetch : CallerId} {c : Caller} {outcome : Outcome} {f : Fetch}
      {answer : Dns.Message} (caller : s.callers.find? id = some c)
      (phase : c.phase = .waiting fetch outcome) (found : s.fetches.find? fetch = some f)
      (result : f.phase = .released (.ok answer)) :
      Effect now s (.take id) (s.setCaller id c (.answered answer outcome))
  /-- A caller takes the error of a fetch. -/
  | takeError {id fetch : CallerId} {c : Caller} {outcome : Outcome} {f : Fetch} {e : Error}
      (caller : s.callers.find? id = some c) (phase : c.phase = .waiting fetch outcome)
      (found : s.fetches.find? fetch = some f)
      (result : f.phase = .released (.error e) ∨
        f.phase = .crashed ∧ e = .exchange crashMessage) :
      Effect now s (.take id) (s.setCaller id c (.failed e))
  /-- A caller goes away. -/
  | leave {id : CallerId} {c : Caller} (caller : s.callers.find? id = some c)
      (phase : State.CallerPhase.isOver c.phase = false) (on : s.enabled = true) :
      Effect now s (.leave id) (s.setCaller id c .gone)
  /-- A caller goes away, and a fetch ends that a cache started which is switched off. -/
  | leaveOff {id : CallerId} {c : Caller} (caller : s.callers.find? id = some c)
      (phase : State.CallerPhase.isOver c.phase = false) (off : s.enabled = false) :
      Effect now s (.leave id) { s.setCaller id c .gone with fetches := s.fetches.erase id }
  /-- A fetch comes to a result. -/
  | complete {id : CallerId} {f : Fetch} {result : FetchResult}
      (found : s.fetches.find? id = some f) (phase : f.phase = .running) :
      Effect now s (.complete id result) (s.setFetch id f (.ended result))
  /-- A fetch has taken too long. -/
  | expire {id : CallerId} {f : Fetch} (found : s.fetches.find? id = some f)
      (phase : f.phase = .running) (late : s.deadline f ≤ now) :
      Effect now s (.expire id) (s.setFetch id f (.ended (.error .timeout)))
  /-- A fetch dies. -/
  | crash {id : CallerId} {f : Fetch} (found : s.fetches.find? id = some f)
      (phase : f.phase = .running) (on : s.enabled = true) :
      Effect now s (.crash id) (s.setFetch id f .crashed)
  /-- The answer of a fetch is stored. -/
  | keep {id : CallerId} {f : Fetch} {answer : Dns.Message} {ttl : UInt32}
      (found : s.fetches.find? id = some f) (phase : f.phase = .ended (.ok answer))
      (on : s.enabled = true) (ttl_eq : cacheTtl answer = some ttl) :
      Effect now s (.store id)
        ({ s with entries := s.entries.insert f.key ⟨answer, now, ttl⟩ }.setFetch id f
          (.stored (.ok answer)))
  /-- Nothing is stored of what a fetch came to. -/
  | pass {id : CallerId} {f : Fetch} {result : FetchResult} (found : s.fetches.find? id = some f)
      (phase : f.phase = .ended result)
      (barren : ∀ answer, result = .ok answer → s.enabled = true → cacheTtl answer = none) :
      Effect now s (.store id) (s.setFetch id f (.stored result))
  /-- The marker of a fetch is taken away. -/
  | release {id : CallerId} {f : Fetch} {result : FetchResult}
      (found : s.fetches.find? id = some f) (phase : f.phase = .stored result) :
      Effect now s (.release id)
        ({ s with markers := s.markers.erase f.key }.setFetch id f (.released result))

/-! ### Every event has its effect -/

section

variable {now : Nat} {s s' : State}

private theorem effect_of_look {id : CallerId} (h : s.look id now = some s') :
    Effect now s (.look id) s' := by
  unfold State.look at h
  split at h
  case h_2 => cases h
  case h_1 c hc =>
    split at h
    case h_2 => cases h
    case h_1 hp =>
      split at h
      case isTrue hon =>
        cases he : s.entries.find? c.key with
        | none =>
          simp only [Entries.look, he, State.miss_eq, Option.some.injEq] at h
          exact h ▸ .miss hc hp hon he
        | some e =>
          obtain hholds | hended := Nat.lt_or_ge now e.expiresAt
          · simp only [Entries.look_of_live he hholds, Option.some.injEq] at h
            exact h ▸ .hit hc hp hon he hholds
          · simp only [Entries.look_of_expired he hended, Option.some.injEq] at h
            exact h ▸ .stale hc hp hon he hended
      case isFalse hoff =>
        rw [Bool.not_eq_true] at hoff
        cases hw : c.want with
        | stored =>
          simp only [hw, Option.some.injEq] at h
          exact h ▸ .refuse hc hp hoff hw
        | fetched =>
          simp only [hw, Option.some.injEq] at h
          exact h ▸ .bypass hc hp hoff hw

private theorem effect_of_drop {id : CallerId} (h : s.drop id = some s') :
    Effect now s (.drop id) s' := by
  unfold State.drop at h
  split at h
  case h_2 => cases h
  case h_1 c hc =>
    split at h
    case h_2 => cases h
    case h_1 seenAt hp =>
      simp only [State.miss_eq, Option.some.injEq] at h
      exact h ▸ .drop hc hp

private theorem effect_of_enter {id : CallerId} (h : s.enter id now = some s') :
    Effect now s (.enter id) s' := by
  unfold State.enter at h
  split at h
  case h_2 => cases h
  case h_1 c hc =>
    split at h
    case h_2 => cases h
    case h_1 hp =>
      rw [Option.some.injEq] at h
      subst h
      cases hm : s.markers.find? c.key with
      | some fetch => exact .join hc hp hm
      | none =>
        -- the second look, made only where no fetch is marked
        cases he : s.entries.find? c.key with
        | none =>
          simp only [Entries.look, he]
          exact .start hc hp hm (by simp [he])
        | some e =>
          obtain hholds | hended := Nat.lt_or_ge now e.expiresAt
          · simp only [Entries.look_of_live he hholds]
            exact .lateHit hc hp hm he hholds
          · simp only [Entries.look_of_expired he hended]
            exact .start hc hp hm (by simpa [he] using hended)

private theorem effect_of_take {id : CallerId} (h : s.take id = some s') :
    Effect now s (.take id) s' := by
  unfold State.take at h
  split at h
  case h_2 => cases h
  case h_1 c hc =>
    split at h
    case h_2 => cases h
    case h_1 fetch outcome hp =>
      cases hf : s.fetches.find? fetch with
      | none => simp [hf] at h
      | some f =>
        rw [hf, Option.map_some] at h
        split at h
        case h_1 answer hr =>
          simp only [Option.some.injEq] at hr h
          exact h ▸ .takeAnswer hc hp hf hr
        case h_2 e hr =>
          simp only [Option.some.injEq] at hr h
          exact h ▸ .takeError hc hp hf (.inl hr)
        case h_3 hr =>
          simp only [Option.some.injEq] at hr h
          exact h ▸ .takeError hc hp hf (.inr ⟨hr, rfl⟩)
        case h_4 => cases h

private theorem effect_of_leave {id : CallerId} (h : s.leave id = some s') :
    Effect now s (.leave id) s' := by
  unfold State.leave at h
  split at h
  case h_2 => cases h
  case h_1 c hc =>
    split at h
    case isTrue => cases h
    case isFalse hp =>
      rw [Bool.not_eq_true] at hp
      rw [Option.some.injEq] at h
      subst h
      -- a cache that is switched off has its fetches run by the callers, with whom they end
      rcases Bool.eq_false_or_eq_true s.enabled with hon | hon
      · rw [State.enabled_setCaller, if_pos hon]
        exact .leave hc hp hon
      · rw [State.enabled_setCaller, if_neg (by simp [hon])]
        exact .leaveOff hc hp hon

private theorem effect_of_store {id : CallerId} (h : s.store id now = some s') :
    Effect now s (.store id) s' := by
  unfold State.store at h
  split at h
  case h_2 => cases h
  case h_1 f hf =>
    split at h
    case h_2 => cases h
    case h_1 result hp =>
      rw [Option.some.injEq] at h
      subst h
      cases result with
      | error e => exact .pass hf hp (by simp)
      | ok answer =>
        rcases Bool.eq_false_or_eq_true s.enabled with hon | hon
        · dsimp only
          rw [if_pos hon, Entries.store]
          cases ht : cacheTtl answer with
          | none => exact .pass hf hp (by simp [ht])
          | some ttl => exact .keep hf hp hon ht
        · dsimp only
          rw [if_neg (by simp [hon])]
          exact .pass hf hp (by simp [hon])

/-- **What an event does to the cache.** -/
theorem effect_of_step {e : Event} (h : s.step now e = some s') : Effect now s e s' := by
  cases e with
  | arrive id key want =>
    simp only [State.step, State.arrive] at h
    split at h
    case h_1 => cases h
    case h_2 fresh =>
      rw [Option.some.injEq] at h
      exact h ▸ .arrive fresh
  | look id => exact effect_of_look h
  | drop id => exact effect_of_drop h
  | enter id => exact effect_of_enter h
  | take id => exact effect_of_take h
  | leave id => exact effect_of_leave h
  | complete id result =>
    simp only [State.step, State.complete] at h
    split at h
    case h_2 => cases h
    case h_1 f hf =>
      split at h
      case h_2 => cases h
      case h_1 hp =>
        rw [Option.some.injEq] at h
        exact h ▸ .complete hf hp
  | expire id =>
    simp only [State.step, State.expire] at h
    split at h
    case h_2 => cases h
    case h_1 f hf =>
      split at h
      case h_2 => cases h
      case h_1 hp =>
        split at h
        case isFalse => cases h
        case isTrue late =>
          rw [Option.some.injEq] at h
          exact h ▸ .expire hf hp late
  | crash id =>
    simp only [State.step, State.crash] at h
    split at h
    case h_2 => cases h
    case h_1 f hf =>
      split at h
      case h_2 => cases h
      case h_1 hp =>
        split at h
        case isFalse => cases h
        case isTrue on =>
          rw [Option.some.injEq] at h
          exact h ▸ .crash hf hp on
  | store id => exact effect_of_store h
  | release id =>
    simp only [State.step, State.release] at h
    split at h
    case h_2 => cases h
    case h_1 f hf =>
      split at h
      case h_2 => cases h
      case h_1 result hp =>
        rw [Option.some.injEq] at h
        exact h ▸ .release hf hp

/-- **What is one of the cases can happen.** -/
theorem step_of_effect {e : Event} (h : Effect now s e s') : s.step now e = some s' := by
  cases h with
  | arrive fresh => simp only [State.step, State.arrive, fresh]
  | hit caller phase on entry holds =>
    simp [State.step, State.look, caller, phase, on, Entries.look_of_live entry holds]
  | stale caller phase on entry ended =>
    simp [State.step, State.look, caller, phase, on, Entries.look_of_expired entry ended]
  | miss caller phase on entry =>
    simp [State.step, State.look, caller, phase, on, Entries.look, entry, State.miss_eq]
  | refuse caller phase off want | bypass caller phase off want =>
    simp [State.step, State.look, caller, phase, off, want]
  | drop caller phase => simp [State.step, State.drop, caller, phase, State.miss_eq]
  | join caller phase marker => simp [State.step, State.enter, caller, phase, marker]
  | lateHit caller phase marker entry holds =>
    simp [State.step, State.enter, caller, phase, marker, Entries.look_of_live entry holds]
  | @start id c caller phase marker ended =>
    cases he : s.entries.find? c.key with
    | none => simp [State.step, State.enter, caller, phase, marker, Entries.look, he]
    | some e =>
      simp [State.step, State.enter, caller, phase, marker,
        Entries.look_of_expired he (ended e he)]
  | takeAnswer caller phase found result =>
    simp [State.step, State.take, caller, phase, found, result]
  | takeError caller phase found result =>
    rcases result with result | ⟨result, rfl⟩ <;>
      simp [State.step, State.take, caller, phase, found, result]
  | leave caller phase on => simp [State.step, State.leave, caller, phase, on]
  | leaveOff caller phase off => simp [State.step, State.leave, caller, phase, off]
  | complete found phase => simp [State.step, State.complete, found, phase]
  | expire found phase late => simp [State.step, State.expire, found, phase, late]
  | crash found phase on => simp [State.step, State.crash, found, phase, on]
  | keep found phase on ttl =>
    simp [State.step, State.store, found, phase, on, Entries.store, ttl]
  | @pass id f result found phase barren =>
    cases result with
    | error e => simp [State.step, State.store, found, phase]
    | ok answer =>
      simp only [State.step, State.store, found, phase]
      rcases Bool.eq_false_or_eq_true s.enabled with hon | hoff
      · rw [if_pos hon, Entries.store, barren answer rfl hon]
      · rw [if_neg (by simp [hoff])]
  | release found phase => simp [State.step, State.release, found, phase]

/-- Nothing switches a cache on or off. -/
theorem Effect.enabled_eq {e : Event} (h : Effect now s e s') : s'.enabled = s.enabled := by
  cases h <;> rfl

/-- Nothing changes how long a fetch may take. -/
theorem Effect.timeout_eq {e : Event} (h : Effect now s e s') : s'.timeout = s.timeout := by
  cases h <;> rfl

end

/-! ### Fetches and callers -/

/-- How an event takes a fetch from one phase to the next. -/
inductive Progress (id : CallerId) : Event → FetchPhase → FetchPhase → Prop
  /-- It comes to a result. -/
  | complete (result : FetchResult) : Progress id (.complete id result) .running (.ended result)
  /-- It has taken too long. -/
  | expire : Progress id (.expire id) .running (.ended (.error .timeout))
  /-- It dies. -/
  | crash : Progress id (.crash id) .running .crashed
  /-- Its answer is stored, if it may be. -/
  | store (result : FetchResult) : Progress id (.store id) (.ended result) (.stored result)
  /-- Its marker is taken away. -/
  | release (result : FetchResult) : Progress id (.release id) (.stored result) (.released result)

/-- No fetch gets back to its beginning. -/
theorem Progress.ne_running {id : CallerId} {e : Event} {p q : FetchPhase}
    (h : Progress id e p q) : q ≠ .running := by
  cases h <;> simp

/-- What was released or died goes on no more. -/
theorem Progress.isOpen {id : CallerId} {e : Event} {p q : FetchPhase} (h : Progress id e p q) :
    p.isOpen = true := by
  cases h <;> rfl

/-- What lets a caller start a fetch in a cache that is switched on. -/
structure Starting (s : State) (now : Nat) (e : Event) (id : CallerId) (f : Fetch) : Prop where
  /-- The caller goes to the markers. -/
  event : e = .enter id
  /-- The caller asked for the key of the fetch and found nothing. -/
  caller : ∃ c, s.callers.find? id = some c ∧ c.phase = .entering ∧ c.key = f.key
  /-- The fetch has just begun. -/
  fetch : f.startedAt = now ∧ f.phase = .running
  /-- No fetch is marked. -/
  marker : s.markers.find? f.key = none
  /-- No answer holds. -/
  ended : ∀ e, s.entries.find? f.key = some e → e.expiresAt ≤ now

/-- The phase that a caller comes to who takes the result of a fetch. -/
def CallerPhase.served (outcome : Outcome) : FetchResult → CallerPhase
  | .ok answer => .answered answer outcome
  | .error e => .failed e

/-- How an event takes a caller, who asked for a key, from one phase to the next. -/
inductive Turn (s : State) (id : CallerId) (key : Fingerprint) :
    Event → CallerPhase → CallerPhase → Prop
  /-- The caller finds an answer that holds. -/
  | hit (answer : Dns.Message) : Turn s id key (.look id) .arrived (.answered answer .hit)
  /-- The caller finds an answer that holds no more. -/
  | stale (now : Nat) : Turn s id key (.look id) .arrived (.dropping now)
  /-- The caller finds no answer. -/
  | miss (want : Want) : Turn s id key (.look id) .arrived (State.missPhase want)
  /-- The caller asks a cache that is switched off for an answer that is there. -/
  | refuse : Turn s id key (.look id) .arrived .missed
  /-- The caller starts a fetch because the cache is switched off. -/
  | bypass (off : s.enabled = false) : Turn s id key (.look id) .arrived (.waiting id .fetched)
  /-- The caller drops an answer. -/
  | drop (seenAt : Nat) (want : Want) :
      Turn s id key (.drop id) (.dropping seenAt) (State.missPhase want)
  /-- The caller joins the fetch that is marked. -/
  | join {fetch : CallerId} (marker : s.markers.find? key = some fetch) :
      Turn s id key (.enter id) .entering (.waiting fetch .joined)
  /-- The caller was about to start a fetch and finds an answer that holds. -/
  | lateHit (answer : Dns.Message) : Turn s id key (.enter id) .entering (.answered answer .hit)
  /-- The caller starts a fetch. -/
  | start (marker : s.markers.find? key = none) :
      Turn s id key (.enter id) .entering (.waiting id .fetched)
  /-- The caller takes the result of a fetch. -/
  | take {fetch : CallerId} {outcome : Outcome} {f : Fetch} {result : FetchResult}
      (found : s.fetches.find? fetch = some f) (phase : f.phase = .released result) :
      Turn s id key (.take id) (.waiting fetch outcome) (CallerPhase.served outcome result)
  /-- The caller is told that a fetch died. -/
  | despair {fetch : CallerId} {outcome : Outcome} {f : Fetch}
      (found : s.fetches.find? fetch = some f) (phase : f.phase = .crashed) :
      Turn s id key (.take id) (.waiting fetch outcome) (.failed (.exchange crashMessage))
  /-- The caller goes away. -/
  | leave {p : CallerPhase} (phase : State.CallerPhase.isOver p = false) :
      Turn s id key (.leave id) p .gone

/-- Whether a caller can start no fetch any more. -/
def CallerPhase.isPast : CallerPhase → Bool
  | .arrived | .dropping _ | .entering => false
  | _ => true

theorem CallerPhase.isPast_served (outcome : Outcome) (result : FetchResult) :
    (CallerPhase.served outcome result).isPast = true := by
  cases result <;> rfl

theorem Turn.isPast {s : State} {id : CallerId} {key : Fingerprint} {e : Event} {p q : CallerPhase}
    (h : Turn s id key e p q) (hp : p.isPast = true) : q.isPast = true := by
  cases h with
  | take => exact CallerPhase.isPast_served _ _
  | despair | leave => rfl
  | _ => cases hp

/-- Whoever has come to an end does nothing more. -/
theorem Turn.isOver {s : State} {id : CallerId} {key : Fingerprint} {e : Event} {p q : CallerPhase}
    (h : Turn s id key e p q) : State.CallerPhase.isOver p = false := by
  cases h with
  | leave hp => exact hp
  | _ => rfl

/-- Whoever comes to wait joined the fetch that is marked, or started one of its own. -/
theorem Turn.of_waiting {s : State} (hon : s.enabled = true) {id fetch : CallerId}
    {key : Fingerprint} {e : Event} {p q : CallerPhase} {outcome : Outcome}
    (h : Turn s id key e p q) (hq : q = .waiting fetch outcome) :
    p = .entering ∧ (s.markers.find? key = some fetch ∨ fetch = id) := by
  cases h with
  | bypass hoff =>
    rw [hon] at hoff
    cases hoff
  | join hm =>
    cases hq
    exact ⟨rfl, .inl hm⟩
  | start =>
    cases hq
    exact ⟨rfl, .inr rfl⟩
  | miss want | drop seenAt want => cases want <;> cases hq
  | @take _ _ _ result => cases result <;> cases hq
  | _ => cases hq

/-- Nobody comes to wait for an answer from the cache. -/
theorem Turn.ne_waiting_hit {s : State} {id fetch : CallerId} {key : Fingerprint} {e : Event}
    {p q : CallerPhase} (h : Turn s id key e p q) : q ≠ .waiting fetch .hit := by
  cases h with
  | miss want | drop _ want => cases want <;> simp [State.missPhase]
  | @take _ _ _ result => cases result <;> simp [CallerPhase.served]
  | _ => simp

namespace Effect

variable {now : Nat} {s s' : State} {e : Event} {id : CallerId} {f : Fetch}

/-- Where a fetch came from: it was there, it got on, or it was started. -/
theorem fetch_after (he : Effect now s e s') (hon : s.enabled = true)
    (hf : s'.fetches.find? id = some f) :
    s.fetches.find? id = some f ∨ Starting s now e id f ∨
      ∃ g, s.fetches.find? id = some g ∧ f = { g with phase := f.phase } ∧
        Progress id e g.phase f.phase := by
  -- most events bring one fetch to another phase, and leave the others alone
  have hset {i : CallerId} {g : Fetch} {p : FetchPhase} {t : State}
      (hg : s.fetches.find? i = some g) (ht : t.fetches = s.fetches)
      (hgo : Progress i e g.phase p) (hf : (t.setFetch i g p).fetches.find? id = some f) :
      s.fetches.find? id = some f ∨ Starting s now e id f ∨
        ∃ g, s.fetches.find? id = some g ∧ f = { g with phase := f.phase } ∧
          Progress id e g.phase f.phase := by
    rcases Table.find?_insert_eq_some.mp hf with ⟨rfl, rfl⟩ | ⟨-, hf⟩
    · exact .inr (.inr ⟨g, hg, rfl, hgo⟩)
    · exact .inl (ht ▸ hf)
  cases he with
  | bypass _ _ hoff => rw [hon] at hoff; cases hoff
  | leaveOff _ _ hoff => rw [hon] at hoff; cases hoff
  | @start _ c hc hp hm hended =>
    rcases Table.find?_insert_eq_some.mp hf with ⟨rfl, rfl⟩ | ⟨-, hf⟩
    · exact .inr (.inl ⟨rfl, ⟨c, hc, hp, rfl⟩, ⟨rfl, rfl⟩, hm, hended⟩)
    · exact .inl hf
  | complete hg hp => exact hset hg rfl (hp ▸ .complete _) hf
  | expire hg hp => exact hset hg rfl (hp ▸ .expire) hf
  | crash hg hp => exact hset hg rfl (hp ▸ .crash) hf
  | keep hg hp => exact hset hg rfl (hp ▸ .store _) hf
  | pass hg hp => exact hset hg rfl (hp ▸ .store _) hf
  | release hg hp => exact hset hg rfl (hp ▸ .release _) hf
  | _ => exact .inl hf

/-- Fetches do not go away, keep their keys and the times they were started at, and stay where they
are or get on, as long as none is started under their names. -/
theorem fetch_before (he : Effect now s e s') (hon : s.enabled = true)
    (hf : s.fetches.find? id = some f) (hno : ∀ g, ¬ Starting s now e id g) :
    ∃ g, s'.fetches.find? id = some g ∧ g.key = f.key ∧ g.startedAt = f.startedAt ∧
      (g.phase = f.phase ∨ Progress id e f.phase g.phase) := by
  have hset {i : CallerId} {g : Fetch} {p : FetchPhase} {t : State}
      (hg : s.fetches.find? i = some g) (ht : t.fetches = s.fetches)
      (hgo : Progress i e g.phase p) :
      ∃ f', (t.setFetch i g p).fetches.find? id = some f' ∧ f'.key = f.key ∧
        f'.startedAt = f.startedAt ∧ (f'.phase = f.phase ∨ Progress id e f.phase f'.phase) := by
    rw [State.find?_fetches_setFetch, ht]
    split
    case isTrue hi =>
      subst hi
      rw [hf, Option.some.injEq] at hg
      subst hg
      exact ⟨_, rfl, rfl, rfl, .inr hgo⟩
    case isFalse => exact ⟨f, hf, rfl, rfl, .inl rfl⟩
  cases he with
  | bypass _ _ hoff => rw [hon] at hoff; cases hoff
  | leaveOff _ _ hoff => rw [hon] at hoff; cases hoff
  | @start i c hc hp hm hended =>
    rw [State.find?_fetches_startFetch]
    split
    case isTrue hi =>
      subst hi
      exact absurd ⟨rfl, ⟨c, hc, hp, rfl⟩, ⟨rfl, rfl⟩, hm, hended⟩ (hno ⟨c.key, now, .running⟩)
    case isFalse => exact ⟨f, hf, rfl, rfl, .inl rfl⟩
  | complete hg hp => exact hset hg rfl (hp ▸ .complete _)
  | expire hg hp => exact hset hg rfl (hp ▸ .expire)
  | crash hg hp => exact hset hg rfl (hp ▸ .crash)
  | keep hg hp => exact hset hg rfl (hp ▸ .store _)
  | pass hg hp => exact hset hg rfl (hp ▸ .store _)
  | release hg hp => exact hset hg rfl (hp ▸ .release _)
  | _ => exact ⟨f, hf, rfl, rfl, .inl rfl⟩

/-- The key of a fetch is that of a fetch that was there, or of the caller who started it, whether
the cache is switched on or off. -/
theorem key_of_fetch (he : Effect now s e s') (hf : s'.fetches.find? id = some f) :
    (∃ g, s.fetches.find? id = some g ∧ g.key = f.key) ∨
      ∃ c, s.callers.find? id = some c ∧ c.key = f.key := by
  have hset {i : CallerId} {g : Fetch} {p : FetchPhase} {t : State}
      (hg : s.fetches.find? i = some g) (ht : t.fetches = s.fetches)
      (hf : (t.setFetch i g p).fetches.find? id = some f) :
      (∃ g, s.fetches.find? id = some g ∧ g.key = f.key) ∨
        ∃ c, s.callers.find? id = some c ∧ c.key = f.key := by
    rcases Table.find?_insert_eq_some.mp hf with ⟨rfl, rfl⟩ | ⟨-, hf⟩
    · exact .inl ⟨g, hg, rfl⟩
    · exact .inl ⟨f, ht ▸ hf, rfl⟩
  have hstart {i : CallerId} {c : Caller} {t : State} (hc : s.callers.find? i = some c)
      (ht : t.fetches = s.fetches) (hf : (t.startFetch i c now).fetches.find? id = some f) :
      (∃ g, s.fetches.find? id = some g ∧ g.key = f.key) ∨
        ∃ c, s.callers.find? id = some c ∧ c.key = f.key := by
    rcases Table.find?_insert_eq_some.mp hf with ⟨rfl, rfl⟩ | ⟨-, hf⟩
    · exact .inr ⟨c, hc, rfl⟩
    · exact .inl ⟨f, ht ▸ hf, rfl⟩
  cases he with
  | bypass hc | start hc => exact hstart hc rfl hf
  | leaveOff => exact .inl ⟨f, (Table.find?_erase_eq_some.mp hf).2, rfl⟩
  | complete hg | expire hg | crash hg | keep hg | pass hg | release hg => exact hset hg rfl hf
  | _ => exact .inl ⟨f, hf, rfl⟩

/-- Callers do not go away from the books, keep what they asked for, and stay where they are or get
on. -/
theorem caller_before (he : Effect now s e s') {c : Caller} (hc : s.callers.find? id = some c) :
    ∃ p, s'.callers.find? id = some { c with phase := p } ∧
      (p = c.phase ∨ Turn s id c.key e c.phase p) := by
  have hset {i : CallerId} {d : Caller} {p : CallerPhase} {t : State}
      (hd : s.callers.find? i = some d) (ht : t.callers = s.callers)
      (hgo : Turn s i d.key e d.phase p) :
      ∃ q, (t.setCaller i d p).callers.find? id = some { c with phase := q } ∧
        (q = c.phase ∨ Turn s id c.key e c.phase q) := by
    rw [State.find?_callers_setCaller, ht]
    split
    case isTrue hi =>
      subst hi
      rw [hc, Option.some.injEq] at hd
      subst hd
      exact ⟨p, rfl, .inr hgo⟩
    case isFalse => exact ⟨c.phase, hc, .inl rfl⟩
  cases he with
  | @arrive i _ _ fresh =>
    have hi : id ≠ i := by
      rintro rfl
      rw [fresh] at hc
      cases hc
    exact ⟨c.phase, (Table.find?_insert_of_ne _ hi _).trans hc, .inl rfl⟩
  | hit hd hp => exact hset hd rfl (hp ▸ .hit _)
  | stale hd hp => exact hset hd rfl (hp ▸ .stale _)
  | miss hd hp => exact hset hd rfl (hp ▸ .miss _)
  | refuse hd hp => exact hset hd rfl (hp ▸ .refuse)
  | bypass hd hp hoff => exact hset hd rfl (hp ▸ .bypass hoff)
  | drop hd hp => exact hset hd rfl (hp ▸ .drop _ _)
  | join hd hp hm => exact hset hd rfl (hp ▸ .join hm)
  | lateHit hd hp => exact hset hd rfl (hp ▸ .lateHit _)
  | start hd hp hm => exact hset hd rfl (hp ▸ .start hm)
  | takeAnswer hd hp hf hr => exact hset hd rfl (hp ▸ .take hf hr)
  | takeError hd hp hf hr =>
    rcases hr with hr | ⟨hr, rfl⟩
    · exact hset hd rfl (hp ▸ .take hf hr)
    · exact hset hd rfl (hp ▸ .despair hf hr)
  | leave hd hp => exact hset hd rfl (.leave hp)
  | leaveOff hd hp => exact hset hd rfl (.leave hp)
  | _ => exact ⟨c.phase, hc, .inl rfl⟩

/-- Where a caller came from: it was there, it has just come, or it got on. -/
theorem caller_after (he : Effect now s e s') {c : Caller} (hc : s'.callers.find? id = some c) :
    s.callers.find? id = some c ∨ c.phase = .arrived ∨
      ∃ d, s.callers.find? id = some d ∧ c = { d with phase := c.phase } ∧
        Turn s id d.key e d.phase c.phase := by
  cases hbefore : s.callers.find? id with
  | none =>
    -- only a caller who has just come was not there before
    cases he with
    | @arrive i =>
      rcases Table.find?_insert_eq_some.mp hc with ⟨-, rfl⟩ | ⟨-, hc⟩
      · exact .inr (.inl rfl)
      · rw [hbefore] at hc
        cases hc
    | hit hd | stale hd | miss hd | refuse hd | bypass hd | drop hd | join hd | lateHit hd
    | start hd | takeAnswer hd | takeError hd | leave hd | leaveOff hd =>
      rcases Table.find?_insert_eq_some.mp hc with ⟨rfl, -⟩ | ⟨-, hc⟩
      · rw [hbefore] at hd
        cases hd
      · rw [hbefore] at hc
        cases hc
    | _ =>
      rw [State.callers_setFetch, hbefore] at hc
      cases hc
  | some d =>
    obtain ⟨p, hp, hgo⟩ := he.caller_before hbefore
    rw [hc, Option.some.injEq] at hp
    subst hp
    rcases hgo with rfl | hgo
    · exact .inl rfl
    · exact .inr (.inr ⟨d, rfl, rfl, hgo⟩)

/-- **A caller who can start no fetch any more never can again.** -/
theorem isPast (he : Effect now s e s') {c : Caller} (hc : s.callers.find? id = some c)
    (hp : c.phase.isPast = true) :
    ∃ c', s'.callers.find? id = some c' ∧ c'.phase.isPast = true := by
  obtain ⟨p, hc', hgo⟩ := he.caller_before hc
  refine ⟨_, hc', ?_⟩
  rcases hgo with rfl | hgo
  · exact hp
  · exact hgo.isPast hp

end Effect

end DohRelay.Cache
