import DohRelay.Proofs.Service.Steady

/-!
# Serving a client

A client is served while no other comes: the client does what it can do, then its errand and its
fetch do, and when nobody can do anything the endpoint responds, which takes some time.  If that
time is less than what the relay waits for, the client is told something in the end.

What is left behind after a client is the same as was found before, but for stored answers: the next
names are free, and no keys are marked.

## Main definitions

* `Hop`, `Serves` — how a client is served.
* `World` — the names from some number on are free.
* `Completes` — a client will be served in a steady way.
* `Looking`, `Flying` — how far the serving of a client has come.

## Main results

* `Serves.unique` — what a client is told is determined.
* `exists_submitted` — **every client is served.**
-/

namespace DohRelay.Service

open Cache (CallerId)

/-! ### Serving clients -/

section

variable (endpoint : Fingerprint → Except Error Http.Response)

/-- What happens next while a client is served whose request takes some time. -/
inductive Hop (id : CallerId) (delay : Nat) (s : State) : State → Prop
  /-- The client does what it can do. -/
  | client {e : Event} {s' : State} (hevent : s.clientEvent? id = some e)
      (hstep : s.step e = some s') : Hop id delay s s'
  /-- The client waits, and its errand or its fetch does something. -/
  | errand {e : Event} {s' : State} (hidle : s.clientEvent? id = none)
      (hevent : s.errandEvent? id = some e) (hstep : s.step e = some s') : Hop id delay s s'
  /-- All wait, and the endpoint responds. -/
  | respond {f : Cache.Fetch} {s' : State} (hidle : s.clientEvent? id = none)
      (hquiet : s.errandEvent? id = none) (hf : s.cache.fetches.find? id = some f)
      (hplay : s.play [.tick delay, .respond id (endpoint f.key)] = some s') : Hop id delay s s'

/-- A client is served, and told something in the end. -/
inductive Serves (id : CallerId) (delay : Nat) : State → Dns.Message → State → Prop
  /-- The client is told something. -/
  | told {s : State} {c : Client} {answer : Dns.Message} {resolution : Resolution}
      (hc : s.clients.find? id = some c) (hstage : c.stage = .told answer resolution) :
      Serves id delay s answer s
  /-- Something more happens before. -/
  | hop {s next s' : State} {answer : Dns.Message} (hlive : s.isOver id = false)
      (hhop : Hop endpoint id delay s next) (rest : Serves id delay next answer s') :
      Serves id delay s answer s'

variable {endpoint}

/-- It is determined what happens next, -/
theorem Hop.unique {id : CallerId} {delay : Nat} {s next next' : State}
    (h : Hop endpoint id delay s next) (h' : Hop endpoint id delay s next') : next = next' := by
  cases h with
  | client hevent hstep =>
    cases h' with
    | client hevent' hstep' =>
      obtain rfl := Option.some.inj (hevent.symm.trans hevent')
      exact Option.some.inj (hstep.symm.trans hstep')
    | errand hidle | respond hidle => cases hevent.symm.trans hidle
  | errand hidle hevent hstep =>
    cases h' with
    | client hevent' => cases hidle.symm.trans hevent'
    | errand _ hevent' hstep' =>
      obtain rfl := Option.some.inj (hevent.symm.trans hevent')
      exact Option.some.inj (hstep.symm.trans hstep')
    | respond _ hquiet => cases hevent.symm.trans hquiet
  | respond hidle hquiet hf hplay =>
    cases h' with
    | client hevent' => cases hidle.symm.trans hevent'
    | errand _ hevent' => cases hquiet.symm.trans hevent'
    | respond _ _ hf' hplay' =>
      obtain rfl := Option.some.inj (hf.symm.trans hf')
      exact Option.some.inj (hplay.symm.trans hplay')

/-- and so is what a client is told, -/
theorem Serves.unique {id : CallerId} {delay : Nat} {s t t' : State} {answer answer' : Dns.Message}
    (h : Serves endpoint id delay s answer t) (h' : Serves endpoint id delay s answer' t') :
    answer = answer' ∧ t = t' := by
  induction h with
  | told hc hstage =>
    cases h' with
    | told hc' hstage' =>
      obtain rfl := Option.some.inj (hc.symm.trans hc')
      cases hstage.symm.trans hstage'
      exact ⟨rfl, rfl⟩
    | hop hlive =>
      rw [State.isOver, hc, Option.map_some, hstage] at hlive
      cases hlive
  | hop hlive hhop _ ih =>
    cases h' with
    | told hc' hstage' =>
      rw [State.isOver, hc', Option.map_some, hstage'] at hlive
      cases hlive
    | hop _ hhop' rest' =>
      obtain rfl := hhop.unique hhop'
      exact ih rest'

end

/-! ### Free names -/

/-- A service that was told something when it started, and in which the names from some number on
are free. -/
structure World (config : Config) (fetchTimeout : Nat) (n : CallerId) (s : State) : Prop where
  /-- It was told that. -/
  config_eq : s.config = config
  /-- The cache has that limit. -/
  timeout : s.cache.timeout = fetchTimeout
  /-- No client has such a name, -/
  clients : ∀ i, n ≤ i → s.clients.find? i = none
  /-- and no caller of the cache. -/
  callers : ∀ i, n ≤ i → s.cache.callers.find? i = none

/-- What has to do with the last name in use leaves the others free. -/
theorem World.congr {config : Config} {fetchTimeout : Nat} {n : CallerId} {s s' : State}
    (h : World config fetchTimeout (n + 1) s) (hconfig : s'.config = s.config)
    (htimeout : s'.cache.timeout = s.cache.timeout)
    (hclients : ∀ i, i ≠ n → s'.clients.find? i = s.clients.find? i)
    (hcallers : ∀ i, i ≠ n → s'.cache.callers.find? i = s.cache.callers.find? i) :
    World config fetchTimeout (n + 1) s' where
  config_eq := hconfig.trans h.config_eq
  timeout := htimeout.trans h.timeout
  clients i hi := (hclients i (Nat.ne_of_gt hi)).trans (h.clients i hi)
  callers i hi := (hcallers i (Nat.ne_of_gt hi)).trans (h.callers i hi)

/-! ### Steady events -/

/-- Whether an event is steady whatever the service, and hands in nothing. -/
def Event.isPlain : Event → Bool
  | .arrive _ _ _ | .submit _ _ | .respond _ _ | .giveUp _ => false
  | .cache (.expire _) | .cache (.crash _) => false
  | _ => true

theorem Move.steady_of_isPlain {m : Move} (h : m.event.isPlain = true)
    (endpoint : Fingerprint → Except Error Http.Response) :
    m.Steady endpoint ∧ m.event.input? = none := by
  unfold Move.Steady
  cases hevent : m.event with
  | arrive | submit | respond | giveUp =>
    rw [hevent] at h
    cases h
  | cache e =>
    rw [hevent] at h
    cases e with
    | expire | crash => cases h
    | _ => exact ⟨trivial, rfl⟩
  | _ => exact ⟨trivial, rfl⟩

/-- The client of the last name in use will be served, and told something in the end; this is done
in a steady way, and leaves no markers. -/
def Completes (config : Config) (fetchTimeout : Nat)
    (endpoint : Fingerprint → Except Error Http.Response) (n : CallerId) (delay : Nat) (s : State) :
    Prop :=
  ∃ answer s', Serves endpoint n delay s answer s' ∧ World config fetchTimeout (n + 1) s' ∧
    (∀ key, s'.cache.markers.find? key = none) ∧
    (∃ c resolution, s'.clients.find? n = some c ∧ c.stage = .told answer resolution) ∧
    ∀ moves, Run config fetchTimeout moves s → ∃ more, Run config fetchTimeout (more ++ moves) s' ∧
      ∀ m ∈ more, m.Steady endpoint ∧ m.event.input? = none

namespace Completes

variable {config : Config} {fetchTimeout n delay : Nat}
  {endpoint : Fingerprint → Except Error Http.Response} {s next : State}

/-- One plain event happens before. -/
theorem of_event (h : Completes config fetchTimeout endpoint n delay next)
    (hlive : s.isOver n = false) {e : Event} (hhop : Hop endpoint n delay s next)
    (hstep : s.step e = some next) (hplain : e.isPlain = true) :
    Completes config fetchTimeout endpoint n delay s := by
  obtain ⟨answer, s', hserves, hworld, hmarkers, htold, hpath⟩ := h
  refine ⟨answer, s', .hop hlive hhop hserves, hworld, hmarkers, htold, fun moves hrun => ?_⟩
  let m : Move := ⟨e, s, next, hstep⟩
  obtain ⟨more, hmore, hsteady⟩ := hpath (m :: moves) (.move m hrun)
  refine ⟨more ++ [m], by rwa [List.append_assoc], List.forall_mem_append.mpr ⟨hsteady, ?_⟩⟩
  have hplain' : m.event.isPlain = true := hplain
  exact List.forall_mem_singleton.mpr (Move.steady_of_isPlain hplain' endpoint)

/-- The client does something plain before. -/
theorem of_client (h : Completes config fetchTimeout endpoint n delay next)
    (hlive : s.isOver n = false) {e : Event} (hevent : s.clientEvent? n = some e)
    (hstep : s.step e = some next) (hplain : e.isPlain = true) :
    Completes config fetchTimeout endpoint n delay s :=
  h.of_event hlive (.client hevent hstep) hstep hplain

/-- The errand or the fetch does something plain before. -/
theorem of_errand (h : Completes config fetchTimeout endpoint n delay next)
    (hlive : s.isOver n = false) {e : Event} (hidle : s.clientEvent? n = none)
    (hevent : s.errandEvent? n = some e) (hstep : s.step e = some next)
    (hplain : e.isPlain = true) : Completes config fetchTimeout endpoint n delay s :=
  h.of_event hlive (.errand hidle hevent hstep) hstep hplain

/-- The endpoint responds before. -/
theorem of_respond (h : Completes config fetchTimeout endpoint n delay next)
    (hlive : s.isOver n = false) (hidle : s.clientEvent? n = none)
    (hquiet : s.errandEvent? n = none) {f : Cache.Fetch} (hf : s.cache.fetches.find? n = some f)
    (hstep : State.step { s with now := s.now + delay } (.respond n (endpoint f.key)) = some next) :
    Completes config fetchTimeout endpoint n delay s := by
  obtain ⟨answer, s', hserves, hworld, hmarkers, htold, hpath⟩ := h
  have hplay : s.play [.tick delay, .respond n (endpoint f.key)] = some next := by
    simp only [State.play, State.step, Option.bind_some]
    exact Option.bind_eq_some_iff.mpr ⟨next, hstep, rfl⟩
  refine ⟨answer, s', .hop hlive (.respond hidle hquiet hf hplay) hserves, hworld, hmarkers, htold,
    fun moves hrun => ?_⟩
  let waits : Move := ⟨.tick delay, s, { s with now := s.now + delay }, rfl⟩
  let responds : Move := ⟨.respond n (endpoint f.key), { s with now := s.now + delay }, next, hstep⟩
  have hrun' : Run config fetchTimeout (responds :: waits :: moves) next :=
    .move responds (.move waits hrun)
  obtain ⟨more, hmore, hsteady⟩ := hpath _ hrun'
  refine ⟨more ++ [responds, waits], by rwa [List.append_assoc],
    List.forall_mem_append.mpr ⟨hsteady, ?_⟩⟩
  have hresponds : responds.Steady endpoint := by
    intro g hg
    obtain rfl : f = g := Option.some.inj (hf.symm.trans hg)
    rfl
  exact List.forall_mem_cons.mpr
    ⟨⟨hresponds, rfl⟩, List.forall_mem_singleton.mpr ⟨trivial, rfl⟩⟩

/-! ### What is decided -/

/-- Whoever has an answer gets it. -/
theorem of_decided (hworld : World config fetchTimeout (n + 1) s)
    (hmarkers : ∀ key, s.cache.markers.find? key = none) {arrivedAt : Nat}
    {query answer : Dns.Message} {resolution : Resolution}
    (hc : s.clients.find? n = some ⟨none, arrivedAt, .decided query answer resolution⟩) :
    Completes config fetchTimeout endpoint n delay s := by
  have hlive : s.isOver n = false := by
    rw [State.isOver, hc]
    rfl
  have hevent : s.clientEvent? n = some (.reply n) := by
    rw [State.clientEvent?, hc]
    rfl
  have hstep : s.step (.reply n) = some (s.setClient n
      ⟨none, arrivedAt, .decided query answer resolution⟩ (.told answer resolution)) := by
    simp only [State.step, State.reply, hc]
  have hnext : Completes config fetchTimeout endpoint n delay (s.setClient n
      ⟨none, arrivedAt, .decided query answer resolution⟩ (.told answer resolution)) := by
    have hc' : (s.setClient n ⟨none, arrivedAt, .decided query answer resolution⟩
        (.told answer resolution)).clients.find? n =
          some ⟨none, arrivedAt, .told answer resolution⟩ := Table.find?_insert_self ..
    refine ⟨answer, _, .told hc' rfl, hworld.congr rfl rfl ?_ fun _ _ => rfl, hmarkers,
      ⟨_, resolution, hc', rfl⟩, fun moves hrun => ⟨[], hrun, fun m hm => ?_⟩⟩
    · exact fun i hi => Table.find?_insert_of_ne _ hi _
    · cases hm
  exact hnext.of_client hlive hevent hstep rfl

end Completes

/-! ### At the cache -/

/-- A client waits for the cache, in which it is a caller in some phase, since a certain time. -/
structure Serving (config : Config) (fetchTimeout : Nat) (n : CallerId) (query : Dns.Message)
    (question : Dns.Question) (subnet : Option Net.Network) (since : Nat)
    (p : Cache.CallerPhase) (s : State) : Prop where
  /-- Other names are free. -/
  world : World config fetchTimeout (n + 1) s
  /-- The client asks. -/
  client : ∃ arrivedAt, s.clients.find? n =
    some ⟨none, arrivedAt, .asking query question subnet since⟩
  /-- The caller is in the phase. -/
  caller : s.cache.callers.find? n = some ⟨.ofQuery query question subnet, .fetched, p⟩
  /-- It is not too late. -/
  inTime : s.now < since + config.queryTimeout

/-- A query needs a request, and the response comes in time. -/
structure WithinDeadlines (config : Config) (fetchTimeout : Nat) (query : Dns.Message)
    (question : Dns.Question) (subnet : Option Net.Network) (delay : Nat) : Prop where
  /-- There is a request. -/
  plan : ∃ r, Inquiry.plan config query subnet = .ok (.exchange question r)
  /-- The fetch does not take too long, -/
  fetch : delay < fetchTimeout
  /-- and the client does not wait too long. -/
  wait : delay < config.queryTimeout

section

variable {config : Config} {fetchTimeout n delay since : Nat} {query : Dns.Message}
  {question : Dns.Question} {subnet : Option Net.Network}
  {endpoint : Fingerprint → Except Error Http.Response} {s s' : State}

namespace Serving

variable {p q : Cache.CallerPhase}

theorem isOver_eq (h : Serving config fetchTimeout n query question subnet since p s) :
    s.isOver n = false := by
  obtain ⟨arrivedAt, hc⟩ := h.client
  rw [State.isOver, hc]
  rfl

/-- The caller comes to another phase. -/
theorem next (h : Serving config fetchTimeout n query question subnet since p s)
    (hconfig : s'.config = s.config) (hclients : s'.clients = s.clients)
    (htimeout : s'.cache.timeout = s.cache.timeout) (htime : s'.now < since + config.queryTimeout)
    (hcaller : s'.cache.callers.find? n = some ⟨.ofQuery query question subnet, .fetched, q⟩)
    (hothers : ∀ i, i ≠ n → s'.cache.callers.find? i = s.cache.callers.find? i) :
    Serving config fetchTimeout n query question subnet since q s' where
  world := h.world.congr hconfig htimeout (fun _ _ => by rw [hclients]) hothers
  client := by
    rw [hclients]
    exact h.client
  caller := hcaller
  inTime := htime

/-- That is how the caller does it. -/
theorem setCaller (h : Serving config fetchTimeout n query question subnet since p s)
    (cache : Cache.State) (htimeout : cache.timeout = s.cache.timeout)
    (hcallers : cache.callers = s.cache.callers) (q : Cache.CallerPhase) :
    Serving config fetchTimeout n query question subnet since q { s with
      cache := cache.setCaller n ⟨.ofQuery query question subnet, .fetched, p⟩ q } := by
  refine h.next rfl rfl htimeout h.inTime (Table.find?_insert_self ..) fun i hi => ?_
  rw [← hcallers]
  exact Table.find?_insert_of_ne _ hi _

/-- What the caller can do is done. -/
theorem completes_of_caller (h : Serving config fetchTimeout n query question subnet since p s)
    {e : Cache.Event} (hevent : s.cache.callerEvent? n = some e)
    (hown : State.isOwnCacheEvent e = true) (hplain : Event.isPlain (.cache e) = true)
    {cache : Cache.State} (hstep : s.cache.step s.now e = some cache)
    (hnext : Completes config fetchTimeout endpoint n delay { s with cache }) :
    Completes config fetchTimeout endpoint n delay s := by
  obtain ⟨arrivedAt, hc⟩ := h.client
  have hclient : s.clientEvent? n = some (.cache e) := by
    simp only [State.clientEvent?, hc, Option.map_some, hevent]
  have hstep' : s.step (.cache e) = some { s with cache } := by
    rw [State.step, if_pos hown, hstep, Option.map_some]
  exact hnext.of_client h.isOver_eq hclient hstep' hplain

/-- Whoever has got something from the cache is told what to make of it. -/
theorem completes_of_settled (h : Serving config fetchTimeout n query question subnet since p s)
    (hmarkers : ∀ key, s.cache.markers.find? key = none)
    (hsettled : (∃ answer outcome, p = .answered answer outcome) ∨ ∃ fault, p = .failed fault) :
    Completes config fetchTimeout endpoint n delay s := by
  obtain ⟨arrivedAt, hc⟩ := h.client
  have hevent : s.clientEvent? n = some (.decide n) := by
    rcases hsettled with ⟨answer, outcome, rfl⟩ | ⟨fault, rfl⟩ <;>
      simp only [State.clientEvent?, hc, Cache.State.callerEvent?, h.caller, Option.map_some]
  obtain ⟨answer, resolution, hstep⟩ : ∃ answer resolution, s.step (.decide n) =
      some (s.setClient n ⟨none, arrivedAt, .asking query question subnet since⟩
        (.decided query answer resolution)) := by
    rcases hsettled with ⟨answer, outcome, rfl⟩ | ⟨fault, rfl⟩
    · refine ⟨answer.answering query, .ofOutcome outcome, ?_⟩
      simp only [State.step, State.decide, hc, h.caller, Option.map_some]
    · refine ⟨query.servFailFor, .failed, ?_⟩
      simp only [State.step, State.decide, hc, h.caller, Option.map_some]
  have hworld : World config fetchTimeout (n + 1)
      (s.setClient n ⟨none, arrivedAt, .asking query question subnet since⟩
        (.decided query answer resolution)) :=
    h.world.congr rfl rfl (fun i hi => Table.find?_insert_of_ne _ hi _) fun _ _ => rfl
  have hdecided : Completes config fetchTimeout endpoint n delay
      (s.setClient n ⟨none, arrivedAt, .asking query question subnet since⟩
        (.decided query answer resolution)) :=
    .of_decided hworld hmarkers (Table.find?_insert_self ..)
  exact hdecided.of_client h.isOver_eq hevent hstep rfl

end Serving

/-- A client waits for its own fetch, which has come to some phase, and so has its errand; only the
key of the query may be marked. -/
structure Flying (config : Config) (fetchTimeout : Nat) (n : CallerId) (query : Dns.Message)
    (question : Dns.Question) (subnet : Option Net.Network) (since : Nat) (phase : Cache.FetchPhase)
    (errandPhase : ErrandPhase) (s : State) : Prop extends
    Serving config fetchTimeout n query question subnet since (.waiting n .fetched) s where
  /-- The fetch is in the phase. -/
  fetch : s.cache.fetches.find? n = some ⟨.ofQuery query question subnet, since, phase⟩
  /-- The errand is in the phase. -/
  errand : s.errands.find? n = some ⟨query, subnet, errandPhase⟩
  /-- No other key is marked. -/
  markers : ∀ key, key ≠ .ofQuery query question subnet → s.cache.markers.find? key = none

namespace Flying

variable {phase : Cache.FetchPhase} {errandPhase : ErrandPhase} {result : Cache.FetchResult}

/-- The fetch comes to another phase. -/
theorem setFetch (h : Flying config fetchTimeout n query question subnet since phase errandPhase s)
    (cache : Cache.State) (htimeout : cache.timeout = s.cache.timeout)
    (hcallers : cache.callers = s.cache.callers)
    (hmarkers : ∀ key, key ≠ .ofQuery query question subnet → cache.markers.find? key = none)
    (q : Cache.FetchPhase) :
    Flying config fetchTimeout n query question subnet since q errandPhase { s with
      cache := cache.setFetch n ⟨.ofQuery query question subnet, since, phase⟩ q } where
  toServing := by
    refine h.next rfl rfl htimeout h.inTime ?_ fun i _ => ?_
    · exact (congrArg (·.find? n) hcallers).trans h.caller
    · exact congrArg (·.find? i) hcallers
  fetch := Table.find?_insert_self ..
  errand := h.errand
  markers := hmarkers

/-- Who waits can do nothing. -/
theorem clientEvent?_eq_none
    (h : Flying config fetchTimeout n query question subnet since phase errandPhase s)
    (hwaits : s.cache.isResolved n = false) : s.clientEvent? n = none := by
  obtain ⟨arrivedAt, hc⟩ := h.client
  have hcaller : s.cache.callerEvent? n = none := by
    simp only [Cache.State.callerEvent?, h.caller, Option.map_some, hwaits, Bool.false_eq_true,
      if_false]
  have hlate : ¬(since + s.config.queryTimeout ≤ s.now ∧ s.isDying n = false) := by
    rw [h.world.config_eq]
    exact fun hlate => Nat.not_le.mpr h.inTime hlate.1
  simp only [State.clientEvent?, hc, Option.map_some, hcaller, h.caller, if_neg hlate]

/-- What the fetch can do is done, after it has come to a result. -/
theorem completes_of_fetch
    (h : Flying config fetchTimeout n query question subnet since phase errandPhase s)
    (hphase : phase = .ended result ∨ phase = .stored result)
    {e : Cache.Event} (hevent : s.cache.fetchEvent? n s.now = some e)
    (hown : State.isOwnCacheEvent e = true) (hplain : Event.isPlain (.cache e) = true)
    {cache : Cache.State} (hstep : s.cache.step s.now e = some cache)
    (hnext : Completes config fetchTimeout endpoint n delay { s with cache }) :
    Completes config fetchTimeout endpoint n delay s := by
  have hwaits : s.cache.isResolved n = false := by
    rcases hphase with rfl | rfl <;>
      simp only [Cache.State.isResolved, h.fetch, Option.map_some]
  have hover : s.cache.isRunning n = false := by
    rcases hphase with rfl | rfl <;> simp only [Cache.State.isRunning, h.fetch, Option.map_some]
  have herrand : s.errandEvent? n = some (.cache e) := by
    unfold State.errandEvent?
    split
    case h_1 _ hrunning => cases hover.symm.trans hrunning
    case h_2 => rw [hevent, Option.map_some]
  have hstep' : s.step (.cache e) = some { s with cache } := by
    rw [State.step, if_pos hown, hstep, Option.map_some]
  exact hnext.of_errand h.isOver_eq (h.clientEvent?_eq_none hwaits) herrand hstep' hplain

/-- The client takes the result that is there. -/
theorem completes_of_released
    (h : Flying config fetchTimeout n query question subnet since (.released result) errandPhase s)
    (hmarkers : ∀ key, s.cache.markers.find? key = none) :
    Completes config fetchTimeout endpoint n delay s := by
  have hevent : s.cache.callerEvent? n = some (.take n) := by
    simp only [Cache.State.callerEvent?, h.caller, Cache.State.isResolved, h.fetch,
      Option.map_some, if_true]
  obtain ⟨p, hstep, hsettled⟩ : ∃ p, s.cache.step s.now (.take n) = some
      (s.cache.setCaller n ⟨.ofQuery query question subnet, .fetched, .waiting n .fetched⟩ p) ∧
        ((∃ answer outcome, p = .answered answer outcome) ∨ ∃ fault, p = .failed fault) := by
    cases result with
    | ok answer =>
      refine ⟨.answered answer .fetched, ?_, .inl ⟨_, _, rfl⟩⟩
      simp only [Cache.State.step, Cache.State.take, h.caller, h.fetch, Option.map_some]
    | error fault =>
      refine ⟨.failed fault, ?_, .inr ⟨_, rfl⟩⟩
      simp only [Cache.State.step, Cache.State.take, h.caller, h.fetch, Option.map_some]
  refine h.completes_of_caller hevent rfl rfl hstep ?_
  have hserving := h.toServing.setCaller s.cache rfl rfl p
  exact hserving.completes_of_settled hmarkers hsettled

/-- The marker is taken away. -/
theorem completes_of_stored
    (h : Flying config fetchTimeout n query question subnet since (.stored result) errandPhase s) :
    Completes config fetchTimeout endpoint n delay s := by
  have hevent : s.cache.fetchEvent? n s.now = some (.release n) := by
    simp only [Cache.State.fetchEvent?, h.fetch]
  have hstep : s.cache.step s.now (.release n) = some (Cache.State.setFetch
      { s.cache with markers := s.cache.markers.erase (.ofQuery query question subnet) } n
      ⟨.ofQuery query question subnet, since, .stored result⟩ (.released result)) := by
    simp only [Cache.State.step, Cache.State.release, h.fetch]
  -- only this key was marked, and is not any more
  have hmarkers : ∀ key,
      (s.cache.markers.erase (.ofQuery query question subnet)).find? key = none := by
    intro key
    by_cases hkey : key = .ofQuery query question subnet
    · rw [hkey, Table.find?_erase_self]
    · rw [Table.find?_erase_of_ne _ hkey, h.markers key hkey]
  have hflying := h.setFetch { s.cache with markers := s.cache.markers.erase _ } rfl rfl
    (fun key _ => hmarkers key) (.released result)
  exact h.completes_of_fetch (.inr rfl) hevent rfl rfl hstep
    (hflying.completes_of_released hmarkers)

/-- The answer is stored, if it may be. -/
theorem completes_of_ended
    (h : Flying config fetchTimeout n query question subnet since (.ended result) errandPhase s) :
    Completes config fetchTimeout endpoint n delay s := by
  have hevent : s.cache.fetchEvent? n s.now = some (.store n) := by
    simp only [Cache.State.fetchEvent?, h.fetch]
  obtain ⟨entries, hstep⟩ : ∃ entries, s.cache.step s.now (.store n) = some (Cache.State.setFetch
      { s.cache with entries } n ⟨.ofQuery query question subnet, since, .ended result⟩
        (.stored result)) := by
    simp only [Cache.State.step, Cache.State.store, h.fetch]
    exact ⟨_, rfl⟩
  have hflying := h.setFetch { s.cache with entries } rfl rfl h.markers (.stored result)
  exact h.completes_of_fetch (.inl rfl) hevent rfl rfl hstep hflying.completes_of_stored

/-- The endpoint responds. -/
theorem completes_of_sent
    (h : Flying config fetchTimeout n query question subnet since .running (.sent question) s)
    (hnow : s.now = since)
    (hwithin : WithinDeadlines config fetchTimeout query question subnet delay) :
    Completes config fetchTimeout endpoint n delay s := by
  have hfetch := hwithin.fetch
  have hwait := hwithin.wait
  have hwaits : s.cache.isResolved n = false := by
    simp only [Cache.State.isResolved, h.fetch, Option.map_some]
  -- no time has passed since the fetch was started
  have hquiet : s.errandEvent? n = none := by
    have hdeadline :
        ¬s.cache.deadline ⟨.ofQuery query question subnet, since, .running⟩ ≤ s.now := by
      change ¬since + s.cache.timeout ≤ s.now
      rw [h.world.timeout]
      omega
    simp only [State.errandEvent?, h.errand, Cache.State.fetchEvent?, h.fetch, if_neg hdeadline,
      Option.map_none]
  obtain ⟨result, hresult⟩ : ∃ result, (endpoint (.ofQuery query question subnet)).bind
      (Inquiry.conclude s.config query question) = result := ⟨_, rfl⟩
  have hcomplete : s.cache.complete n result = some (s.cache.setFetch n
      ⟨.ofQuery query question subnet, since, .running⟩ (.ended result)) := by
    simp only [Cache.State.complete, h.fetch]
  have hstep : State.step { s with now := s.now + delay }
      (.respond n (endpoint (.ofQuery query question subnet))) = some { s with
        now := s.now + delay
        cache := s.cache.setFetch n ⟨.ofQuery query question subnet, since, .running⟩
          (.ended result)
        errands := s.errands.insert n ⟨query, subnet, .done⟩ } := by
    simp only [State.step, State.respond, h.errand, State.finish, hresult, hcomplete]
    rfl
  refine Completes.of_respond ?_ h.isOver_eq (h.clientEvent?_eq_none hwaits) hquiet h.fetch hstep
  have hflying : Flying config fetchTimeout n query question subnet since (.ended result) .done
      { s with
        now := s.now + delay
        cache := s.cache.setFetch n ⟨.ofQuery query question subnet, since, .running⟩
          (.ended result)
        errands := s.errands.insert n ⟨query, subnet, .done⟩ } := by
    refine ⟨h.next rfl rfl rfl ?_ h.caller fun _ _ => rfl, Table.find?_insert_self ..,
      Table.find?_insert_self .., h.markers⟩
    change s.now + delay < since + config.queryTimeout
    omega
  exact hflying.completes_of_ended

/-- The request is sent. -/
theorem completes_of_ready
    (h : Flying config fetchTimeout n query question subnet since .running .ready s)
    (hnow : s.now = since)
    (hwithin : WithinDeadlines config fetchTimeout query question subnet delay) :
    Completes config fetchTimeout endpoint n delay s := by
  obtain ⟨r, hplan⟩ := hwithin.plan
  have hwaits : s.cache.isResolved n = false := by
    simp only [Cache.State.isResolved, h.fetch, Option.map_some]
  have hrunning : s.cache.isRunning n = true := by
    simp only [Cache.State.isRunning, h.fetch, Option.map_some]
  have hlives : s.isDoomed n = false := by
    simp only [State.isDoomed, h.errand, h.world.config_eq, hplan, Bool.and_false]
  have hevent : s.errandEvent? n = some (.send n) := by
    simp only [State.errandEvent?, h.errand, hrunning, hlives, Bool.false_eq_true, if_false]
  have hstep : s.step (.send n) = some { s with
      calls := s.calls ++ [⟨n, s.now, r⟩]
      errands := s.errands.insert n ⟨query, subnet, .sent question⟩ } := by
    simp only [State.step, State.send, h.errand, hrunning, if_true, h.world.config_eq, hplan]
  have hflying : Flying config fetchTimeout n query question subnet since .running (.sent question)
      { s with
        calls := s.calls ++ [⟨n, s.now, r⟩]
        errands := s.errands.insert n ⟨query, subnet, .sent question⟩ } :=
    ⟨h.next rfl rfl rfl h.inTime h.caller fun _ _ => rfl, h.fetch, Table.find?_insert_self ..,
      h.markers⟩
  exact (hflying.completes_of_sent hnow hwithin).of_errand h.isOver_eq
    (h.clientEvent?_eq_none hwaits) hevent hstep rfl

end Flying

/-- A client has just come to the cache, and no fetch was started for it. -/
structure Looking (config : Config) (fetchTimeout : Nat) (n : CallerId) (query : Dns.Message)
    (question : Dns.Question) (subnet : Option Net.Network) (p : Cache.CallerPhase) (s : State) :
    Prop extends Serving config fetchTimeout n query question subnet s.now p s where
  /-- The errand was not begun. -/
  errand : s.errands.find? n = some ⟨query, subnet, .ready⟩
  /-- No keys are marked. -/
  markers : ∀ key, s.cache.markers.find? key = none

namespace Looking

variable {p : Cache.CallerPhase}

/-- The caller comes to another phase. -/
theorem setCaller (h : Looking config fetchTimeout n query question subnet p s)
    (entries : Cache.Entries) (q : Cache.CallerPhase) :
    Looking config fetchTimeout n query question subnet q { s with
      cache := Cache.State.setCaller { s.cache with entries } n
        ⟨.ofQuery query question subnet, .fetched, p⟩ q } where
  toServing := h.toServing.setCaller { s.cache with entries } rfl rfl q
  errand := h.errand
  markers := h.markers

/-- A fetch is started, and its request is sent. -/
theorem completes_of_start (h : Looking config fetchTimeout n query question subnet p s)
    (hwithin : WithinDeadlines config fetchTimeout query question subnet delay) {e : Cache.Event}
    (hevent : s.cache.callerEvent? n = some e) (hown : State.isOwnCacheEvent e = true)
    (hplain : Event.isPlain (.cache e) = true) {entries : Cache.Entries}
    (hstep : s.cache.step s.now e = some (Cache.State.startFetch { s.cache with entries } n
      ⟨.ofQuery query question subnet, .fetched, p⟩ s.now)) :
    Completes config fetchTimeout endpoint n delay s := by
  obtain ⟨cache, hcache⟩ : ∃ cache, Cache.State.startFetch { s.cache with entries } n
      ⟨.ofQuery query question subnet, .fetched, p⟩ s.now = cache := ⟨_, rfl⟩
  rw [hcache] at hstep
  have hserving : Serving config fetchTimeout n query question subnet s.now (.waiting n .fetched)
      { s with cache } := by
    subst hcache
    exact h.next rfl rfl rfl h.inTime (Table.find?_insert_self ..)
      fun i hi => Table.find?_insert_of_ne _ hi _
  have hflying : Flying config fetchTimeout n query question subnet s.now .running .ready
      { s with cache } := by
    refine ⟨hserving, ?_, h.errand, fun key hkey => ?_⟩ <;> subst hcache
    · exact Table.find?_insert_self ..
    · simp only [Cache.State.startFetch, Cache.State.setCaller]
      split
      case isTrue => rw [Table.find?_insert_of_ne _ hkey, h.markers]
      case isFalse => exact h.markers key
  exact h.completes_of_caller hevent hown hplain hstep (hflying.completes_of_ready rfl hwithin)

/-- The client has found nothing, and there may be an answer by now. -/
theorem completes_of_entering
    (h : Looking config fetchTimeout n query question subnet .entering s)
    (hwithin : WithinDeadlines config fetchTimeout query question subnet delay) :
    Completes config fetchTimeout endpoint n delay s := by
  have hevent : s.cache.callerEvent? n = some (.enter n) := by
    simp only [Cache.State.callerEvent?, h.caller, Option.map_some]
  cases hlook : s.cache.entries.look (.ofQuery query question subnet) s.now with
  | fresh answer =>
    have hstep : s.cache.step s.now (.enter n) = some (s.cache.setCaller n
        ⟨.ofQuery query question subnet, .fetched, .entering⟩ (.answered answer .hit)) := by
      simp only [Cache.State.step, Cache.State.enter, h.caller, h.markers, hlook]
    have hserving := (h.setCaller s.cache.entries (.answered answer .hit)).toServing
    exact h.completes_of_caller hevent rfl rfl hstep
      (hserving.completes_of_settled h.markers (.inl ⟨_, _, rfl⟩))
  | _ =>
    -- nobody else is served, so there is no fetch to join
    have hstep : s.cache.step s.now (.enter n) = some (Cache.State.startFetch
        { s.cache with entries := s.cache.entries.drop (.ofQuery query question subnet) s.now } n
        ⟨.ofQuery query question subnet, .fetched, .entering⟩ s.now) := by
      simp only [Cache.State.step, Cache.State.enter, h.caller, h.markers, hlook]
    exact h.completes_of_start hwithin hevent rfl rfl hstep

/-- The client has found an answer that does not hold. -/
theorem completes_of_dropping {seenAt : Nat}
    (h : Looking config fetchTimeout n query question subnet (.dropping seenAt) s)
    (hwithin : WithinDeadlines config fetchTimeout query question subnet delay) :
    Completes config fetchTimeout endpoint n delay s := by
  have hevent : s.cache.callerEvent? n = some (.drop n) := by
    simp only [Cache.State.callerEvent?, h.caller, Option.map_some]
  have hstep : s.cache.step s.now (.drop n) = some (Cache.State.setCaller
      { s.cache with entries := s.cache.entries.drop (.ofQuery query question subnet) seenAt } n
      ⟨.ofQuery query question subnet, .fetched, .dropping seenAt⟩ .entering) := by
    simp only [Cache.State.step, Cache.State.drop, h.caller, Cache.State.miss]
  have hlooking := h.setCaller (s.cache.entries.drop (.ofQuery query question subnet) seenAt)
    .entering
  exact h.completes_of_caller hevent rfl rfl hstep (hlooking.completes_of_entering hwithin)

/-- The client is about to look for an answer. -/
theorem completes_of_arrived
    (h : Looking config fetchTimeout n query question subnet .arrived s)
    (hwithin : WithinDeadlines config fetchTimeout query question subnet delay) :
    Completes config fetchTimeout endpoint n delay s := by
  have hevent : s.cache.callerEvent? n = some (.look n) := by
    simp only [Cache.State.callerEvent?, h.caller, Option.map_some]
  by_cases hcache : s.cache.enabled = true
  case neg =>
    have hstep : s.cache.step s.now (.look n) = some (Cache.State.startFetch
        { s.cache with entries := s.cache.entries } n
        ⟨.ofQuery query question subnet, .fetched, .arrived⟩ s.now) := by
      simp only [Cache.State.step, Cache.State.look, h.caller, if_neg hcache]
    exact h.completes_of_start hwithin hevent rfl rfl hstep
  case pos =>
    obtain ⟨q, hstep, hnext⟩ : ∃ q, s.cache.step s.now (.look n) = some (s.cache.setCaller n
        ⟨.ofQuery query question subnet, .fetched, .arrived⟩ q) ∧
          Completes config fetchTimeout endpoint n delay { s with
            cache := s.cache.setCaller n
              ⟨.ofQuery query question subnet, .fetched, .arrived⟩ q } := by
      have hlooking := h.setCaller s.cache.entries
      cases hlook : s.cache.entries.look (.ofQuery query question subnet) s.now with
      | fresh answer =>
        refine ⟨.answered answer .hit, ?_, (hlooking _).completes_of_settled h.markers
          (.inl ⟨_, _, rfl⟩)⟩
        simp only [Cache.State.step, Cache.State.look, h.caller, hcache, if_true, hlook]
      | stale =>
        refine ⟨.dropping s.now, ?_, (hlooking _).completes_of_dropping hwithin⟩
        simp only [Cache.State.step, Cache.State.look, h.caller, hcache, if_true, hlook]
      | absent =>
        refine ⟨.entering, ?_, (hlooking _).completes_of_entering hwithin⟩
        simp only [Cache.State.step, Cache.State.look, h.caller, hcache, if_true, hlook,
          Cache.State.miss]
    exact h.completes_of_caller hevent rfl rfl hstep hnext

end Looking

/-! ### From the query to the answer -/

/-- A client who needs a request turns to the cache. -/
theorem completes_of_locating (hworld : World config fetchTimeout (n + 1) s)
    (hcaller : s.cache.callers.find? n = none) (hmarkers : ∀ key, s.cache.markers.find? key = none)
    (hsubnet : advertised? config = some subnet) {arrivedAt : Nat}
    (hc : s.clients.find? n = some ⟨none, arrivedAt, .locating query question⟩)
    (hwithin : WithinDeadlines config fetchTimeout query question subnet delay) :
    Completes config fetchTimeout endpoint n delay s := by
  have hlocated : s.located n = some subnet := by
    rw [← hworld.config_eq] at hsubnet
    exact located_of_advertised hsubnet n
  have hlive : s.isOver n = false := by
    rw [State.isOver, hc]
    rfl
  have hevent : s.clientEvent? n = some (.ask n) := by
    simp only [State.clientEvent?, hc, Option.map_some, hlocated, Option.isSome_some, if_true]
  obtain ⟨cache, hcache⟩ : ∃ cache, { s.cache with
      callers := s.cache.callers.insert n
        ⟨.ofQuery query question subnet, .fetched, .arrived⟩ } = cache := ⟨_, rfl⟩
  have harrive : s.cache.arrive n (.ofQuery query question subnet) .fetched = some cache := by
    simp only [Cache.State.arrive, hcaller, hcache]
  obtain ⟨next, hnext⟩ : ∃ next, State.setClient { s with
      cache
      errands := s.errands.insert n ⟨query, subnet, .ready⟩ } n
      ⟨none, arrivedAt, .locating query question⟩ (.asking query question subnet s.now) =
        next := ⟨_, rfl⟩
  have hstep : s.step (.ask n) = some next := by
    simp only [State.step, State.ask, hc, hlocated, harrive]
    exact congrArg some hnext
  have hlooking : Looking config fetchTimeout n query question subnet .arrived next := by
    subst hnext hcache
    refine ⟨⟨hworld.congr rfl rfl ?_ ?_, ⟨arrivedAt, Table.find?_insert_self ..⟩,
      Table.find?_insert_self .., ?_⟩, Table.find?_insert_self .., hmarkers⟩
    · exact fun i hi => Table.find?_insert_of_ne _ hi _
    · exact fun i hi => Table.find?_insert_of_ne _ hi _
    · have hwait := hwithin.wait
      change s.now < s.now + config.queryTimeout
      omega
  exact (hlooking.completes_of_arrived hwithin).of_client hlive hevent hstep rfl

/-- **Every client is served.** -/
theorem exists_submitted (hworld : World config fetchTimeout n s)
    (hmarkers : ∀ key, s.cache.markers.find? key = none)
    (hsubnet : advertised? config = some subnet)
    (hrequest : ∀ question, query.question = .ok question →
      ∃ r, Inquiry.request config query question subnet = .ok r)
    (hfetch : delay < fetchTimeout) (hwait : delay < config.queryTimeout) :
    ∃ submitted, s.step (.submit n query) = some submitted ∧
      Completes config fetchTimeout endpoint n delay submitted := by
  have hfree : s.clients.find? n = none := hworld.clients n (Nat.le_refl n)
  have hnext (stage : Stage) :
      World config fetchTimeout (n + 1) (s.setClient n ⟨none, s.now, stage⟩ stage) := by
    refine ⟨hworld.config_eq, hworld.timeout, fun i hi => ?_, fun i hi => ?_⟩
    · exact (Table.find?_insert_of_ne _ (Nat.ne_of_gt hi) _).trans
        (hworld.clients i (Nat.le_of_lt hi))
    · exact hworld.callers i (Nat.le_of_lt hi)
  have hclient (stage : Stage) : (s.setClient n ⟨none, s.now, stage⟩ stage).clients.find? n =
      some ⟨none, s.now, stage⟩ := Table.find?_insert_self ..
  cases hquestion : query.question with
  | error fault =>
    refine ⟨_, ?_, Completes.of_decided (hnext (.decided query query.servFailFor .failed)) hmarkers
      (hclient _)⟩
    simp only [State.step, State.enroll, hfree, State.firstStage, hquestion]
  | ok question =>
    cases hpolicy : config.noAaaa && question.isAaaa with
    | true =>
      refine ⟨_, ?_, Completes.of_decided (hnext (.decided query query.emptyAnswerFor .synthesized))
        hmarkers (hclient _)⟩
      simp only [State.step, State.enroll, hfree, State.firstStage, hquestion, hworld.config_eq,
        hpolicy, if_true]
    | false =>
      obtain ⟨r, hr⟩ := hrequest question hquestion
      have hplan : Inquiry.plan config query subnet = .ok (.exchange question r) := by
        rw [Inquiry.plan_of_question hquestion hpolicy, hr]
        rfl
      have hdetects (stage : Stage) :
          (s.setClient n ⟨none, s.now, stage⟩ stage).detects = false := by
        rw [← (hnext stage).config_eq] at hsubnet
        exact detects_of_advertised hsubnet
      refine ⟨_, ?_, completes_of_locating (hnext (.locating query question))
        (hworld.callers n (Nat.le_refl n)) hmarkers hsubnet (hclient _) ⟨⟨r, hplan⟩, hfetch, hwait⟩⟩
      simp only [State.step, State.enroll, hfree, State.firstStage, hquestion, hworld.config_eq,
        hpolicy, Bool.false_eq_true, if_false, hdetects]

end

end DohRelay.Service
