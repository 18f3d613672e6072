import DohRelay.Proofs.Cache.Results
import DohRelay.Proofs.Service.Keyed

/-!
# What queries with one key are told

A client asks the cache under the fingerprint of its query, and so does its errand come to a result
under that fingerprint.  Whatever holds of all results that errands come to, and of the fingerprints
these are under, therefore holds of what each client is told: the answer is fitted to the query from
a result under its fingerprint, or there was an error under it.

## Main definitions

* `Ruling` — what a query may be answered with, where something holds of results and keys.
* `Resolves` — how an event of the service brings a fetch to a result.
* `Faithful` — what holds of results and keys holds of those in the service.

## Main results

* `Faithful.of_run` — every run is faithful to its results.
* `Run.ruling_of_told`, `Run.ruling_of_replied` — **whoever is told something is told what follows
  from a result under the fingerprint of the query.**
-/

namespace DohRelay.Service

open Cache (CallerId)

/-- What a query may be answered with, where something holds of results and keys. -/
inductive Ruling (config : Config) (P : Fingerprint → Cache.FetchResult → Prop)
    (query : Dns.Message) : Dns.Message → Resolution → Prop
  /-- The query has not just one question. -/
  | unsupported {fault : String} (hquestion : query.question = .error fault) :
      Ruling config P query query.servFailFor .failed
  /-- By policy there is nothing. -/
  | synthesized {question : Dns.Question} (hquestion : query.question = .ok question)
      (hpolicy : (config.noAaaa && question.isAaaa) = true) :
      Ruling config P query query.emptyAnswerFor .synthesized
  /-- There is an answer. -/
  | answered {question : Dns.Question} {answer : Dns.Message} (subnet : Option Net.Network)
      (outcome : Cache.Outcome) (admitted : Admitted config query question)
      (hresult : P (.ofQuery query question subnet) (.ok answer)) :
      Ruling config P query (answer.answering query) (.ofOutcome outcome)
  /-- There is an error. -/
  | failed {question : Dns.Question} {fault : Error} (subnet : Option Net.Network)
      (admitted : Admitted config query question)
      (hresult : P (.ofQuery query question subnet) (.error fault)) :
      Ruling config P query query.servFailFor .failed

/-- How an event brings a fetch to a result. -/
inductive Resolves (s : State) : Event → CallerId → Cache.FetchResult → Prop
  /-- Its errand comes to an end. -/
  | finish {e : Event} {id : CallerId} {errand : Errand} {result : Cache.FetchResult}
      (herrand : s.errands.find? id = some errand) (hfinishes : Finishes s e id errand result) :
      Resolves s e id result
  /-- It takes too long. -/
  | expire (id : CallerId) : Resolves s (.cache (.expire id)) id (.error .timeout)
  /-- It dies. -/
  | crash (id : CallerId) :
      Resolves s (.cache (.crash id)) id (.error (.exchange Cache.crashMessage))

namespace Effect

variable {s s' : State} {e : Event} {id : CallerId} {c : Client}

/-- What the service does to the cache is what can happen to a cache, and a fetch comes to a result
there only as it does in the service. -/
theorem cache_resolves (h : Effect s e s') : s'.cache = s.cache ∨
    ∃ cacheEvent, Cache.Effect s.now s.cache cacheEvent s'.cache ∧
      ∀ i result, cacheEvent.result? = some (i, result) → Resolves s e i result := by
  cases h with
  | ask _ _ _ hcache =>
    exact .inr ⟨_, Cache.effect_of_step (e := .arrive _ _ _) hcache, fun i result h => by cases h⟩
  | @cache cacheEvent cache own hstep =>
    refine .inr ⟨cacheEvent, Cache.effect_of_step hstep, fun i result hresult => ?_⟩
    cases cacheEvent with
    | complete => cases own
    | expire =>
      cases hresult
      exact .expire i
    | crash =>
      cases hresult
      exact .crash i
    | _ => cases hresult
  | giveUp _ _ _ _ hcache =>
    exact .inr ⟨_, Cache.effect_of_step (e := .leave _) hcache, fun i result h => by cases h⟩
  | @leave i =>
    cases hcache : s.cache.leave i with
    | none => exact .inl (by simp [State.setClient])
    | some cache =>
      have heffect : Cache.Effect s.now s.cache (.leave i) cache :=
        Cache.effect_of_step (e := .leave i) hcache
      refine .inr ⟨.leave i, by simpa [State.setClient, hcache] using heffect, ?_⟩
      exact fun i result h => by cases h
  | @finish e i errand result cache herrand hfinishes hcache =>
    refine .inr ⟨.complete i result, Cache.effect_of_step (e := .complete i result) hcache, ?_⟩
    intro i' result' hresult
    cases hresult
    exact .finish herrand hfinishes
  | _ => exact .inl rfl

/-- Where a client came from who asks the cache: it did so before, or it waited for the network to
advertise and now asks under the fingerprint of its query. -/
theorem asking_after (h : Effect s e s') (hc : s'.clients.find? id = some c)
    {query : Dns.Message} {question : Dns.Question} {subnet : Option Net.Network} {since : Nat}
    (hstage : c.stage = .asking query question subnet since) :
    s.clients.find? id = some c ∨
      (∃ before, s.clients.find? id = some before ∧ before.stage = .locating query question) ∧
        s'.cache.Asks id (.ofQuery query question subnet) := by
  have hset {i : CallerId} {d : Client} {stage : Stage} {t : State} (ht : t.clients = s.clients)
      (hne : stage ≠ .asking query question subnet since)
      (hc : (t.setClient i d stage).clients.find? id = some c) : s.clients.find? id = some c := by
    rcases Table.find?_insert_eq_some.mp hc with ⟨-, rfl⟩ | ⟨-, hc⟩
    · exact absurd hstage hne
    · exact ht ▸ hc
  cases h with
  | malformed => exact .inl (hset rfl (by simp) hc)
  | @enroll _ i input q detection =>
    refine .inl (hset rfl ?_ hc)
    unfold State.firstStage
    split
    · simp
    · split <;> simp
  | @ask i before q asked net cache hbefore hlocating hsubnet hcache =>
    rcases Table.find?_insert_eq_some.mp hc with ⟨rfl, rfl⟩ | ⟨-, hc⟩
    · cases hstage
      refine .inr ⟨⟨before, hbefore, hlocating⟩, ?_⟩
      have heffect : Cache.Effect s.now s.cache
          (.arrive id (.ofQuery query question subnet) .fetched) cache :=
        Cache.effect_of_step hcache
      change cache.Asks id _
      generalize cache = t at heffect
      cases heffect with
      | arrive => exact ⟨_, Table.find?_insert_self .., rfl⟩
    · exact .inl hc
  | decideAnswer | decideError | giveUp | reply | tell | leave =>
    exact .inl (hset rfl (by simp) hc)
  | _ => exact .inl hc

/-- Where a client came from for whom there is an answer: there was one before, there is one at
once, or the cache told the client something, or nothing in time. -/
theorem decided_after (h : Effect s e s') (hc : s'.clients.find? id = some c)
    {query answer : Dns.Message} {resolution : Resolution}
    (hstage : c.stage = .decided query answer resolution) :
    s.clients.find? id = some c ∨ s.firstStage query = .decided query answer resolution ∨
      ∃ before question subnet since, s.clients.find? id = some before ∧
        before.stage = .asking query question subnet since ∧
        ((e = .decide id ∧ ∃ d a outcome, s.cache.callers.find? id = some d ∧
            d.phase = .answered a outcome ∧ answer = a.answering query ∧
            resolution = .ofOutcome outcome) ∨
          (∃ d fault, s.cache.callers.find? id = some d ∧ d.phase = .failed fault ∧
            answer = query.servFailFor ∧ resolution = .failed) ∨
          e = .giveUp id ∧ answer = query.servFailFor ∧ resolution = .failed) := by
  have hset {i : CallerId} {d : Client} {stage : Stage} {t : State} (ht : t.clients = s.clients)
      (hne : stage ≠ .decided query answer resolution)
      (hc : (t.setClient i d stage).clients.find? id = some c) : s.clients.find? id = some c := by
    rcases Table.find?_insert_eq_some.mp hc with ⟨-, rfl⟩ | ⟨-, hc⟩
    · exact absurd hstage hne
    · exact ht ▸ hc
  cases h with
  | malformed => exact .inl (hset rfl (by simp) hc)
  | @enroll _ i input q =>
    rcases Table.find?_insert_eq_some.mp hc with ⟨rfl, rfl⟩ | ⟨-, hc⟩
    · have hfirst : s.firstStage q = .decided query answer resolution := hstage
      -- what is decided at once is decided for the query that was handed in
      have hq : q = query := by
        unfold State.firstStage at hfirst
        split at hfirst
        · cases hfirst
          rfl
        · split at hfirst
          · cases hfirst
            rfl
          · cases hfirst
      exact .inr (.inl (hq ▸ hfirst))
    · exact .inl hc
  | @decideAnswer i before d q a asked net since outcome hbefore hasking hd hphase =>
    rcases Table.find?_insert_eq_some.mp hc with ⟨rfl, rfl⟩ | ⟨-, hc⟩
    · cases hstage
      exact .inr (.inr ⟨before, asked, net, since, hbefore, hasking,
        .inl ⟨rfl, d, a, outcome, hd, hphase, rfl, rfl⟩⟩)
    · exact .inl hc
  | @decideError i before d q asked net since fault hbefore hasking hd hphase =>
    rcases Table.find?_insert_eq_some.mp hc with ⟨rfl, rfl⟩ | ⟨-, hc⟩
    · cases hstage
      exact .inr (.inr ⟨before, asked, net, since, hbefore, hasking,
        .inr (.inl ⟨d, fault, hd, hphase, rfl, rfl⟩)⟩)
    · exact .inl hc
  | @giveUp i before q asked net since cache hbefore hasking =>
    rcases Table.find?_insert_eq_some.mp hc with ⟨rfl, rfl⟩ | ⟨-, hc⟩
    · cases hstage
      exact .inr (.inr ⟨before, asked, net, since, hbefore, hasking, .inr (.inr ⟨rfl, rfl, rfl⟩)⟩)
    · exact .inl hc
  | ask | reply | tell | leave => exact .inl (hset rfl (by simp) hc)
  | _ => exact .inl hc

end Effect

/-- What holds of results and keys holds of those in the service. -/
structure Faithful (config : Config) (P : Fingerprint → Cache.FetchResult → Prop) (s : State) :
    Prop where
  /-- Names in the cache belong to keys. -/
  named : s.cache.Named
  /-- It holds of the results in the cache, -/
  cache : s.cache.HoldsUnder P
  /-- under which clients ask as their queries tell, -/
  asking : ∀ id c query question subnet since, s.clients.find? id = some c →
    c.stage = .asking query question subnet since →
    Admitted config query question ∧ s.cache.Asks id (.ofQuery query question subnet)
  /-- and of what is decided for clients. -/
  decided : ∀ id c query answer resolution, s.clients.find? id = some c →
    c.stage = .decided query answer resolution → Ruling config P query answer resolution

section

variable {config : Config} {P : Fingerprint → Cache.FetchResult → Prop}

/-- What is decided at once. -/
theorem Ruling.of_firstStage {s : State} {query answer : Dns.Message} {resolution : Resolution}
    (h : s.firstStage query = .decided query answer resolution) :
    Ruling s.config P query answer resolution := by
  unfold State.firstStage at h
  split at h
  case h_1 fault hquestion =>
    cases h
    exact .unsupported hquestion
  case h_2 question hquestion =>
    split at h
    case isTrue hpolicy =>
      cases h
      exact .synthesized hquestion hpolicy
    case isFalse => cases h

variable {fetchTimeout : Nat} {moves : List Move} {s : State}

/-- **Every run is faithful to its results**: what holds of every result that a fetch came to, and
of the key of the fetch, and of no answer in time for whoever had none. -/
theorem Faithful.of_run (h : Run config fetchTimeout moves s)
    (hnew : ∀ m ∈ moves, ∀ id f result, m.before.cache.fetches.find? id = some f →
      Resolves m.before m.event id result → P f.key result)
    (hlate : ∀ m ∈ moves, ∀ id, m.event = .giveUp id → ∀ key, P key (.error .timeout)) :
    Faithful config P s := by
  induction h with
  | start => exact ⟨.start _ _, .start _ _, by simp [State.start], by simp [State.start]⟩
  | @move moves m run ih =>
    obtain ⟨hnamed, hcache, hasking, hdecided⟩ := ih
      (fun m' hm' => hnew m' (List.mem_cons_of_mem _ hm'))
      (fun m' hm' => hlate m' (List.mem_cons_of_mem _ hm'))
    have hstep : (m.after.cache.Named ∧ m.after.cache.HoldsUnder P) ∧
        ∀ id key, m.before.cache.Asks id key → m.after.cache.Asks id key := by
      rcases m.effect.cache_resolves with hsame | ⟨e, heffect, hresolves⟩
      · rw [hsame]
        exact ⟨⟨hnamed, hcache⟩, fun _ _ h => h⟩
      · refine ⟨⟨heffect.named hnamed, heffect.holdsUnder hnamed hcache ?_⟩,
          fun _ _ => heffect.asks⟩
        intro id f result hf _ hresult
        exact hnew m List.mem_cons_self id f result hf (hresolves id result hresult)
    refine ⟨hstep.1.1, hstep.1.2, ?_, ?_⟩
    · intro id c query question subnet since hc hstage
      rcases m.effect.asking_after hc hstage with hc | ⟨⟨before, hbefore, hlocating⟩, hasks⟩
      · obtain ⟨admitted, hasks⟩ := hasking id c query question subnet since hc hstage
        exact ⟨admitted, hstep.2 _ _ hasks⟩
      · obtain ⟨input, hin⟩ := run.exists_input hbefore
        obtain ⟨-, hstory⟩ := run.story hin hbefore
        rw [hlocating] at hstory
        cases hstory with
        | locating _ admitted => exact ⟨admitted, hasks⟩
    · intro id c query answer resolution hc hstage
      rcases m.effect.decided_after hc hstage with
        hc | hfirst | ⟨before, question, subnet, since, hbefore, hstage', htold⟩
      · exact hdecided id c query answer resolution hc hstage
      · rw [← run.config_eq]
        exact .of_firstStage hfirst
      · obtain ⟨admitted, hasks⟩ := hasking id before query question subnet since hbefore hstage'
        rcases htold with ⟨-, d, a, outcome, hd, hphase, rfl, rfl⟩ |
          ⟨d, fault, hd, hphase, rfl, rfl⟩ | ⟨hevent, rfl, rfl⟩
        · have hresult : P d.key (.ok a) := hcache.callers id d outcome (.ok a) hd hphase
          rw [← hasks.unique ⟨d, hd, rfl⟩] at hresult
          exact .answered subnet outcome admitted hresult
        · have hresult : P d.key (.error fault) :=
            hcache.callers id d .hit (.error fault) hd hphase
          rw [← hasks.unique ⟨d, hd, rfl⟩] at hresult
          exact .failed subnet admitted hresult
        · exact .failed subnet admitted (hlate m List.mem_cons_self id hevent _)

/-- A client who has a reply had an answer before, for the query that was handed in. -/
theorem Run.exists_decided (h : Run config fetchTimeout moves s) {id : CallerId} {input : Input}
    (hin : HandedIn moves id input) {c : Client} (hc : s.clients.find? id = some c)
    {query : Dns.Message} (hquery : input.decode = .ok query) :
    (∀ answer resolution, c.stage = .told answer resolution →
      ∃ m ∈ moves, ∃ before, m.before.clients.find? id = some before ∧
        before.stage = .decided query answer resolution) ∧
    ∀ bytes resolution, c.stage = .replied bytes resolution →
      ∃ m ∈ moves, ∃ before answer carrier, m.before.clients.find? id = some before ∧
        before.stage = .decided query answer resolution ∧ input.carrier? = some carrier ∧
        bytes = State.replyBytes carrier query answer := by
  induction h generalizing c with
  | start => simp [State.start] at hc
  | @move moves m run ih =>
    rcases HandedIn.cons.mp hin with hinput | hin
    · -- who has just come has no reply yet
      obtain ⟨-, hc'⟩ := m.effect.client_of_input hinput
      obtain rfl := Option.some.inj (hc.symm.trans hc')
      have hfirst : m.before.entryStage input = m.before.firstStage query := by
        simp only [State.entryStage, hquery]
      refine ⟨fun answer resolution hstage => ?_, fun bytes resolution hstage => ?_⟩
      all_goals
        simp only [hfirst, State.firstStage] at hstage
        split at hstage
        · cases hstage
        · split at hstage <;> cases hstage
    · obtain ⟨before, hbefore, hcarrier, -⟩ := (Sound.of_run run).clients id input hin
      obtain ⟨-, hstory⟩ := run.story hin hbefore
      obtain ⟨stage, hc', hgo⟩ := m.effect.client_before hbefore
      obtain rfl := Option.some.inj (hc.symm.trans hc')
      rcases hgo with rfl | hadvance
      · obtain ⟨htold, hreplied⟩ := ih hin hbefore
        refine ⟨fun answer resolution hstage => ?_, fun bytes resolution hstage => ?_⟩
        · obtain ⟨m', hm', hrest⟩ := htold answer resolution hstage
          exact ⟨m', List.mem_cons_of_mem _ hm', hrest⟩
        · obtain ⟨m', hm', hrest⟩ := hreplied bytes resolution hstage
          exact ⟨m', List.mem_cons_of_mem _ hm', hrest⟩
      · -- a reply is made of what was decided
        refine ⟨fun answer resolution hstage => ?_, fun bytes resolution hstage => ?_⟩
        · obtain rfl : stage = .told answer resolution := hstage
          cases hadvance with
          | tell hdecided =>
            rw [hdecided] at hstory
            cases hstory with
            | decided hinput =>
              obtain rfl := Except.ok.inj (hinput.symm.trans hquery)
              exact ⟨m, List.mem_cons_self, before, hbefore, hdecided⟩
        · obtain rfl : stage = .replied bytes resolution := hstage
          cases hadvance with
          | @reply q answer _ carrier hdecided hcarrier' =>
            rw [hdecided] at hstory
            cases hstory with
            | decided hinput =>
              obtain rfl := Except.ok.inj (hinput.symm.trans hquery)
              exact ⟨m, List.mem_cons_self, before, answer, carrier, hbefore, hdecided,
                hcarrier ▸ hcarrier', rfl⟩

variable (h : Run config fetchTimeout moves s)
  (hnew : ∀ m ∈ moves, ∀ id f result, m.before.cache.fetches.find? id = some f →
    Resolves m.before m.event id result → P f.key result)
  (hlate : ∀ m ∈ moves, ∀ id, m.event = .giveUp id → ∀ key, P key (.error .timeout))

include h hnew hlate

/-- What is decided in a run follows from a result under the fingerprint of the query. -/
theorem Run.ruling_of_decided {m : Move} (hm : m ∈ moves) {id : CallerId} {c : Client}
    (hc : m.before.clients.find? id = some c) {query answer : Dns.Message} {resolution : Resolution}
    (hstage : c.stage = .decided query answer resolution) :
    Ruling config P query answer resolution := by
  obtain ⟨earlier, hsuffix, hrun⟩ := h.exists_before hm
  have hfaithful := Faithful.of_run hrun (fun m' hm' => hnew m' (hsuffix.subset hm'))
    (fun m' hm' => hlate m' (hsuffix.subset hm'))
  exact hfaithful.decided id c query answer resolution hc hstage

/-- **Whoever is told a message is told what follows from a result under the fingerprint of the
query.** -/
theorem Run.ruling_of_told {id : CallerId} {input : Input} (hin : HandedIn moves id input)
    {query : Dns.Message} (hquery : input.decode = .ok query) {c : Client}
    (hc : s.clients.find? id = some c) {answer : Dns.Message} {resolution : Resolution}
    (hstage : c.stage = .told answer resolution) : Ruling config P query answer resolution := by
  obtain ⟨m, hm, before, hbefore, hdecided⟩ :=
    (h.exists_decided hin hc hquery).1 answer resolution hstage
  exact h.ruling_of_decided hnew hlate hm hbefore hdecided

/-- **Whoever is told octets is told what follows from a result under the fingerprint of the
query.** -/
theorem Run.ruling_of_replied {id : CallerId} {input : Input} (hin : HandedIn moves id input)
    {query : Dns.Message} (hquery : input.decode = .ok query) {c : Client}
    (hc : s.clients.find? id = some c) {bytes : Option (List UInt8)} {resolution : Resolution}
    (hstage : c.stage = .replied bytes resolution) :
    ∃ answer carrier, Ruling config P query answer resolution ∧ input.carrier? = some carrier ∧
      bytes = State.replyBytes carrier query answer := by
  obtain ⟨m, hm, before, answer, carrier, hbefore, hdecided, hcarrier, hbytes⟩ :=
    (h.exists_decided hin hc hquery).2 bytes resolution hstage
  exact ⟨answer, carrier, h.ruling_of_decided hnew hlate hm hbefore hdecided, hcarrier, hbytes⟩

end

end DohRelay.Service
