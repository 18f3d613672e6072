import DohRelay.Proofs.Cache.Effect
import DohRelay.Service.State

/-!
# What an event does to the service

The service after an event is told by one case for each thing that can happen.  From the cases
follows what becomes of a client, of an errand and of the cache; a fetch comes to a result in the
service only when its errand does.

## Main definitions

* `Input`, `Event.input?` — what a client hands in.
* `Finishes` — how an errand comes to an end, and its fetch to a result.
* `Effect` — the cases.
* `Advance` — how a client gets on.

## Main results

* `effect_of_step` — what an event does is one of the cases.
* `Effect.client_of_input`, `Effect.client_after`, `Effect.client_before` — what becomes of a
  client, and where one came from.
* `Effect.errand_after` — where an errand came from.
* `Effect.cache_after` — what the service does to the cache is what can happen to a cache.
-/

namespace DohRelay.Service

open Cache (CallerId)

/-! ### Inputs -/

/-- What a client hands in. -/
inductive Input
  /-- Octets. -/
  | octets (carrier : Carrier) (bytes : List UInt8)
  /-- A query. -/
  | query (query : Dns.Message)

namespace Input

/-- How an input travels, if it is octets. -/
def carrier? : Input → Option Carrier
  | octets carrier _ => some carrier
  | query _ => none

/-- The query that an input is. -/
def decode : Input → Except Dns.Fault Dns.Message
  | octets _ bytes => Dns.Message.decode bytes
  | query q => .ok q

/-- The reply to an input that is no query. -/
def malformedReply : Input → Option (List UInt8)
  | octets _ bytes => Dns.malformedReply bytes
  | query _ => none

end Input

/-- What a client hands in by an event, if one does. -/
def Event.input? : Event → Option (CallerId × Input)
  | .arrive id carrier bytes => some (id, .octets carrier bytes)
  | .submit id query => some (id, .query query)
  | _ => none

/-- The stage that a client with an input begins at. -/
def State.entryStage (s : State) (input : Input) : Stage :=
  match input.decode with
  | .ok query => s.firstStage query
  | .error _ => .replied input.malformedReply .failed

/-! ### Effects -/

/-- How an errand comes to an end by an event, and its fetch to a result. -/
inductive Finishes (s : State) : Event → CallerId → Errand → Cache.FetchResult → Prop
  /-- No request can be made. -/
  | refuse {id : CallerId} {errand : Errand} {fault : Error}
      (hplan : Inquiry.plan s.config errand.query errand.subnet = .error (.told fault)) :
      Finishes s (.send id) id errand (.error fault)
  /-- No request need be made. -/
  | answer {id : CallerId} {errand : Errand} {answer : Dns.Message}
      (hplan : Inquiry.plan s.config errand.query errand.subnet = .ok (.reply answer)) :
      Finishes s (.send id) id errand (.ok answer)
  /-- The request is answered, or fails. -/
  | respond {id : CallerId} {errand : Errand} {question : Dns.Question}
      {response : Except Error Http.Response} (hphase : errand.phase = .sent question) :
      Finishes s (.respond id response) id errand
        (response.bind (Inquiry.conclude s.config errand.query question))

/-- What an event does to the service. -/
inductive Effect (s : State) : Event → State → Prop
  /-- A client hands in octets that are no query, and has the reply at once. -/
  | malformed {id : CallerId} {carrier : Carrier} {bytes : List UInt8} {fault : Dns.Fault}
      (fresh : s.clients.find? id = none) (hbytes : Dns.Message.decode bytes = .error fault) :
      Effect s (.arrive id carrier bytes)
        ((s.setClient id ⟨some carrier, s.now, .replied (Dns.malformedReply bytes) .failed⟩
          (.replied (Dns.malformedReply bytes) .failed)).count .failed s.now)
  /-- A client comes with a query; one who waits for the network to advertise may have to wait for
  its detection. -/
  | enroll {e : Event} {id : CallerId} {input : Input} {query : Dns.Message}
      {detection : Subnet.Detection} (hinput : e.input? = some (id, input))
      (hquery : input.decode = .ok query) (fresh : s.clients.find? id = none)
      (hdetection : detection = s.detection ∨ s.detects = true ∧
        (∃ question, s.firstStage query = .locating query question) ∧
        s.detection.arrive id = some detection) :
      Effect s e { s.setClient id ⟨input.carrier?, s.now, s.firstStage query⟩
        (s.firstStage query) with detection }
  /-- Something happens in the detection of the network. -/
  | detect {e : Subnet.DetectionEvent} {detection : Subnet.Detection}
      (own : State.isOwnDetectionEvent e = true)
      (hstep : s.detection.step s.now e = some detection) :
      Effect s (.detection e) { s with detection }
  /-- A client turns to the cache with an errand. -/
  | ask {id : CallerId} {c : Client} {query : Dns.Message} {question : Dns.Question}
      {subnet : Option Net.Network} {cache : Cache.State} (hc : s.clients.find? id = some c)
      (hstage : c.stage = .locating query question) (hsubnet : s.located id = some subnet)
      (hcache : s.cache.arrive id (Fingerprint.ofQuery query question subnet) .fetched =
        some cache) :
      Effect s (.ask id)
        ({ s with cache, errands := s.errands.insert id ⟨query, subnet, .ready⟩ }.setClient id c
          (.asking query question subnet s.now))
  /-- Something happens in the cache. -/
  | cache {e : Cache.Event} {cache : Cache.State} (own : State.isOwnCacheEvent e = true)
      (hstep : s.cache.step s.now e = some cache) : Effect s (.cache e) { s with cache }
  /-- A client gets the answer of the cache. -/
  | decideAnswer {id : CallerId} {c : Client} {d : Cache.Caller} {query answer : Dns.Message}
      {question : Dns.Question} {subnet : Option Net.Network} {since : Nat}
      {outcome : Cache.Outcome} (hc : s.clients.find? id = some c)
      (hstage : c.stage = .asking query question subnet since)
      (hd : s.cache.callers.find? id = some d) (hphase : d.phase = .answered answer outcome) :
      Effect s (.decide id)
        (s.setClient id c (.decided query (answer.answering query) (.ofOutcome outcome)))
  /-- A client gets the error of the cache. -/
  | decideError {id : CallerId} {c : Client} {d : Cache.Caller} {query : Dns.Message}
      {question : Dns.Question} {subnet : Option Net.Network} {since : Nat} {fault : Error}
      (hc : s.clients.find? id = some c) (hstage : c.stage = .asking query question subnet since)
      (hd : s.cache.callers.find? id = some d) (hphase : d.phase = .failed fault) :
      Effect s (.decide id) (s.setClient id c (.decided query query.servFailFor .failed))
  /-- A client has waited too long for the cache. -/
  | giveUp {id : CallerId} {c : Client} {query : Dns.Message} {question : Dns.Question}
      {subnet : Option Net.Network} {since : Nat} {cache : Cache.State}
      (hc : s.clients.find? id = some c) (hstage : c.stage = .asking query question subnet since)
      (hlate : since + s.config.queryTimeout ≤ s.now)
      (hidle : (s.cache.callerEvent? id).isNone = true) (hcache : s.cache.leave id = some cache)
      (hlives : s.isDying id = false) :
      Effect s (.giveUp id)
        ({ s with cache }.setClient id c (.decided query query.servFailFor .failed))
  /-- A client gets octets as reply. -/
  | reply {id : CallerId} {c : Client} {query answer : Dns.Message} {resolution : Resolution}
      {carrier : Carrier} (hc : s.clients.find? id = some c)
      (hstage : c.stage = .decided query answer resolution) (hcarrier : c.carrier = some carrier) :
      Effect s (.reply id)
        ((s.setClient id c (.replied (State.replyBytes carrier query answer) resolution)).count
          resolution c.arrivedAt)
  /-- A client gets a message as reply. -/
  | tell {id : CallerId} {c : Client} {query answer : Dns.Message} {resolution : Resolution}
      (hc : s.clients.find? id = some c) (hstage : c.stage = .decided query answer resolution)
      (hcarrier : c.carrier = none) :
      Effect s (.reply id) (s.setClient id c (.told answer resolution))
  /-- A client goes away. -/
  | leave {id : CallerId} {c : Client} (hc : s.clients.find? id = some c)
      (hover : c.stage.isOver = false) :
      Effect s (.leave id)
        ({ s with
            detection := (s.detection.leave id).getD s.detection
            cache := (s.cache.leave id).getD s.cache }.setClient id c .gone)
  /-- A request is sent for an errand. -/
  | send {id : CallerId} {errand : Errand} {question : Dns.Question} {request : Http.Request}
      (herrand : s.errands.find? id = some errand) (hphase : errand.phase = .ready)
      (hrunning : s.cache.isRunning id = true)
      (hplan : Inquiry.plan s.config errand.query errand.subnet =
        .ok (.exchange question request)) :
      Effect s (.send id) { s with
        calls := s.calls ++ [⟨id, s.now, request⟩]
        errands := s.errands.insert id { errand with phase := .sent question } }
  /-- An errand comes to an end. -/
  | finish {e : Event} {id : CallerId} {errand : Errand} {result : Cache.FetchResult}
      {cache : Cache.State} (herrand : s.errands.find? id = some errand)
      (hfinishes : Finishes s e id errand result)
      (hcache : s.cache.complete id result = some cache) :
      Effect s e { s with cache, errands := s.errands.insert id { errand with phase := .done } }
  /-- Time passes. -/
  | tick (millis : Nat) : Effect s (.tick millis) { s with now := s.now + millis }

section

variable {s s' : State} {e : Event}

/-- Only a query with one question, which policy does not answer, makes a client wait for the
network to advertise. -/
theorem State.firstStage_eq_locating {query q : Dns.Message} {question : Dns.Question}
    (h : s.firstStage query = .locating q question) :
    q = query ∧ query.question = .ok question ∧
      (s.config.noAaaa && question.isAaaa) = false := by
  unfold State.firstStage at h
  split at h
  case h_1 => cases h
  case h_2 question' hquestion =>
    split at h
    case isTrue => cases h
    case isFalse hpolicy =>
      cases h
      exact ⟨rfl, hquestion, Bool.eq_false_iff.mpr hpolicy⟩

private theorem effect_of_enroll (input : Input) {id : CallerId} {query : Dns.Message}
    (hinput : e.input? = some (id, input)) (hquery : input.decode = .ok query)
    (h : s.enroll id input.carrier? query = some s') : Effect s e s' := by
  unfold State.enroll at h
  split at h
  case h_1 => cases h
  case h_2 fresh =>
    have hplain : Effect s e
        (s.setClient id ⟨input.carrier?, s.now, s.firstStage query⟩ (s.firstStage query)) :=
      .enroll hinput hquery fresh (.inl rfl)
    simp only at h
    split at h
    case h_2 => exact Option.some.inj h ▸ hplain
    case h_1 q question hstage =>
      split at h
      case isFalse => exact Option.some.inj h ▸ hplain
      case isTrue hdetects =>
        obtain ⟨detection, hdetection, rfl⟩ := Option.map_eq_some_iff.mp h
        obtain ⟨rfl, -⟩ := State.firstStage_eq_locating hstage
        exact .enroll hinput hquery fresh (.inr ⟨hdetects, ⟨question, hstage⟩, hdetection⟩)

private theorem effect_of_finish {id : CallerId} {errand : Errand} {result : Cache.FetchResult}
    (herrand : s.errands.find? id = some errand) (hfinishes : Finishes s e id errand result)
    (h : s.finish id errand result = some s') : Effect s e s' := by
  obtain ⟨cache, hcache, h⟩ := Option.bind_eq_some_iff.mp h
  exact Option.some.inj h ▸ .finish herrand hfinishes hcache

private theorem effect_of_ask {id : CallerId} (h : s.ask id = some s') :
    Effect s (.ask id) s' := by
  unfold State.ask at h
  split at h
  case h_2 => cases h
  case h_1 c subnet hc hsubnet =>
    split at h
    case h_2 => cases h
    case h_1 query question hstage =>
      obtain ⟨cache, hcache, h⟩ := Option.bind_eq_some_iff.mp h
      exact Option.some.inj h ▸ .ask hc hstage hsubnet hcache

private theorem effect_of_decide {id : CallerId} (h : s.decide id = some s') :
    Effect s (.decide id) s' := by
  unfold State.decide at h
  split at h
  case h_2 => cases h
  case h_1 c phase hc hphase =>
    obtain ⟨d, hd, rfl⟩ := Option.map_eq_some_iff.mp hphase
    split at h
    case h_3 => cases h
    case h_1 query question subnet since answer outcome hstage hanswered =>
      exact Option.some.inj h ▸ .decideAnswer hc hstage hd hanswered
    case h_2 query question subnet since fault hstage hfailed =>
      exact Option.some.inj h ▸ .decideError hc hstage hd hfailed

private theorem effect_of_giveUp {id : CallerId} (h : s.giveUp id = some s') :
    Effect s (.giveUp id) s' := by
  unfold State.giveUp at h
  split at h
  case h_2 => cases h
  case h_1 c hc =>
    split at h
    case h_2 => cases h
    case h_1 query question subnet since hstage =>
      split at h
      case isFalse => cases h
      case isTrue hlate =>
        obtain ⟨cache, hcache, h⟩ := Option.bind_eq_some_iff.mp h
        exact Option.some.inj h ▸ .giveUp hc hstage hlate.1 hlate.2.1 hcache hlate.2.2

private theorem effect_of_reply {id : CallerId} (h : s.reply id = some s') :
    Effect s (.reply id) s' := by
  unfold State.reply at h
  split at h
  case h_2 => cases h
  case h_1 c hc =>
    split at h
    case h_3 => cases h
    case h_1 query answer resolution carrier hstage hcarrier =>
      exact Option.some.inj h ▸ .reply hc hstage hcarrier
    case h_2 query answer resolution hstage hcarrier =>
      exact Option.some.inj h ▸ .tell hc hstage hcarrier

private theorem effect_of_leave {id : CallerId} (h : s.leave id = some s') :
    Effect s (.leave id) s' := by
  unfold State.leave at h
  split at h
  case h_2 => cases h
  case h_1 c hc =>
    split at h
    case isTrue => cases h
    case isFalse hover => exact Option.some.inj h ▸ .leave hc (Bool.eq_false_iff.mpr hover)

private theorem effect_of_send {id : CallerId} (h : s.send id = some s') :
    Effect s (.send id) s' := by
  unfold State.send at h
  split at h
  case h_2 => cases h
  case h_1 errand herrand =>
    split at h
    case h_2 => cases h
    case h_1 hphase =>
      split at h
      case isFalse => cases h
      case isTrue hrunning =>
        split at h
        case h_1 fault hplan => exact effect_of_finish herrand (.refuse hplan) h
        case h_2 => cases h
        case h_3 answer hplan => exact effect_of_finish herrand (.answer hplan) h
        case h_4 question request hplan =>
          exact Option.some.inj h ▸ .send herrand hphase hrunning hplan

private theorem effect_of_respond {id : CallerId} {response : Except Error Http.Response}
    (h : s.respond id response = some s') : Effect s (.respond id response) s' := by
  unfold State.respond at h
  split at h
  case h_2 => cases h
  case h_1 errand herrand =>
    split at h
    case h_2 => cases h
    case h_1 question hphase => exact effect_of_finish herrand (.respond hphase) h

/-- **What an event does is one of the cases.** -/
theorem effect_of_step (h : s.step e = some s') : Effect s e s' := by
  cases e with
  | arrive id carrier bytes =>
    simp only [State.step, State.arrive] at h
    split at h
    case h_1 query hquery =>
      exact effect_of_enroll (.octets carrier bytes) rfl hquery h
    case h_2 fault hbytes =>
      split at h
      case h_1 => cases h
      case h_2 fresh => exact Option.some.inj h ▸ .malformed fresh hbytes
  | submit id query => exact effect_of_enroll (.query query) rfl rfl h
  | detection e =>
    simp only [State.step] at h
    split at h
    case isFalse => cases h
    case isTrue own =>
      obtain ⟨detection, hstep, rfl⟩ := Option.map_eq_some_iff.mp h
      exact .detect own hstep
  | ask id => exact effect_of_ask h
  | cache e =>
    simp only [State.step] at h
    split at h
    case isFalse => cases h
    case isTrue own =>
      obtain ⟨cache, hstep, rfl⟩ := Option.map_eq_some_iff.mp h
      exact .cache own hstep
  | decide id => exact effect_of_decide h
  | giveUp id => exact effect_of_giveUp h
  | reply id => exact effect_of_reply h
  | leave id => exact effect_of_leave h
  | send id => exact effect_of_send h
  | respond id response => exact effect_of_respond h
  | tick millis => exact Option.some.inj h ▸ .tick millis

/-- Nothing changes what the service was told when it started. -/
theorem Effect.config_eq (h : Effect s e s') : s'.config = s.config := by
  cases h <;> rfl

end

/-! ### Clients -/

/-- How a client gets on from one stage to the next. -/
inductive Advance (s : State) (id : CallerId) (c : Client) : Stage → Prop
  /-- The client turns to the cache. -/
  | ask {query : Dns.Message} {question : Dns.Question} (subnet : Option Net.Network)
      (hstage : c.stage = .locating query question) :
      Advance s id c (.asking query question subnet s.now)
  /-- The client gets the answer of the cache. -/
  | answer {query answer : Dns.Message} {question : Dns.Question} {subnet : Option Net.Network}
      {since : Nat} {d : Cache.Caller} {outcome : Cache.Outcome}
      (hstage : c.stage = .asking query question subnet since)
      (hd : s.cache.callers.find? id = some d) (hphase : d.phase = .answered answer outcome) :
      Advance s id c (.decided query (answer.answering query) (.ofOutcome outcome))
  /-- The client gets nothing from the cache. -/
  | fail {query : Dns.Message} {question : Dns.Question} {subnet : Option Net.Network}
      {since : Nat} (hstage : c.stage = .asking query question subnet since) :
      Advance s id c (.decided query query.servFailFor .failed)
  /-- The client gets octets as reply. -/
  | reply {query answer : Dns.Message} {resolution : Resolution} {carrier : Carrier}
      (hstage : c.stage = .decided query answer resolution) (hcarrier : c.carrier = some carrier) :
      Advance s id c (.replied (State.replyBytes carrier query answer) resolution)
  /-- The client gets a message as reply. -/
  | tell {query answer : Dns.Message} {resolution : Resolution}
      (hstage : c.stage = .decided query answer resolution) (hcarrier : c.carrier = none) :
      Advance s id c (.told answer resolution)
  /-- The client goes away. -/
  | leave (hover : c.stage.isOver = false) : Advance s id c .gone

/-- Only the client who comes to a stage is another afterwards. -/
theorem State.find?_clients_setClient (s : State) (id : CallerId) (c : Client) (stage : Stage)
    (i : CallerId) :
    (s.setClient id c stage).clients.find? i =
      if i = id then some { c with stage } else s.clients.find? i :=
  Table.find?_insert ..

namespace Effect

variable {s s' : State} {e : Event} {id : CallerId}

/-- A client who hands in something is new, and begins at the stage for it. -/
theorem client_of_input (h : Effect s e s') {input : Input} (hinput : e.input? = some (id, input)) :
    s.clients.find? id = none ∧
      s'.clients.find? id = some ⟨input.carrier?, s.now, s.entryStage input⟩ := by
  cases h with
  | malformed fresh hbytes =>
    cases hinput
    refine ⟨fresh, (Table.find?_insert_self ..).trans ?_⟩
    simp only [State.entryStage, Input.decode, hbytes]
    rfl
  | enroll hinput' hquery fresh =>
    rw [hinput, Option.some.injEq] at hinput'
    cases hinput'
    refine ⟨fresh, (Table.find?_insert_self ..).trans ?_⟩
    simp only [State.entryStage, hquery]
  | finish _ hfinishes => cases hfinishes <;> cases hinput
  | _ => cases hinput

/-- Where a client came from: it was there, it has just come, or it got on. -/
theorem client_after (h : Effect s e s') {c : Client} (hc : s'.clients.find? id = some c) :
    s.clients.find? id = some c ∨ (∃ input, e.input? = some (id, input)) ∨
      ∃ before, s.clients.find? id = some before ∧ c = { before with stage := c.stage } ∧
        Advance s id before c.stage := by
  have hset {i : CallerId} {d : Client} {stage : Stage} {t : State}
      (hd : s.clients.find? i = some d) (ht : t.clients = s.clients) (hgo : Advance s i d stage)
      (hc : (t.setClient i d stage).clients.find? id = some c) :
      s.clients.find? id = some c ∨ (∃ input, e.input? = some (id, input)) ∨
        ∃ before, s.clients.find? id = some before ∧ c = { before with stage := c.stage } ∧
          Advance s id before c.stage := by
    rcases Table.find?_insert_eq_some.mp hc with ⟨rfl, rfl⟩ | ⟨-, hc⟩
    · exact .inr (.inr ⟨d, hd, rfl, hgo⟩)
    · exact .inl (ht ▸ hc)
  have hcome (input : Input) {i : CallerId} {d : Client} {stage : Stage}
      (hinput : e.input? = some (i, input))
      (hc : (s.setClient i d stage).clients.find? id = some c) :
      s.clients.find? id = some c ∨ (∃ input, e.input? = some (id, input)) ∨
        ∃ before, s.clients.find? id = some before ∧ c = { before with stage := c.stage } ∧
          Advance s id before c.stage := by
    rcases Table.find?_insert_eq_some.mp hc with ⟨rfl, -⟩ | ⟨-, hc⟩
    · exact .inr (.inl ⟨input, hinput⟩)
    · exact .inl hc
  cases h with
  | malformed => exact hcome (.octets _ _) rfl hc
  | enroll hinput => exact hcome _ hinput hc
  | ask hd hstage => exact hset hd rfl (.ask _ hstage) hc
  | decideAnswer hd hstage hd' hphase => exact hset hd rfl (.answer hstage hd' hphase) hc
  | decideError hd hstage => exact hset hd rfl (.fail hstage) hc
  | giveUp hd hstage => exact hset hd rfl (.fail hstage) hc
  | reply hd hstage hcarrier => exact hset hd rfl (.reply hstage hcarrier) hc
  | tell hd hstage hcarrier => exact hset hd rfl (.tell hstage hcarrier) hc
  | leave hd hover => exact hset hd rfl (.leave hover) hc
  | _ => exact .inl hc

/-- Clients do not go away from the books, and keep how they travel and when they came. -/
theorem client_before (h : Effect s e s') {c : Client} (hc : s.clients.find? id = some c) :
    ∃ stage, s'.clients.find? id = some { c with stage } ∧
      (stage = c.stage ∨ Advance s id c stage) := by
  have hset {i : CallerId} {d : Client} {stage : Stage} {t : State}
      (hd : s.clients.find? i = some d) (ht : t.clients = s.clients) (hgo : Advance s i d stage) :
      ∃ stage', (t.setClient i d stage).clients.find? id = some { c with stage := stage' } ∧
        (stage' = c.stage ∨ Advance s id c stage') := by
    rw [State.find?_clients_setClient, ht]
    split
    case isTrue hi =>
      subst hi
      rw [hc, Option.some.injEq] at hd
      subst hd
      exact ⟨stage, rfl, .inr hgo⟩
    case isFalse => exact ⟨c.stage, hc, .inl rfl⟩
  have hcome {i : CallerId} {d : Client} {stage : Stage} (fresh : s.clients.find? i = none) :
      ∃ stage', (s.setClient i d stage).clients.find? id = some { c with stage := stage' } ∧
        (stage' = c.stage ∨ Advance s id c stage') := by
    rw [State.find?_clients_setClient]
    split
    case isTrue hi =>
      rw [← hi, hc] at fresh
      cases fresh
    case isFalse => exact ⟨c.stage, hc, .inl rfl⟩
  cases h with
  | malformed fresh => exact hcome fresh
  | enroll _ _ fresh => exact hcome fresh
  | ask hd hstage => exact hset hd rfl (.ask _ hstage)
  | decideAnswer hd hstage hd' hphase => exact hset hd rfl (.answer hstage hd' hphase)
  | decideError hd hstage => exact hset hd rfl (.fail hstage)
  | giveUp hd hstage => exact hset hd rfl (.fail hstage)
  | reply hd hstage hcarrier => exact hset hd rfl (.reply hstage hcarrier)
  | tell hd hstage hcarrier => exact hset hd rfl (.tell hstage hcarrier)
  | leave hd hover => exact hset hd rfl (.leave hover)
  | _ => exact ⟨c.stage, hc, .inl rfl⟩

/-! ### Errands and the cache -/

/-- Where an errand came from: it was there, further back maybe, or a client has just left it and
come to the cache as a caller with the fingerprint of its query. -/
theorem errand_after (h : Effect s e s') {errand : Errand}
    (herrand : s'.errands.find? id = some errand) :
    (∃ before, s.errands.find? id = some before ∧ errand = { before with phase := errand.phase }) ∨
      ∃ c question, s.clients.find? id = some c ∧ c.stage = .locating errand.query question ∧
        s.located id = some errand.subnet ∧ s'.cache.callers.find? id =
          some ⟨.ofQuery errand.query question errand.subnet, .fetched, .arrived⟩ := by
  have hset {i : CallerId} {d d' : Errand} (hd : s.errands.find? i = some d)
      (hd' : d' = { d with phase := d'.phase })
      (h : (s.errands.insert i d').find? id = some errand) :
      ∃ before, s.errands.find? id = some before ∧
        errand = { before with phase := errand.phase } := by
    rcases Table.find?_insert_eq_some.mp h with ⟨rfl, rfl⟩ | ⟨-, h⟩
    · exact ⟨d, hd, hd'⟩
    · exact ⟨errand, h, rfl⟩
  cases h with
  | @ask i c query question subnet cache hc hstage hsubnet hcache =>
    rcases Table.find?_insert_eq_some.mp herrand with ⟨rfl, rfl⟩ | ⟨-, herrand⟩
    · refine .inr ⟨c, question, hc, hstage, hsubnet, ?_⟩
      have heffect : Cache.Effect s.now s.cache
          (.arrive id (.ofQuery query question subnet) .fetched) cache :=
        Cache.effect_of_step hcache
      change cache.callers.find? id = _
      generalize cache = t at heffect
      cases heffect with
      | arrive => exact Table.find?_insert_self ..
    · exact .inl ⟨errand, herrand, rfl⟩
  | send hd => exact .inl (hset hd rfl herrand)
  | finish hd => exact .inl (hset hd rfl herrand)
  | _ => exact .inl ⟨errand, herrand, rfl⟩

/-- Requests that were sent stay, and one more is sent when an errand is begun that needs one. -/
theorem calls_after (h : Effect s e s') : s'.calls = s.calls ∨
    ∃ i errand question request, e = .send i ∧ s.errands.find? i = some errand ∧
      s.cache.isRunning i = true ∧
      Inquiry.plan s.config errand.query errand.subnet = .ok (.exchange question request) ∧
      s'.calls = s.calls ++ [⟨i, s.now, request⟩] := by
  cases h with
  | @send i errand question request herrand _ hrunning hplan =>
    exact .inr ⟨i, errand, question, request, rfl, herrand, hrunning, hplan, rfl⟩
  | _ => exact .inl rfl

/-- **What the service does to the cache is what can happen to a cache**, and a fetch comes to a
result there only when its errand comes to an end. -/
theorem cache_after (h : Effect s e s') :
    s'.cache = s.cache ∨ ∃ cacheEvent, Cache.Effect s.now s.cache cacheEvent s'.cache ∧
      ∀ id result, cacheEvent = .complete id result →
        ∃ errand, s.errands.find? id = some errand ∧ Finishes s e id errand result := by
  cases h with
  | ask _ _ _ hcache =>
    exact .inr ⟨_, Cache.effect_of_step (e := .arrive _ _ _) hcache, by simp⟩
  | @cache cacheEvent cache own hstep =>
    -- the cache by itself brings no fetch to a result
    refine .inr ⟨cacheEvent, Cache.effect_of_step hstep, ?_⟩
    rintro id result rfl
    cases own
  | giveUp _ _ _ _ hcache =>
    exact .inr ⟨_, Cache.effect_of_step (e := .leave _) hcache, by simp⟩
  | @leave i =>
    -- a client may go away who has not come to the cache, or has left it already
    cases hcache : s.cache.leave i with
    | none => exact .inl (by simp [State.setClient])
    | some cache =>
      refine .inr ⟨.leave i, ?_, by simp⟩
      have heffect : Cache.Effect s.now s.cache (.leave i) cache :=
        Cache.effect_of_step (e := .leave i) hcache
      simpa [State.setClient, hcache] using heffect
  | @finish e i errand result cache herrand hfinishes hcache =>
    refine .inr ⟨.complete i result, Cache.effect_of_step (e := .complete i result) hcache, ?_⟩
    rintro id result' hevent
    cases hevent
    exact ⟨errand, herrand, hfinishes⟩
  | _ => exact .inl rfl

end Effect

end DohRelay.Service
