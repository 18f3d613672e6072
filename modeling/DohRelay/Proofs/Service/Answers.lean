import DohRelay.Proofs.Cache.Passing
import DohRelay.Proofs.Outcome
import DohRelay.Proofs.Service.Run

/-!
# Where replies come from

Whatever a client is told goes back to what the client handed in: the reply is written from a
message that says the query could not be answered, or that there is nothing by policy, or from an
answer that an errand made of a message of the endpoint.  Many clients may be told of one message of
the endpoint, by way of the cache, each with an answer fitted to its own query.

## Main definitions

* `Admitted` — queries with one question, which policy does not answer.
* `Sent`, `Obtained` — messages that the endpoint sent, and the answers made of them.
* `Verdict` — the messages that a query may be answered with.
* `Story` — the stages that a client with some input may be at.

## Main results

* `State.replyBytes_eq_some` — the forms that a reply may have.
* `Inquiry.conclude_eq_ok` — the answer of an errand is made of a message that the endpoint sent.
* `Sound.of_run` — clients, errands and the cache keep to their stories.
* `Run.story` — **every client is told what follows from its input and from what the endpoint
  sent.**
-/

namespace DohRelay

/-! ### Errands -/

/-- The answer of an errand is made of a message that the endpoint sent. -/
theorem Inquiry.conclude_eq_ok {config : Config} {query answer : Dns.Message}
    {question : Dns.Question} {response : Http.Response}
    (h : conclude config query question response = .ok answer) :
    response.isSuccess = true ∧ ∃ message, readAnswer config question response.body = .ok message ∧
      checkQuestion message question = .ok () ∧ answer = message.answering query := by
  unfold conclude at h
  cases hsuccess : response.isSuccess with
  | false =>
    rw [hsuccess] at h
    cases h
  | true =>
    rw [hsuccess] at h
    obtain ⟨message, hread, h⟩ := exists_of_bind_eq_ok h
    obtain ⟨_, hcheck, h⟩ := exists_of_bind_eq_ok h
    cases h
    exact ⟨rfl, message, hread, hcheck, rfl⟩

namespace Service

open Cache (CallerId)

/-- A query has one question, which policy does not answer. -/
structure Admitted (config : Config) (query : Dns.Message) (question : Dns.Question) : Prop where
  /-- It is the only one. -/
  single : query.question = .ok question
  /-- Policy has nothing to say about it. -/
  policy : (config.noAaaa && question.isAaaa) = false

/-- What is to be done about a query that policy does not answer is not to answer it at once. -/
theorem Admitted.plan_ne_reply {config : Config} {query answer : Dns.Message}
    {question : Dns.Question} (h : Admitted config query question)
    (subnet : Option Net.Network) : Inquiry.plan config query subnet ≠ .ok (.reply answer) := by
  intro hplan
  simp only [Inquiry.plan, h.single, h.policy] at hplan
  cases hrequest : Inquiry.request config query question subnet with
  | error fault =>
    rw [hrequest] at hplan
    cases hplan
  | ok request =>
    rw [hrequest] at hplan
    cases hplan

/-- The endpoint sent a message in a response. -/
def Sent (config : Config) (moves : List Move) (message : Dns.Message) : Prop :=
  ∃ m ∈ moves, ∃ id response question, m.event = .respond id (.ok response) ∧
    response.isSuccess = true ∧ Inquiry.readAnswer config question response.body = .ok message

/-- An answer was made of a message of the endpoint, for some query. -/
def Obtained (config : Config) (moves : List Move) (answer : Dns.Message) : Prop :=
  ∃ message query, Sent config moves message ∧ answer = message.answering query

theorem Obtained.cons {config : Config} {moves : List Move} {answer : Dns.Message}
    (h : Obtained config moves answer) (m : Move) : Obtained config (m :: moves) answer := by
  obtain ⟨message, query, ⟨m', hm', hsent⟩, hanswer⟩ := h
  exact ⟨message, query, ⟨m', List.mem_cons_of_mem _ hm', hsent⟩, hanswer⟩

/-- The octets of a reply are those of the answer, of its short form, or of the reply that there is
no answer. -/
theorem State.replyBytes_eq_some {carrier : Carrier} {query answer : Dns.Message}
    {bytes : List UInt8} (h : replyBytes carrier query answer = some bytes) :
    answer.encode = .ok bytes ∨ answer.shortened.encode = .ok bytes ∨
      query.servFailFor.encode = .ok bytes := by
  unfold replyBytes at h
  split at h
  case h_1 written hwritten =>
    cases h
    unfold Dns.Message.encodeWithin at hwritten
    split at hwritten
    case h_1 => cases hwritten
    case h_2 full hfull =>
      split at hwritten
      case isTrue =>
        cases hwritten
        exact .inl hfull
      case isFalse => exact .inr (.inl hwritten)
  case h_2 => exact .inr (.inr (eq_ok_of_toOption h))

/-! ### Stories -/

/-- The messages that a query may be answered with, where answers have some property. -/
inductive Verdict (config : Config) (P : Dns.Message → Prop) (query : Dns.Message) :
    Dns.Message → Resolution → Prop
  /-- The query could not be answered. -/
  | failed : Verdict config P query query.servFailFor .failed
  /-- By policy there is nothing. -/
  | synthesized {question : Dns.Question} (hquestion : query.question = .ok question)
      (hpolicy : (config.noAaaa && question.isAaaa) = true) :
      Verdict config P query query.emptyAnswerFor .synthesized
  /-- There is an answer. -/
  | answered {question : Dns.Question} {answer : Dns.Message} (outcome : Cache.Outcome)
      (admitted : Admitted config query question) (hanswer : P answer) :
      Verdict config P query (answer.answering query) (.ofOutcome outcome)

/-- The stages that a client with some input may be at, where answers have some property. -/
inductive Story (config : Config) (P : Dns.Message → Prop) (input : Input) : Stage → Prop
  /-- The input is no query. -/
  | malformed {fault : Dns.Fault} (hinput : input.decode = .error fault) :
      Story config P input (.replied input.malformedReply .failed)
  /-- The client waits to be told the network to advertise. -/
  | locating {query : Dns.Message} {question : Dns.Question} (hinput : input.decode = .ok query)
      (admitted : Admitted config query question) :
      Story config P input (.locating query question)
  /-- The client waits for the cache. -/
  | asking {query : Dns.Message} {question : Dns.Question} (subnet : Option Net.Network)
      (since : Nat) (hinput : input.decode = .ok query)
      (admitted : Admitted config query question) :
      Story config P input (.asking query question subnet since)
  /-- There is an answer for the client. -/
  | decided {query answer : Dns.Message} {resolution : Resolution}
      (hinput : input.decode = .ok query) (verdict : Verdict config P query answer resolution) :
      Story config P input (.decided query answer resolution)
  /-- The client has octets as reply. -/
  | replied {query answer : Dns.Message} {resolution : Resolution} {carrier : Carrier}
      (hinput : input.decode = .ok query) (hcarrier : input.carrier? = some carrier)
      (verdict : Verdict config P query answer resolution) :
      Story config P input (.replied (State.replyBytes carrier query answer) resolution)
  /-- The client has a message as reply. -/
  | told {query answer : Dns.Message} {resolution : Resolution}
      (hinput : input.decode = .ok query) (hcarrier : input.carrier? = none)
      (verdict : Verdict config P query answer resolution) :
      Story config P input (.told answer resolution)
  /-- The client went away. -/
  | gone : Story config P input .gone

theorem Verdict.mono {config : Config} {P Q : Dns.Message → Prop} {query answer : Dns.Message}
    {resolution : Resolution} (h : Verdict config P query answer resolution)
    (hPQ : ∀ answer, P answer → Q answer) : Verdict config Q query answer resolution := by
  cases h with
  | failed => exact .failed
  | synthesized hquestion hpolicy => exact .synthesized hquestion hpolicy
  | answered outcome admitted hanswer => exact .answered outcome admitted (hPQ _ hanswer)

theorem Story.mono {config : Config} {P Q : Dns.Message → Prop} {input : Input} {stage : Stage}
    (h : Story config P input stage) (hPQ : ∀ answer, P answer → Q answer) :
    Story config Q input stage := by
  cases h with
  | malformed hinput => exact .malformed hinput
  | locating hinput admitted => exact .locating hinput admitted
  | asking subnet since hinput admitted => exact .asking subnet since hinput admitted
  | decided hinput verdict => exact .decided hinput (verdict.mono hPQ)
  | replied hinput hcarrier verdict => exact .replied hinput hcarrier (verdict.mono hPQ)
  | told hinput hcarrier verdict => exact .told hinput hcarrier (verdict.mono hPQ)
  | gone => exact .gone

/-- A client begins at a stage of the story. -/
theorem Story.entryStage (s : State) (P : Dns.Message → Prop) (input : Input) :
    Story s.config P input (s.entryStage input) := by
  unfold State.entryStage
  split
  case h_2 fault hinput => exact .malformed hinput
  case h_1 query hinput =>
    unfold State.firstStage
    split
    case h_1 => exact .decided hinput .failed
    case h_2 question hquestion =>
      split
      case isTrue hpolicy => exact .decided hinput (.synthesized hquestion hpolicy)
      case isFalse hpolicy =>
        exact .locating hinput ⟨hquestion, Bool.eq_false_iff.mpr hpolicy⟩

/-- A client gets on within the story. -/
theorem Story.advance {s : State} {P : Dns.Message → Prop} (hcache : s.cache.Holds P)
    {id : CallerId} {c : Client} {input : Input} (hcarrier : c.carrier = input.carrier?)
    (h : Story s.config P input c.stage) {stage : Stage} (hadvance : Advance s id c stage) :
    Story s.config P input stage := by
  cases hadvance with
  | ask subnet hstage =>
    rw [hstage] at h
    cases h with
    | locating hinput admitted => exact .asking subnet s.now hinput admitted
  | answer hstage hd hphase =>
    rw [hstage] at h
    cases h with
    | asking _ _ hinput admitted =>
      exact .decided hinput (.answered _ admitted (hcache.callers _ _ _ _ hd hphase))
  | fail hstage =>
    rw [hstage] at h
    cases h with
    | asking _ _ hinput => exact .decided hinput .failed
  | reply hstage hcarrier' =>
    rw [hstage] at h
    cases h with
    | decided hinput verdict => exact .replied hinput (hcarrier ▸ hcarrier') verdict
  | tell hstage hcarrier' =>
    rw [hstage] at h
    cases h with
    | decided hinput verdict => exact .told hinput (hcarrier ▸ hcarrier') verdict
  | leave => exact .gone

/-! ### Runs -/

/-- Clients, errands and the cache keep to their stories. -/
structure Sound (config : Config) (moves : List Move) (s : State) : Prop where
  /-- Whoever handed in something is at a stage of its story. -/
  clients : ∀ id input, HandedIn moves id input → ∃ c, s.clients.find? id = some c ∧
    c.carrier = input.carrier? ∧ Story config (Obtained config moves) input c.stage
  /-- Errands are run for queries that policy does not answer. -/
  errands : ∀ id errand, s.errands.find? id = some errand →
    ∃ question, Admitted config errand.query question
  /-- The answers in the cache were made of messages of the endpoint. -/
  cache : s.cache.Holds (Obtained config moves)

/-- An errand that comes to an answer made it of a message of the endpoint. -/
theorem Finishes.obtained {m : Move} {moves : List Move} {id : CallerId} {errand : Errand}
    {result : Cache.FetchResult} (h : Finishes m.before m.event id errand result)
    {question : Dns.Question} (admitted : Admitted m.before.config errand.query question)
    {answer : Dns.Message} (hresult : result = .ok answer) :
    Obtained m.before.config (m :: moves) answer := by
  generalize hevent : m.event = e at h
  cases h with
  | refuse => cases hresult
  | answer hplan => exact absurd hplan (admitted.plan_ne_reply _)
  | @respond _ _ question response hphase =>
    cases response with
    | error fault => cases hresult
    | ok response =>
      obtain ⟨hsuccess, message, hread, -, hanswer⟩ := Inquiry.conclude_eq_ok hresult
      exact ⟨message, errand.query,
        ⟨m, List.mem_cons_self, id, response, question, hevent, hsuccess, hread⟩, hanswer⟩

/-- **What happens keeps clients, errands and the cache to their stories.** -/
theorem Sound.of_run {config : Config} {fetchTimeout : Nat} {moves : List Move} {s : State}
    (h : Run config fetchTimeout moves s) : Sound config moves s := by
  induction h with
  | start =>
    refine ⟨fun id input hin => ?_, fun id errand herrand => ?_, .start _ _⟩
    · obtain ⟨m, hm, -⟩ := hin
      cases hm
    · simp [State.start] at herrand
  | @move moves m run ih =>
    obtain rfl := run.config_eq
    have hmono : ∀ answer, Obtained m.before.config moves answer →
        Obtained m.before.config (m :: moves) answer := fun answer h => h.cons m
    refine ⟨fun id input hin => ?_, fun id errand herrand => ?_, ?_⟩
    · -- a client who has just come is at the first stage, others got on or stayed
      rcases HandedIn.cons.mp hin with hinput | hin
      · obtain ⟨-, hc⟩ := m.effect.client_of_input hinput
        exact ⟨_, hc, rfl, .entryStage m.before _ input⟩
      · obtain ⟨c, hc, hcarrier, hstory⟩ := ih.clients id input hin
        obtain ⟨stage, hc', hstage⟩ := m.effect.client_before hc
        refine ⟨_, hc', hcarrier, Story.mono ?_ hmono⟩
        rcases hstage with rfl | hadvance
        · exact hstory
        · exact hstory.advance ih.cache hcarrier hadvance
    · rcases m.effect.errand_after herrand with
        ⟨before, hbefore, heq⟩ | ⟨c, question, hc, hstage, -⟩
      · obtain ⟨question, admitted⟩ := ih.errands id before hbefore
        exact ⟨question, heq ▸ admitted⟩
      · -- a new errand is for the query of a client who waited for the network
        obtain ⟨input, hin⟩ := run.exists_input hc
        obtain ⟨c', hc', -, hstory⟩ := ih.clients id input hin
        obtain rfl : c' = c := Option.some.inj (hc'.symm.trans hc)
        rw [hstage] at hstory
        cases hstory with
        | locating _ admitted => exact ⟨question, admitted⟩
    · rcases m.effect.cache_after with hsame | ⟨e, heffect, hcomplete⟩
      · exact hsame ▸ ih.cache.mono hmono
      · -- an answer comes into the cache only when an errand comes to one
        refine heffect.holds (ih.cache.mono hmono) fun id answer hevent => ?_
        obtain ⟨errand, herrand, hfinishes⟩ := hcomplete id _ hevent
        obtain ⟨question, admitted⟩ := ih.errands id errand herrand
        exact hfinishes.obtained admitted rfl

/-- **Every client is told what follows from its input and from what the endpoint sent.** -/
theorem Run.story {config : Config} {fetchTimeout : Nat} {moves : List Move} {s : State}
    (h : Run config fetchTimeout moves s) {id : CallerId} {input : Input}
    (hin : HandedIn moves id input) {c : Client} (hc : s.clients.find? id = some c) :
    c.carrier = input.carrier? ∧ Story config (Obtained config moves) input c.stage := by
  obtain ⟨c', hc', hcarrier, hstory⟩ := (Sound.of_run h).clients id input hin
  obtain rfl : c' = c := Option.some.inj (hc'.symm.trans hc)
  exact ⟨hcarrier, hstory⟩

end Service

end DohRelay
