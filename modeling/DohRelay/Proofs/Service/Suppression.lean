import DohRelay.Proofs.Service.Accounting
import DohRelay.Proofs.Service.Belonging
import DohRelay.Proofs.Service.DatagramBound
import DohRelay.Proofs.Service.Detecting
import DohRelay.Proofs.Service.Findings
import DohRelay.Proofs.Service.Parameters

/-!
# Questions that get an empty answer

A relay may be told to give an empty answer to questions for addresses of 128 bits.  Whoever asks
one of them is answered on arrival: nobody looks up a network to advertise for it, nobody comes to
the cache for it, and so nothing is fetched or kept for it.  Everybody else who comes to the
detection of the network or to the cache asks for something else, and everything in the cache is
there because somebody came for it.  Hence no request that the relay ever sends is about such an
address.

## Main definitions

* `Conveys`, `Http.Request.Asks` — the question that octets convey, or a request.
* `Cache.State.Wanted` — what is in the cache is under keys that callers asked for.
* `Welcome` — those who come to the detection and to the cache were let in by policy.
* `SaysNothing`, `Silenced` — a reply without records, and the stages of a client who gets one.

## Main results

* `Inquiry.asks_of_request` — **a request asks the question of the query, and no other.**
* `Welcome.of_run` — **in every run only those come to the detection and to the cache whom policy
  lets in.**
* `Run.silenced` — whoever policy does not let in gets an empty answer.
* `addresses_are_suppressed` — **a relay that is told so never asks for addresses of 128 bits, keeps
  nothing about them, looks up nothing for who asks for them, and tells that there are none.**
-/

namespace DohRelay

/-! ### What requests ask -/

/-- Octets are those of a message with one question and no other, and whoever reads them finds it
there. -/
def Conveys (bytes : List UInt8) (question : Dns.Question) : Prop :=
  ∃ message, Dns.Message.encode message = .ok bytes ∧ message.questions = [question] ∧
    ∀ received, Dns.Message.decode bytes = .ok received → received.questions = [question]

/-- A request asks a question: by a message in its body or in its location, or by parameters with
the name and the type.  Besides these its location has what the endpoint and the configuration put
into every request. -/
inductive Http.Request.Asks (config : Config) (r : Http.Request) (question : Dns.Question) : Prop
  /-- A message is the body. -/
  | posted {bytes : List UInt8} (hbody : r.body = some bytes) (hpairs : r.url.pairs =
      config.endpoint.pairs ++ config.params.map fun (key, value) => (key.toList, value.toList))
      (hconveys : Conveys bytes question) : Asks config r question
  /-- A message stands in the location. -/
  | placed {bytes : List UInt8} (hbody : r.body = none) (hpairs : r.url.pairs =
      config.endpoint.pairs ++ [(Wire.parameter, Text.Base64.encode bytes)] ++
        config.params.map fun (key, value) => (key.toList, value.toList))
      (hconveys : Conveys bytes question) : Asks config r question
  /-- Parameters stand in the location. -/
  | spelled {own : List (List Char × List Char)} (hbody : r.body = none) (hpairs : r.url.pairs =
      config.endpoint.pairs ++ own ++
        config.params.map fun (key, value) => (key.toList, value.toList))
      (hname : own.lookup "name".toList = some question.name.text)
      (htype : ∀ value, ("type".toList, value) ∈ own ↔
        value = Text.decimal question.type.code.toNat) : Asks config r question

/-- The message that travels for a query conveys its question. -/
theorem Wire.conveys_outgoing {query : Dns.Message} {question : Dns.Question}
    (h : query.question = .ok question) {subnet : Option Net.Network} {bytes : List UInt8}
    (hbytes : (Wire.outgoing query subnet).encode = .ok bytes) : Conveys bytes question := by
  have hquestions : (Wire.outgoing query subnet).questions = [question] := by
    rw [← Dns.Message.questions_of_question h]
    cases subnet <;> rfl
  have hfits := Dns.Message.fits_of_encode hquestions hbytes
  exact ⟨_, hbytes, hquestions, fun received hread =>
    (Dns.Message.questions_of_decode hfits hbytes hread).trans hquestions⟩

/-- The only type among the parameters of a query is that of its question. -/
theorem Resolve.type_mem_parameters (query : Dns.Message) (question : Dns.Question)
    (subnet : Option Net.Network) (value : List Char) :
    ("type".toList, value) ∈ parameters query question subnet ↔
      value = Text.decimal question.type.code.toNat := by
  unfold parameters
  cases query.checkingDisabled <;> cases query.dnssecOk <;> cases subnet <;> simp

/-- **A request asks the question of the query, and no other.** -/
theorem Inquiry.asks_of_request {config : Config} {query : Dns.Message} {question : Dns.Question}
    {subnet : Option Net.Network} {r : Http.Request} (hquestion : query.question = .ok question)
    (h : request config query question subnet = .ok r) : r.Asks config question := by
  obtain ⟨plain, hplain, hr⟩ := exists_of_request h
  have hpairs := pairs_configured hr
  have hbody := (body_configured hr).2
  cases hconvention : config.convention with
  | json =>
    simp only [conventionRequest, hconvention] at hplain
    cases hplain
    rw [Resolve.request, Url.pairs_appendPairs] at hpairs
    exact .spelled hbody hpairs (Resolve.lookup_parameters query question subnet).1
      (Resolve.type_mem_parameters query question subnet)
  | wire =>
    simp only [conventionRequest, hconvention, Wire.request] at hplain
    split at hplain
    case h_1 => cases hplain
    case h_2 bytes hbytes =>
      have hconveys := Wire.conveys_outgoing hquestion hbytes
      split at hplain
      case isTrue =>
        cases hplain
        exact .posted hbody hpairs hconveys
      case isFalse =>
        cases hplain
        rw [Url.pairs_appendPair] at hpairs
        exact .placed hbody hpairs hconveys

/-- A question for addresses of 128 bits is one with their type. -/
theorem Dns.Question.isAaaa_iff {question : Dns.Question} :
    question.isAaaa = true ↔ question.type = .aaaa :=
  beq_iff_eq

/-- Whoever translates a question for an address of 128 bits by itself makes no request of it. -/
theorem Inquiry.run_isAaaa {config : Config} (hno : config.noAaaa = true)
    (endpoint : Http.Request → Except Error Http.Response) {query : Dns.Message}
    {question : Dns.Question} (hquestion : query.question = .ok question)
    (htype : question.type = .aaaa) (subnet : Option Net.Network) :
    run config endpoint query subnet = (.ok query.emptyAnswerFor, none) := by
  have hpolicy : (config.noAaaa && question.isAaaa) = true := by
    rw [hno, Dns.Question.isAaaa_iff.mpr htype]
    rfl
  rw [run, plan, hquestion]
  simp only [hpolicy, if_true]

/-! ### Where keys come from -/

namespace Cache

/-- What is in a cache is under keys that callers asked for. -/
structure State.Wanted (s : State) : Prop where
  /-- Fetches, markers and those who wait are, -/
  named : s.Named
  /-- and stored answers. -/
  entries : ∀ key entry, s.entries.find? key = some entry → ∃ id, s.Asks id key

/-- Nothing comes into a cache that nobody asked for. -/
theorem Effect.wanted {now : Nat} {s s' : State} {e : Event} (he : Effect now s e s')
    (h : s.Wanted) : s'.Wanted where
  named := he.named h.named
  entries key entry hentry := by
    rcases he.entry_after hentry with hbefore | ⟨id, f, -, hf, rfl, -⟩
    · obtain ⟨id, hasks⟩ := h.entries key entry hbefore
      exact ⟨id, he.asks hasks⟩
    · exact ⟨id, he.asks (h.named.fetches id f hf)⟩

/-- A cache where nobody asks for a key has nothing under it. -/
theorem State.Wanted.absent {s : State} (h : s.Wanted) {key : Fingerprint}
    (hnone : ∀ id, ¬ s.Asks id key) : s.entries.find? key = none ∧ s.markers.find? key = none := by
  constructor
  · refine Option.eq_none_iff_forall_ne_some.mpr fun entry hentry => ?_
    obtain ⟨id, hasks⟩ := h.entries key entry hentry
    exact hnone id hasks
  · refine Option.eq_none_iff_forall_ne_some.mpr fun fetch hmarker => ?_
    exact hnone fetch (h.named.markers key fetch hmarker)

end Cache

namespace Service

open Cache (CallerId)

namespace Effect

variable {s s' : State} {e : Event} {id : CallerId}

/-- Where a key came from that is asked for in the cache: it was asked for before, or a client who
waited to be told the network has just come with the fingerprint of its query. -/
theorem asks_after (h : Effect s e s') {key : Fingerprint} (hasks : s'.cache.Asks id key) :
    s.cache.Asks id key ∨ ∃ c query question subnet, s.clients.find? id = some c ∧
      c.stage = .locating query question ∧ key = .ofQuery query question subnet := by
  obtain ⟨d, hd, rfl⟩ := hasks
  cases hbefore : s.cache.callers.find? id with
  | some before =>
    obtain ⟨d', hd', hkey⟩ := h.key_of_caller hbefore
    obtain rfl := Option.some.inj (hd.symm.trans hd')
    exact .inl ⟨before, hbefore, hkey.symm⟩
  | none =>
    by_cases hevent : e = .ask id
    case neg =>
      rw [h.caller_eq_none hbefore hevent] at hd
      cases hd
    case pos =>
      subst hevent
      cases h with
      | @ask _ c query question subnet cache hc hstage _ hcache =>
        have harrive : Cache.Effect s.now s.cache
            (.arrive id (.ofQuery query question subnet) .fetched) cache :=
          Cache.effect_of_step hcache
        change cache.callers.find? id = some d at hd
        cases harrive with
        | arrive =>
          obtain rfl := Option.some.inj ((Table.find?_insert_self ..).symm.trans hd)
          exact .inr ⟨c, query, question, subnet, hc, hstage, rfl⟩
      | enroll hinput => cases hinput
      | finish _ hfinishes => cases hfinishes

end Effect

/-! ### Who is let in -/

/-- A client handed in a query with one question, which policy does not answer. -/
def LetIn (config : Config) (moves : List Move) (id : CallerId) (query : Dns.Message)
    (question : Dns.Question) : Prop :=
  ∃ input, HandedIn moves id input ∧ input.decode = .ok query ∧ Admitted config query question

/-- Those who come to the detection and to the cache were let in by policy. -/
structure Welcome (config : Config) (moves : List Move) (s : State) : Prop where
  /-- Callers of the detection were, -/
  detection : ∀ id p, s.detection.callers.find? id = some p →
    ∃ query question, LetIn config moves id query question
  /-- and those who ask the cache, which they do under the fingerprints of their queries; -/
  asking : ∀ id key, s.cache.Asks id key → ∃ query question subnet,
    LetIn config moves id query question ∧ key = .ofQuery query question subnet
  /-- and the cache has what they asked for. -/
  wanted : s.cache.Wanted

theorem LetIn.cons {config : Config} {moves : List Move} {id : CallerId} {query : Dns.Message}
    {question : Dns.Question} (h : LetIn config moves id query question) (m : Move) :
    LetIn config (m :: moves) id query question := by
  obtain ⟨input, hin, hrest⟩ := h
  exact ⟨input, HandedIn.cons.mpr (.inr hin), hrest⟩

/-- **In every run only those come to the detection and to the cache whom policy lets in.** -/
theorem Welcome.of_run {config : Config} {fetchTimeout : Nat} {moves : List Move} {s : State}
    (h : Run config fetchTimeout moves s) : Welcome config moves s := by
  induction h with
  | start =>
    refine ⟨fun _ _ hp => ?_, fun _ _ ⟨_, hd, _⟩ => ?_, .start _ _, fun _ _ hentry => ?_⟩
    · simp [State.start, Subnet.Detection.start] at hp
    · simp [State.start, Cache.State.start] at hd
    · simp [State.start, Cache.State.start] at hentry
  | @move moves m run ih =>
    refine ⟨fun id p hp => ?_, fun id key hasks => ?_, ?_⟩
    · rcases m.effect.detection_before hp with
        ⟨-, input, query, question, hinput, hquery, hstage⟩ | ⟨q, hq, -⟩
      · obtain ⟨-, hquestion, hpolicy⟩ := State.firstStage_eq_locating hstage
        rw [run.config_eq] at hpolicy
        exact ⟨query, question, input, HandedIn.cons.mpr (.inl hinput), hquery, hquestion, hpolicy⟩
      · obtain ⟨query, question, hlet⟩ := ih.detection id q hq
        exact ⟨query, question, hlet.cons m⟩
    · rcases m.effect.asks_after hasks with hbefore | ⟨c, query, question, subnet, hc, hstage, rfl⟩
      · obtain ⟨query, question, subnet, hlet, hkey⟩ := ih.asking id key hbefore
        exact ⟨query, question, subnet, hlet.cons m, hkey⟩
      · -- who has just come was let in on arrival
        obtain ⟨input, hin⟩ := run.exists_input hc
        obtain ⟨-, hstory⟩ := run.story hin hc
        rw [hstage] at hstory
        cases hstory with
        | locating hinput admitted =>
          exact ⟨query, question, subnet,
            ⟨input, HandedIn.cons.mpr (.inr hin), hinput, admitted⟩, rfl⟩
    · rcases m.effect.cache_after with hsame | ⟨_, heffect, -⟩
      · exact hsame ▸ ih.wanted
      · exact heffect.wanted ih.wanted

/-- A client hands in one thing. -/
theorem Run.input_unique {config : Config} {fetchTimeout : Nat} {moves : List Move} {s : State}
    (h : Run config fetchTimeout moves s) {id : CallerId} {input other : Input}
    (hin : HandedIn moves id input) (hother : HandedIn moves id other) : input = other := by
  induction h with
  | start =>
    obtain ⟨m, hm, -⟩ := hin
    cases hm
  | @move moves m run ih =>
    -- nobody comes who is there already
    have hfresh {input' input'' : Input} (hinput : m.event.input? = some (id, input'))
        (hin : HandedIn moves id input'') : False := by
      obtain ⟨c, hc, -⟩ := (Sound.of_run run).clients id input'' hin
      rw [(m.effect.client_of_input hinput).1] at hc
      cases hc
    rcases HandedIn.cons.mp hin with hinput | hin
    · rcases HandedIn.cons.mp hother with hinput' | hother
      · rw [hinput] at hinput'
        exact congrArg Prod.snd (Option.some.inj hinput')
      · exact (hfresh hinput hother).elim
    · rcases HandedIn.cons.mp hother with hinput' | hother
      · exact (hfresh hinput' hin).elim
      · exact ih hin hother

/-! ### Empty answers -/

/-- A reply to a query has no records, and says that there is no error. -/
structure SaysNothing (query reply : Dns.Message) : Prop where
  /-- It belongs to the query. -/
  belongs : Belongs query reply
  /-- There is no error. -/
  noError : reply.rcode = .noError
  /-- There are no answers, -/
  answers : reply.answers = []
  /-- no servers of the zone, -/
  authority : reply.authority = []
  /-- nothing besides, -/
  additional : reply.additional = []
  /-- and no extension record. -/
  edns : reply.edns = none

theorem saysNothing_emptyAnswerFor (query : Dns.Message) :
    SaysNothing query query.emptyAnswerFor :=
  ⟨.replyTo query .noError, rfl, rfl, rfl, rfl, rfl⟩

/-- The stages of a client whose query gets an empty answer. -/
inductive Silenced (moves : List Move) (id : CallerId) (input : Input) (query : Dns.Message) :
    Stage → Prop
  /-- The empty answer is there. -/
  | decided {answer : Dns.Message} (h : SaysNothing query answer) :
      Silenced moves id input query (.decided query answer .synthesized)
  /-- The client has octets as reply, in which it can be read, and was counted. -/
  | replied {bytes : List UInt8} {reply : Dns.Message} (hcarrier : input.carrier?.isSome = true)
      (hread : Dns.Message.decode bytes = .ok reply) (h : SaysNothing query reply)
      (hrecorded : Recorded moves id .synthesized) :
      Silenced moves id input query (.replied (some bytes) .synthesized)
  /-- The client has it as reply. -/
  | told {answer : Dns.Message} (hcarrier : input.carrier? = none) (h : SaysNothing query answer) :
      Silenced moves id input query (.told answer .synthesized)
  /-- The client went away. -/
  | gone : Silenced moves id input query .gone

/-- An empty answer to one question is told as it is. -/
theorem exists_replyBytes_emptyAnswerFor (carrier : Carrier) {query : Dns.Message}
    {question : Dns.Question} (hquestion : query.question = .ok question)
    (hfits : ∀ q ∈ query.questions, q.name.Fits) : ∃ bytes,
      State.replyBytes carrier query query.emptyAnswerFor = some bytes ∧
        Dns.Message.decode bytes = .ok query.emptyAnswerFor := by
  have hbare := Dns.Message.isBare_replyTo query .noError
  have hone : query.questions.length ≤ 1 := by
    rw [Dns.Message.questions_of_question hquestion]
    exact Nat.le_refl 1
  obtain ⟨bytes, hbytes⟩ := hbare.exists_encode hfits (Nat.le_trans hone (by decide))
  have hcode : Dns.ResponseCode.join 0 (query.replyTo .noError).rcode.low = .noError :=
    (by decide : Dns.ResponseCode.join 0 Dns.ResponseCode.noError.low = .noError)
  have hread := hbare.decode_encode hfits hbytes
  rw [hcode] at hread
  refine ⟨bytes, ?_, hread⟩
  have hle : bytes.length ≤ carrier.limit query := by
    refine Nat.le_trans (hbare.length_encode_le_min hone hfits hbytes) ?_
    cases carrier with
    | datagram => exact query.minDatagram_le_datagramLimit
    | connection => exact (by decide : 512 ≤ 65535)
  rw [State.replyBytes, Dns.Message.emptyAnswerFor, Dns.Message.encodeWithin_of_le hbytes hle]

section

variable {config : Config} {fetchTimeout : Nat} {moves : List Move} {s : State} {id : CallerId}
  {input : Input} {query : Dns.Message} {question : Dns.Question}

/-- Every request asks the question of a client who was let in. -/
theorem Run.asks_of_call (h : Run config fetchTimeout moves s) {call : Call}
    (hcall : call ∈ s.calls) : ∃ query question, LetIn config moves call.fetch query question ∧
      call.request.Asks config question := by
  obtain ⟨m, hm, f, errand, hsending⟩ := h.exists_sending hcall
  obtain ⟨earlier, hsuffix, hrun⟩ := h.exists_before hm
  obtain ⟨question, admitted⟩ := (Sound.of_run hrun).errands _ _ hsending.errand
  obtain ⟨input, _, _, ⟨m', hm', hin⟩, hinput, -⟩ := (Keyed.of_run hrun).errands _ _ hsending.errand
  obtain ⟨question', hquestion, hrequest⟩ := hsending.request
  obtain rfl := Except.ok.inj (admitted.single.symm.trans hquestion)
  rw [hrun.config_eq] at hrequest
  exact ⟨errand.query, question, ⟨input, ⟨m', hsuffix.subset hm', hin⟩, hinput, admitted⟩,
    Inquiry.asks_of_request hquestion hrequest⟩

variable (h : Run config fetchTimeout moves s) (hin : HandedIn moves id input)
  (hquery : input.decode = .ok query) (hquestion : query.question = .ok question)
  (hpolicy : (config.noAaaa && question.isAaaa) = true)

include h hin hquery hquestion hpolicy

/-- Policy does not let in whom it answers. -/
theorem Run.not_letIn {other : Dns.Message} {asked : Dns.Question} :
    ¬ LetIn config moves id other asked := by
  rintro ⟨input', hin', hquery', admitted⟩
  obtain rfl := h.input_unique hin hin'
  obtain rfl := Except.ok.inj (hquery.symm.trans hquery')
  obtain rfl := Except.ok.inj (hquestion.symm.trans admitted.single)
  rw [admitted.policy] at hpolicy
  cases hpolicy

/-- The answer to a client whom policy does not let in is the empty one. -/
theorem Run.stage_of_policy : ∃ c, s.clients.find? id = some c ∧ c.carrier = input.carrier? ∧
    (c.stage = .decided query query.emptyAnswerFor .synthesized ∨
      (∃ carrier, c.carrier = some carrier ∧
        c.stage = .replied (State.replyBytes carrier query query.emptyAnswerFor) .synthesized) ∨
      c.carrier = none ∧ c.stage = .told query.emptyAnswerFor .synthesized ∨ c.stage = .gone) := by
  obtain ⟨c, hc, hcarrier, hstory⟩ := (Sound.of_run h).clients id input hin
  have hcourse := h.course hin hquery hc
  have hfound : Found config moves id query query.emptyAnswerFor .synthesized :=
    .policy hquestion hpolicy
  -- nothing else was found
  have honly {answer : Dns.Message} {r : Resolution}
      (hcomes : Comes (Found config moves id query) query answer r) :
      answer = query.emptyAnswerFor ∧ r = .synthesized := by
    cases hcomes with
    | nothing hnone => exact absurd hfound (hnone _ _)
    | answer _ hone =>
      obtain ⟨rfl, rfl⟩ := hone _ _ hfound
      exact ⟨rfl, rfl⟩
  refine ⟨c, hc, hcarrier, ?_⟩
  generalize c.stage = stage at hcourse hstory
  cases hcourse with
  | locating hnone | asking hnone => exact absurd hfound (hnone _ _)
  | decided hcomes =>
    obtain ⟨rfl, rfl⟩ := honly hcomes
    exact .inl rfl
  | @replied carrier _ _ hcarrier' hcomes =>
    obtain ⟨rfl, rfl⟩ := honly hcomes
    exact .inr (.inl ⟨carrier, hcarrier', rfl⟩)
  | told hcomes =>
    obtain ⟨rfl, rfl⟩ := honly hcomes
    cases hstory with
    | told _ hnone => exact .inr (.inr (.inl ⟨hcarrier.trans hnone, rfl⟩))
  | gone => exact .inr (.inr (.inr rfl))

/-- **Whoever policy does not let in gets an empty answer**, and need not wait for it. -/
theorem Run.silenced : ∃ c, s.clients.find? id = some c ∧ Silenced moves id input query c.stage ∧
    (c.stage.isOver = false → ∃ s' c', s.step (.reply id) = some s' ∧
      s'.clients.find? id = some c' ∧ c'.stage.isOver = true ∧ c'.stage ≠ .gone) := by
  obtain ⟨c, hc, hcarrier, hstage | ⟨carrier, hcarrier', hstage⟩ | ⟨hcarrier', hstage⟩ | hstage⟩ :=
    h.stage_of_policy hin hquery hquestion hpolicy
  · refine ⟨c, hc, hstage ▸ .decided (saysNothing_emptyAnswerFor query), fun _ => ?_⟩
    cases hcarrier' : c.carrier with
    | some carrier =>
      let reply := State.replyBytes carrier query query.emptyAnswerFor
      let c' : Client := { c with stage := .replied reply .synthesized }
      refine ⟨(s.setClient id c c'.stage).count .synthesized c.arrivedAt, c', ?_,
        Table.find?_insert_self .., rfl, Stage.noConfusion⟩
      simp only [State.step, State.reply, hc, hstage, hcarrier', c', reply]
    | none =>
      let c' : Client := { c with stage := .told query.emptyAnswerFor .synthesized }
      refine ⟨s.setClient id c c'.stage, c', ?_, Table.find?_insert_self .., rfl,
        Stage.noConfusion⟩
      simp only [State.step, State.reply, hc, hstage, hcarrier', c']
  · have hinput : input.carrier? = some carrier := hcarrier.symm.trans hcarrier'
    have hfits : ∀ q ∈ query.questions, q.name.Fits := by
      cases input with
      | octets => exact (Dns.Message.legible_of_decode hquery).questions
      | query => cases hinput
    obtain ⟨bytes, hbytes, hread⟩ := exists_replyBytes_emptyAnswerFor carrier hquestion hfits
    have hrecorded : Recorded moves id .synthesized := h.recorded hin hquery hc hstage
    rw [hbytes] at hstage
    refine ⟨c, hc, ?_, fun hover => ?_⟩
    · rw [hstage]
      exact .replied (by rw [hinput]; rfl) hread (saysNothing_emptyAnswerFor query) hrecorded
    · rw [hstage] at hover
      cases hover
  · refine ⟨c, hc, ?_, fun hover => ?_⟩
    · rw [hstage]
      exact .told (hcarrier.symm.trans hcarrier') (saysNothing_emptyAnswerFor query)
    · rw [hstage] at hover
      cases hover
  · refine ⟨c, hc, hstage ▸ .gone, fun hover => ?_⟩
    rw [hstage] at hover
    cases hover

end

/-! ### Addresses of 128 bits -/

/-- **A relay that is told so never asks for addresses of 128 bits, keeps nothing about them, looks
up nothing for who asks for them, and tells that there are none.**

Every request that was sent asks the question of a client, which is about something else.  No answer
is stored, no fetch is marked and nobody asks the cache under a key of that type.  And whoever hands
in a query with one such question, in any spelling and whatever else goes on, has no request sent
for it and does not come to the detection of the network; unless it goes away it has a reply without
records, or can have one at once, which belongs to its query, says that there is no error and is
counted as made up by policy. -/
theorem addresses_are_suppressed {config : Config} (hno : config.noAaaa = true)
    {fetchTimeout : Nat} {moves : List Move} {s : State} (h : Run config fetchTimeout moves s) :
    (∀ call ∈ s.calls, ∃ query question, LetIn config moves call.fetch query question ∧
      question.type ≠ .aaaa ∧ call.request.Asks config question) ∧
    (∀ key : Fingerprint, key.type = Dns.RecordType.aaaa.code →
      s.cache.entries.find? key = none ∧ s.cache.markers.find? key = none ∧
        ∀ id, ¬ s.cache.Asks id key) ∧
    (∀ id input query question, HandedIn moves id input → input.decode = .ok query →
      query.question = .ok question → question.type = .aaaa →
        (∀ call ∈ s.calls, call.fetch ≠ id) ∧ s.detection.callers.find? id = none ∧
        ∃ c, s.clients.find? id = some c ∧ Silenced moves id input query c.stage ∧
          (c.stage.isOver = false → ∃ s' c', s.step (.reply id) = some s' ∧
            s'.clients.find? id = some c' ∧ c'.stage.isOver = true ∧ c'.stage ≠ .gone)) ∧
    ∀ endpoint query question subnet, query.question = .ok question → question.type = .aaaa →
      Inquiry.run config endpoint query subnet = (.ok query.emptyAnswerFor, none) := by
  have hwelcome := Welcome.of_run h
  have hlet {id : CallerId} {query : Dns.Message} {question : Dns.Question}
      (hlet : LetIn config moves id query question) : question.type ≠ .aaaa := by
    obtain ⟨_, -, -, admitted⟩ := hlet
    intro htype
    have hpolicy := admitted.policy
    rw [hno, Dns.Question.isAaaa_iff.mpr htype] at hpolicy
    cases hpolicy
  refine ⟨fun call hcall => ?_, fun key hkey => ?_,
    fun id input query question hin hquery hquestion htype => ?_,
    fun endpoint query question subnet hquestion htype =>
      Inquiry.run_isAaaa hno endpoint hquestion htype subnet⟩
  · obtain ⟨query, question, hclient, hasks⟩ := h.asks_of_call hcall
    exact ⟨query, question, hclient, hlet hclient, hasks⟩
  · have hnone (id : CallerId) : ¬ s.cache.Asks id key := by
      intro hasks
      obtain ⟨query, question, subnet, hclient, rfl⟩ := hwelcome.asking id key hasks
      exact hlet hclient (congrArg Dns.RecordType.mk hkey)
    obtain ⟨hentry, hmarker⟩ := hwelcome.wanted.absent hnone
    exact ⟨hentry, hmarker, hnone⟩
  · have hpolicy : (config.noAaaa && question.isAaaa) = true := by
      rw [hno, Dns.Question.isAaaa_iff.mpr htype]
      rfl
    refine ⟨fun call hcall hid => ?_, ?_, h.silenced hin hquery hquestion hpolicy⟩
    · obtain ⟨query', question', hclient, -⟩ := h.asks_of_call hcall
      exact h.not_letIn hin hquery hquestion hpolicy (hid ▸ hclient)
    · refine Option.eq_none_iff_forall_ne_some.mpr fun p hp => ?_
      obtain ⟨query', question', hclient⟩ := hwelcome.detection id p hp
      exact h.not_letIn hin hquery hquestion hpolicy hclient

/-! ### Two questions about the root -/

/-- A relay that gives empty answers to questions for addresses of 128 bits, and detects the network
to advertise. -/
def withholding : Config :=
  { posting with noAaaa := true, subnet := .detect Subnet.defaultLookupUrl none }

/-- A query for such an address of the root. -/
def addressQuery : List UInt8 := [0, 2, 1, 0, 0, 1, 0, 0, 0, 0, 0, 0, 0, 0, 28, 0, 1]

/-- What it says. -/
def addressMessage : Dns.Message :=
  { Dns.Message.empty with
    id := 2, recursionDesired := true, questions := [⟨.root, .aaaa, Dns.classIn⟩] }

/-- What the client is told. -/
def addressReply : List UInt8 := [0, 2, 0x81, 0x80, 0, 1, 0, 0, 0, 0, 0, 0, 0, 0, 28, 0, 1]

/-- While one client has a network looked up and comes to the cache, another asks for the address.
-/
def withholdingEvents : List Event :=
  [.arrive 0 .datagram rootQuery, .detection (.look 0), .detection (.begin 0),
    .detection (.check 0), .arrive 1 .datagram addressQuery, .reply 1,
    .detection (.lookedUp 0 none), .ask 0, .cache (.look 0), .cache (.enter 0), .send 0]

theorem decode_addressQuery : Dns.Message.decode addressQuery = .ok addressMessage :=
  have hfits : ∀ q ∈ addressMessage.questions, q.name.Fits := by
    intro q hq
    cases List.mem_singleton.mp hq
    exact (by decide : Dns.Name.length .root < Dns.Name.maxLength)
  Dns.Message.IsBare.decode_encode ⟨rfl, rfl, rfl, rfl⟩ hfits rfl

theorem play_withholdingEvents : ∃ s,
    (State.start withholding 5000).play withholdingEvents = some s ∧ s.calls.length = 1 ∧
      s.detection.callers.find? 0 = some (.told none) ∧
      s.clients.find? 1 = some ⟨some .datagram, 0, .replied (some addressReply) .synthesized⟩ := by
  simp only [withholdingEvents, State.play, State.step, State.arrive, decode_rootQuery,
    decode_addressQuery]
  exact ⟨_, rfl, rfl, rfl, rfl⟩

/-- The one is asked for at the endpoint, and the other is told that there is nothing. -/
theorem addresses_are_suppressed_root : withholding.noAaaa = true ∧ ∃ moves s reply,
    Run withholding 5000 moves s ∧ HandedIn moves 1 (.octets .datagram addressQuery) ∧
      (∃ call ∈ s.calls, ∃ query question, LetIn withholding moves call.fetch query question ∧
        question.type ≠ .aaaa ∧ call.request.Asks withholding question ∧ call.fetch ≠ 1) ∧
      (s.detection.callers.find? 0).isSome = true ∧ s.detection.callers.find? 1 = none ∧
      s.clients.find? 1 = some ⟨some .datagram, 0, .replied (some addressReply) .synthesized⟩ ∧
      Dns.Message.decode addressReply = .ok reply ∧ SaysNothing addressMessage reply ∧
      Recorded moves 1 .synthesized := by
  obtain ⟨s, hs, hlength, htold, hc⟩ := play_withholdingEvents
  obtain ⟨moves, hrun, hmap⟩ := Run.of_play hs
  have hin : HandedIn moves 1 (.octets .datagram addressQuery) :=
    .of_play hmap (e := .arrive 1 .datagram addressQuery) (by simp [withholdingEvents]) rfl
  obtain ⟨hcalls, -, hclients, -⟩ :=
    addresses_are_suppressed (rfl : withholding.noAaaa = true) hrun
  obtain ⟨hother, hdetection, c, hc', hsilenced, -⟩ :=
    hclients 1 _ addressMessage ⟨.root, .aaaa, Dns.classIn⟩ hin decode_addressQuery rfl rfl
  obtain ⟨call, hcall⟩ := List.exists_mem_of_length_pos (hlength ▸ Nat.zero_lt_one)
  obtain ⟨query, question, hlet, htype, hasks⟩ := hcalls call hcall
  obtain rfl := Option.some.inj (hc.symm.trans hc')
  cases hsilenced with
  | @replied _ reply _ hread h hrecorded =>
    exact ⟨rfl, moves, s, reply, hrun, hin,
      ⟨call, hcall, query, question, hlet, htype, hasks, hother call hcall⟩, by rw [htold]; rfl,
      hdetection, hc, hread, h, hrecorded⟩

end Service

end DohRelay
