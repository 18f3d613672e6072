import DohRelay.Proofs.Exchange.Outgoing
import DohRelay.Proofs.Service.ResponseCode

/-!
# Fetches and their requests

A client comes to the cache with the fingerprint of its query, and leaves an errand with the query
and the network to advertise, both in one step.  Whatever is detected later, the fetch that this
client starts has that fingerprint, and the errand makes its request of that query and that network.
So what is asked for a fetch is what its key tells.

## Main definitions

* `Sending` — a request is sent for a fetch, on an errand.
* `Keyed` — fetches and errands belong to callers with their keys; this is what every event keeps.

## Main results

* `Keyed.of_run` — every run keeps fetches and errands with their callers.
* `Run.exists_sending` — every request was sent for a fetch.
* `keys_describe_requests` — **a request carries a message that asks for what the key of its fetch
  tells.**
-/

namespace DohRelay

/-- What is to be done about a query that needs a request. -/
theorem Inquiry.plan_eq_exchange {config : Config} {query : Dns.Message}
    {subnet : Option Net.Network} {question : Dns.Question} {r : Http.Request}
    (h : plan config query subnet = .ok (.exchange question r)) :
    query.question = .ok question ∧ request config query question subnet = .ok r := by
  unfold plan at h
  split at h
  case h_1 => cases h
  case h_2 q hquestion =>
    split at h
    case isTrue => cases h
    case isFalse =>
      cases hrequest : request config query q subnet with
      | error fault =>
        rw [hrequest] at h
        cases h
      | ok r' =>
        rw [hrequest] at h
        cases h
        exact ⟨hquestion, hrequest⟩

namespace Service

open Cache (CallerId)

/-- By a move a request is sent for a fetch, on an errand. -/
structure Sending (m : Move) (f : Cache.Fetch) (errand : Errand) (call : Call) : Prop where
  /-- The errand is begun. -/
  event : m.event = .send call.fetch
  /-- The fetch is under way. -/
  fetch : m.before.cache.fetches.find? call.fetch = some f
  /-- The errand is the one for the fetch. -/
  errand : m.before.errands.find? call.fetch = some errand
  /-- The request is sent. -/
  calls : m.after.calls = m.before.calls ++ [call]

/-- Fetches and errands belong to callers with their keys. -/
structure Keyed (moves : List Move) (s : State) : Prop where
  /-- A fetch has the key of the caller of its name. -/
  fetches : ∀ id f, s.cache.fetches.find? id = some f →
    ∃ d, s.cache.callers.find? id = some d ∧ d.key = f.key
  /-- An errand is run for the query of the client of its name, and the caller of this name has its
  fingerprint. -/
  errands : ∀ id errand, s.errands.find? id = some errand → ∃ input question d,
    HandedIn moves id input ∧ input.decode = .ok errand.query ∧
      errand.query.question = .ok question ∧ s.cache.callers.find? id = some d ∧
      d.key = .ofQuery errand.query question errand.subnet

/-- Callers of the cache keep their keys whatever happens to the service. -/
theorem Effect.key_of_caller {s s' : State} {e : Event} (h : Effect s e s') {id : CallerId}
    {d : Cache.Caller} (hd : s.cache.callers.find? id = some d) :
    ∃ d', s'.cache.callers.find? id = some d' ∧ d'.key = d.key := by
  rcases h.cache_after with hsame | ⟨_, heffect, -⟩
  · exact ⟨d, hsame ▸ hd, rfl⟩
  · obtain ⟨p, hd', -⟩ := heffect.caller_before hd
    exact ⟨_, hd', rfl⟩

/-- **Every run keeps fetches and errands with their callers.** -/
theorem Keyed.of_run {config : Config} {fetchTimeout : Nat} {moves : List Move} {s : State}
    (h : Run config fetchTimeout moves s) : Keyed moves s := by
  induction h with
  | start => constructor <;> simp [State.start, Cache.State.start]
  | @move moves m run ih =>
    constructor
    case fetches =>
      intro id f hf
      obtain ⟨d, hd, hkey⟩ : ∃ d, m.before.cache.callers.find? id = some d ∧ d.key = f.key := by
        rcases m.effect.cache_after with hsame | ⟨_, heffect, -⟩
        · exact ih.fetches id f (hsame ▸ hf)
        · rcases heffect.key_of_fetch hf with ⟨g, hg, hkey⟩ | ⟨d, hd, hkey⟩
          · obtain ⟨d, hd, hkey'⟩ := ih.fetches id g hg
            exact ⟨d, hd, hkey'.trans hkey⟩
          · exact ⟨d, hd, hkey⟩
      obtain ⟨d', hd', hkey'⟩ := m.effect.key_of_caller hd
      exact ⟨d', hd', hkey'.trans hkey⟩
    case errands =>
      intro id errand herrand
      rcases m.effect.errand_after herrand with
        ⟨before, hbefore, heq⟩ | ⟨c, question, hc, hstage, -, hcaller⟩
      · obtain ⟨input, question, d, hin, hinput, hquestion, hd, hkey⟩ :=
          ih.errands id before hbefore
        obtain ⟨d', hd', hkey'⟩ := m.effect.key_of_caller hd
        rw [heq]
        exact ⟨input, question, d', HandedIn.cons.mpr (.inr hin), hinput, hquestion, hd',
          hkey'.trans hkey⟩
      · -- a new errand is left by a client with one question
        obtain ⟨input, hin⟩ := run.exists_input hc
        obtain ⟨-, hstory⟩ := run.story hin hc
        rw [hstage] at hstory
        cases hstory with
        | locating hinput admitted =>
          exact ⟨input, question, _, HandedIn.cons.mpr (.inr hin), hinput, admitted.single, hcaller,
            rfl⟩

/-- The fetch of an errand has the fingerprint of its query, with its network. -/
theorem Keyed.key_of_errand {moves : List Move} {s : State} (h : Keyed moves s) {id : CallerId}
    {f : Cache.Fetch} (hf : s.cache.fetches.find? id = some f) {errand : Errand}
    (herrand : s.errands.find? id = some errand) :
    ∃ input question, HandedIn moves id input ∧ input.decode = .ok errand.query ∧
      errand.query.question = .ok question ∧
      f.key = .ofQuery errand.query question errand.subnet := by
  obtain ⟨d, hd, hkey⟩ := h.fetches id f hf
  obtain ⟨input, question, d', hin, hinput, hquestion, hd', hkey'⟩ := h.errands id errand herrand
  -- fetch and errand belong to one caller
  obtain rfl : d = d' := Option.some.inj (hd.symm.trans hd')
  exact ⟨input, question, hin, hinput, hquestion, hkey.symm.trans hkey'⟩

section

variable {config : Config} {fetchTimeout : Nat} {moves : List Move} {s : State}

/-- Every request was sent for a fetch, on an errand. -/
theorem Run.exists_sending (h : Run config fetchTimeout moves s) {call : Call}
    (hcall : call ∈ s.calls) : ∃ m ∈ moves, ∃ f errand, Sending m f errand call := by
  induction h with
  | start => cases hcall
  | move m run ih =>
    rcases m.effect.calls_after with
      hsame | ⟨id, errand, question, request, hevent, herrand, hrunning, -, hcalls⟩
    · obtain ⟨m', hm', hsending⟩ := ih (hsame ▸ hcall)
      exact ⟨m', List.mem_cons_of_mem _ hm', hsending⟩
    · rw [hcalls, List.mem_append, List.mem_singleton] at hcall
      rcases hcall with hcall | rfl
      · obtain ⟨m', hm', hsending⟩ := ih hcall
        exact ⟨m', List.mem_cons_of_mem _ hm', hsending⟩
      · -- a request is only sent while the fetch goes on
        unfold Cache.State.isRunning at hrunning
        cases hf : m.before.cache.fetches.find? id with
        | none => simp [hf] at hrunning
        | some f => exact ⟨m, List.mem_cons_self, f, errand, hevent, hf, herrand, hcalls⟩

end

/-- A request that is sent is made of the query and the network of the errand. -/
theorem Sending.request {m : Move} {f : Cache.Fetch} {errand : Errand} {call : Call}
    (h : Sending m f errand call) : ∃ question, errand.query.question = .ok question ∧
      Inquiry.request m.before.config errand.query question errand.subnet = .ok call.request := by
  rcases m.effect.calls_after with
    hsame | ⟨id, errand', question, request, hevent, herrand, -, hplan, hcalls⟩
  · have hlength := congrArg List.length (hsame.symm.trans h.calls)
    simp at hlength
  · obtain rfl : call = ⟨id, m.before.now, request⟩ := by
      simpa using h.calls.symm.trans hcalls
    obtain rfl : errand = errand' := Option.some.inj (h.errand.symm.trans herrand)
    exact ⟨question, Inquiry.plan_eq_exchange hplan⟩

/-- **A request carries a message that asks for what the key of its fetch tells.**  Every request
was sent for a fetch, whose key is the fingerprint of the query that the client of its name handed
in, with the network to advertise.  The request carries a message with that question and no other,
with those flags, and with that network as its client subnet or with none; and so does what is read
of the octets, if the extension record is read as it was written.  So queries with different
fingerprints never travel as the same message, nor in the same octets if these are read as each was
written. -/
theorem keys_describe_requests {config : Config} {fetchTimeout : Nat} {moves : List Move}
    {s : State} (h : Run config fetchTimeout moves s) (hwire : config.convention = .wire) :
    (∀ call ∈ s.calls, ∃ m ∈ moves, ∃ f errand, Sending m f errand call) ∧
    (∀ m ∈ moves, ∀ f errand call, Sending m f errand call →
      (∃ input question, HandedIn moves call.fetch input ∧ input.decode = .ok errand.query ∧
        errand.query.question = .ok question ∧
        f.key = .ofQuery errand.query question errand.subnet) ∧
      f.key.Describes (Wire.outgoing errand.query errand.subnet) ∧
      ∃ bytes, (Wire.outgoing errand.query errand.subnet).encode = .ok bytes ∧
        Wire.Carries call.request bytes ∧
        (config.endpoint.pairs.lookup Wire.parameter = none →
          Wire.carriedBytes call.request = .ok bytes) ∧
        ∀ received, Dns.Message.decode bytes = .ok received →
          received.edns = (Wire.outgoing errand.query errand.subnet).edns →
          f.key.Describes received) ∧
    ∀ query question subnet other asked net, Dns.Message.question query = .ok question →
      Dns.Message.question other = .ok asked →
      Fingerprint.ofQuery query question subnet ≠ .ofQuery other asked net →
      Wire.outgoing query subnet ≠ Wire.outgoing other net ∧
      ∀ bytes received, (Wire.outgoing query subnet).encode = .ok bytes →
        (Wire.outgoing other net).encode = .ok bytes → Dns.Message.decode bytes = .ok received →
        received.edns = (Wire.outgoing query subnet).edns →
        received.edns ≠ (Wire.outgoing other net).edns := by
  refine ⟨fun call hcall => h.exists_sending hcall, fun m hm f errand call hsending => ?_,
    fun query question subnet other asked net hquestion hasked hne => ?_⟩
  · obtain ⟨earlier, hsuffix, hrun⟩ := h.exists_before hm
    have hkeyed := Keyed.of_run hrun
    obtain ⟨d, hd, hfetch⟩ := hkeyed.fetches _ _ hsending.fetch
    obtain ⟨input, question, d', ⟨m', hm', hin⟩, hinput, hquestion, hd', herrand⟩ :=
      hkeyed.errands _ _ hsending.errand
    -- fetch and errand belong to one caller
    obtain rfl : d = d' := Option.some.inj (hd.symm.trans hd')
    have hkey := hfetch.symm.trans herrand
    have hdescribes := Fingerprint.describes_outgoing hquestion errand.subnet
    rw [← hkey] at hdescribes
    obtain ⟨_, -, hrequest⟩ := hsending.request
    rw [hrun.config_eq] at hrequest
    obtain ⟨bytes, hbytes, hcarries, hcarried⟩ := Inquiry.carries_of_request hwire hrequest
    exact ⟨⟨input, question, ⟨m', hsuffix.subset hm', hin⟩, hinput, hquestion, hkey⟩, hdescribes,
      bytes, hbytes, hcarries, hcarried,
      fun received hread hedns => hdescribes.of_decode hbytes hread hedns⟩
  · have hdescribes := Fingerprint.describes_outgoing hquestion subnet
    have hdescribes' := Fingerprint.describes_outgoing hasked net
    refine ⟨fun hsame => hne (hdescribes.unique (hsame ▸ hdescribes')),
      fun bytes received hbytes hbytes' hread hedns hedns' => hne ?_⟩
    exact (hdescribes.of_decode hbytes hread hedns).unique
      (hdescribes'.of_decode hbytes' hread hedns')

/-! ### A query that tells a network -/

/-- The network 192.0.2.0/24. -/
def documented : Net.Network :=
  ⟨.v4 ⟨0xc0000200⟩, 24, by decide⟩

/-- A relay that posts messages and advertises this network. -/
def advertising : Config :=
  { posting with subnet := .fixed documented }

/-- The query about the root. -/
def rootMessage : Dns.Message :=
  { Dns.Message.empty with id := 1, recursionDesired := true, questions := [Dns.rootQuestion] }

/-- The query as it travels with the network. -/
def rootOutgoing : Dns.Message :=
  Wire.outgoing rootMessage (some documented)

/-- Its octets: those of the question are followed by an extension record with a client subnet. -/
def rootOutgoingBytes : List UInt8 :=
  [0, 0, 1, 0, 0, 1, 0, 0, 0, 0, 0, 1, 0, 0, 1, 0, 1,
    0, 0, 41, 4, 208, 0, 0, 0, 0, 0, 11, 0, 8, 0, 7, 0, 1, 24, 0, 192, 0, 2]

theorem encode_rootOutgoing : rootOutgoing.encode = .ok rootOutgoingBytes := by
  decide +kernel

theorem decode_rootOutgoingBytes : Dns.Message.decode rootOutgoingBytes = .ok rootOutgoing := by
  have hquestion : Dns.readQuestion rootOutgoingBytes.toArray 12 = .ok Dns.rootQuestion 17 :=
    Dns.gives_rootQuestion _ 12 ⟨_, rfl⟩
  have hquestions : Dns.Reader.times Dns.readQuestion 1 rootOutgoingBytes.toArray 12 =
      .ok [Dns.rootQuestion] 17 :=
    (Dns.Reader.bind_of_ok hquestion).trans rfl
  have hrecord : Dns.readRecord rootOutgoingBytes.toArray 17 =
      .ok ((Wire.withSubnet Wire.newEdns (some (Wire.clientSubnet documented))).record .noError)
        39 :=
    (Dns.Reader.bind_of_ok (Dns.gives_root _ 17 ⟨_, rfl⟩)).trans rfl
  have hadditional : Dns.readAdditional 1 none rootOutgoingBytes.toArray 17 =
      .ok ([], rootOutgoing.edns) 39 :=
    (Dns.Reader.bind_of_ok hrecord).trans rfl
  have hread : Dns.Message.read rootOutgoingBytes.toArray 0 = .ok rootOutgoing 39 := by
    refine (Dns.Reader.bind_of_ok (rfl : Dns.readHeader rootOutgoingBytes.toArray 0 =
      .ok { Dns.Message.empty with recursionDesired := true } 4)).trans ?_
    refine (Dns.Reader.bind_of_ok (rfl : Dns.Reader.word16 _ 4 = .ok 1 6)).trans ?_
    refine (Dns.Reader.bind_of_ok (rfl : Dns.Reader.word16 _ 6 = .ok 0 8)).trans ?_
    refine (Dns.Reader.bind_of_ok (rfl : Dns.Reader.word16 _ 8 = .ok 0 10)).trans ?_
    refine (Dns.Reader.bind_of_ok (rfl : Dns.Reader.word16 _ 10 = .ok 1 12)).trans ?_
    refine (Dns.Reader.bind_of_ok hquestions).trans ?_
    exact (Dns.Reader.bind_of_ok hadditional).trans rfl
  rw [Dns.Message.decode, Dns.Reader.run, hread]

/-- A client with the query comes to the cache, and a fetch is started for it. -/
def advertisingEvents : List Event :=
  [.arrive 0 .datagram rootQuery, .ask 0, .cache (.look 0), .cache (.enter 0)]

/-- The fetch goes on, under a key with the network. -/
def advertisingFetch : Cache.Fetch :=
  ⟨.ofQuery rootMessage Dns.rootQuestion (some documented), 0, .running⟩

/-- The query is to be sent. -/
theorem plan_rootMessage : ∃ r, Inquiry.plan advertising rootMessage (some documented) =
    .ok (.exchange Dns.rootQuestion r) := by
  have hquestion : rootMessage.question = .ok Dns.rootQuestion := rfl
  obtain ⟨r, hr⟩ : ∃ r, Inquiry.request advertising rootMessage Dns.rootQuestion (some documented) =
      .ok r := Inquiry.exists_request _ (fun _ => ⟨_, encode_rootOutgoing⟩) (.inl rfl)
  exact ⟨r, by rw [Inquiry.plan_of_question hquestion rfl, hr]; rfl⟩

theorem play_advertisingEvents : ∃ s s' call,
    (State.start advertising 5000).play advertisingEvents = some s ∧
      s.step (.send 0) = some s' ∧ s'.calls = s.calls ++ [call] ∧ call.fetch = 0 ∧
      s.cache.fetches.find? 0 = some advertisingFetch ∧
      s.errands.find? 0 = some ⟨rootMessage, some documented, .ready⟩ := by
  obtain ⟨r, hplan⟩ := plan_rootMessage
  obtain ⟨s, hplay, hconfig, hrunning, hfetch, herrand⟩ : ∃ s,
      (State.start advertising 5000).play advertisingEvents = some s ∧ s.config = advertising ∧
        s.cache.isRunning 0 = true ∧ s.cache.fetches.find? 0 = some advertisingFetch ∧
        s.errands.find? 0 = some ⟨rootMessage, some documented, .ready⟩ := by
    simp only [advertisingEvents, State.play, State.step, State.arrive, decode_rootQuery]
    exact ⟨_, rfl, rfl, rfl, rfl, rfl⟩
  have hstep : s.step (.send 0) = some { s with
      calls := s.calls ++ [⟨0, s.now, r⟩]
      errands := s.errands.insert 0 ⟨rootMessage, some documented, .sent Dns.rootQuestion⟩ } := by
    simp only [State.step, State.send, herrand, hrunning, hconfig, hplan, if_true]
  exact ⟨s, _, ⟨0, s.now, r⟩, hplay, hstep, rfl, rfl, hfetch, herrand⟩

/-- Then the errand is begun, and what is read of the octets that are sent asks for what the key
tells, the network included. -/
theorem keys_describe_requests_rootQuery : ∃ moves s m errand call,
    Run advertising 5000 moves s ∧ m ∈ moves ∧ Sending m advertisingFetch errand call ∧
      Wire.Carries call.request rootOutgoingBytes ∧
      Dns.Message.decode rootOutgoingBytes = .ok rootOutgoing ∧
      advertisingFetch.key.Describes rootOutgoing ∧
      advertisingFetch.key.subnet = some documented := by
  obtain ⟨s, s', call, hplay, hstep, hcalls, hname, hfetch, herrand⟩ := play_advertisingEvents
  obtain ⟨moves, hrun, -⟩ := Run.of_play hplay
  let m : Move := ⟨.send 0, s, s', hstep⟩
  have hsending : Sending m advertisingFetch ⟨rootMessage, some documented, .ready⟩ call :=
    ⟨by rw [hname], hname ▸ hfetch, hname ▸ herrand, hcalls⟩
  obtain ⟨-, -, bytes, hbytes, hcarries, -, hread⟩ :=
    (keys_describe_requests (.move m hrun) rfl).2.1 m List.mem_cons_self _ _ _ hsending
  obtain rfl : rootOutgoingBytes = bytes :=
    Except.ok.inj (encode_rootOutgoing.symm.trans hbytes)
  exact ⟨_, _, m, _, call, .move m hrun, List.mem_cons_self, hsending, hcarries,
    decode_rootOutgoingBytes, hread _ decode_rootOutgoingBytes rfl, rfl⟩

end Service

end DohRelay
