import DohRelay.Cache.Fingerprint
import DohRelay.Exchange.Inquiry
import DohRelay.Proofs.Dns.Questions
import DohRelay.Proofs.Http.Headers
import DohRelay.Proofs.Text.Base64
import DohRelay.Proofs.Url.Pairs

/-!
# The message that travels for a query

A fingerprint and the message that travels are made of a query each in its own way.  They agree all
the same: the message asks for just what the fingerprint tells, so it tells the fingerprint, and
queries that have others travel as other messages.  The network of the client is not among it, since
the message tells only the network that it is told to advertise.

## Main definitions

* `Fingerprint.Describes` — a message asks for what a fingerprint tells.
* `Wire.Carries` — a request carries some octets.
* `Inquiry.defaultHeaders` — the headers that a convention gives a request.

## Main results

* `Fingerprint.describes_outgoing` — **the message that travels for a query asks for what the
  fingerprint of the query tells.**
* `Fingerprint.Describes.unique` — a message tells the fingerprint.
* `Fingerprint.Describes.of_decode` — what is read of such a message asks for the same.
* `Inquiry.request_of_not_fit` — whoever makes a request dies of it if its headers have no room.
* `Inquiry.carries_of_request` — the request for a query carries the message that travels.
-/

namespace DohRelay

/-- A message asks for what a fingerprint tells. -/
structure Fingerprint.Describes (key : Fingerprint) (m : Dns.Message) : Prop where
  /-- It has just the question, in some letter case. -/
  question : ∃ q, m.questions = [q] ∧ q.name.fold.text = key.name ∧ q.type.code = key.type ∧
    q.qclass = key.qclass
  /-- It has the one flag, -/
  checkingDisabled : m.checkingDisabled = key.checkingDisabled
  /-- and the other. -/
  dnssecOk : m.dnssecOk = key.dnssecOk
  /-- It tells the network, if there is one, and otherwise none. -/
  subnet : (m.edns.bind (·.options.subnet)).map (fun s => (s.address, s.source.toNat)) =
    key.subnet.map fun net => (net.address, net.length)

/-- A query with a question has no other. -/
theorem Dns.Message.questions_of_question {query : Dns.Message} {question : Dns.Question}
    (h : query.question = .ok question) : query.questions = [question] := by
  unfold Dns.Message.question at h
  split at h
  case h_1 q hq => cases h; exact hq
  case h_2 => cases h
  case h_3 => cases h

namespace Fingerprint

/-- **The message that travels for a query asks for what the fingerprint of the query tells.** -/
theorem describes_outgoing {query : Dns.Message} {question : Dns.Question}
    (h : query.question = .ok question) (subnet : Option Net.Network) :
    (ofQuery query question subnet).Describes (Wire.outgoing query subnet) := by
  have hquestions := Dns.Message.questions_of_question h
  cases subnet with
  | none =>
    refine ⟨⟨question, hquestions, rfl, rfl, rfl⟩, rfl, ?_, ?_⟩
    · change (query.edns.map (Wire.withSubnet · none)).any (·.dnssecOk) =
        query.edns.any (·.dnssecOk)
      cases query.edns <;> rfl
    · change ((query.edns.map (Wire.withSubnet · none)).bind (·.options.subnet)).map _ = none
      cases query.edns <;> rfl
  | some net =>
    refine ⟨⟨question, hquestions, rfl, rfl, rfl⟩, rfl, ?_, ?_⟩
    · change ((query.edns.map (Wire.withSubnet · none)).getD Wire.newEdns).dnssecOk =
        query.edns.any (·.dnssecOk)
      cases query.edns <;> rfl
    · change some (net.address, (UInt8.ofNat net.length).toNat) = some (net.address, net.length)
      rw [net.toNat_length]

namespace Describes

variable {key other : Fingerprint} {m received : Dns.Message}

/-- A message tells the fingerprint. -/
theorem unique (h : key.Describes m) (h' : other.Describes m) : key = other := by
  obtain ⟨q, hq, hname, htype, hclass⟩ := h.question
  obtain ⟨q', hq', hname', htype', hclass'⟩ := h'.question
  obtain rfl : q = q' := by simpa [hq] using hq'
  have hnetwork : Function.Injective fun net : Net.Network => (net.address, net.length) := by
    intro a b hparts
    exact Net.Network.ext_iff.mpr ⟨congrArg Prod.snd hparts, congrArg Prod.fst hparts⟩
  have hsubnet : key.subnet = other.subnet :=
    Option.map_injective hnetwork (h.subnet.symm.trans h'.subnet)
  have hdnssecOk := h.dnssecOk.symm.trans h'.dnssecOk
  have hcheckingDisabled := h.checkingDisabled.symm.trans h'.checkingDisabled
  cases key
  cases other
  simp_all

/-- What is read of a message asks for the same, if its extension record is read as it was written.
-/
theorem of_decode (h : key.Describes m) {bytes : List UInt8} (hwritten : m.encode = .ok bytes)
    (hread : Dns.Message.decode bytes = .ok received) (hedns : received.edns = m.edns) :
    key.Describes received := by
  obtain ⟨q, hq, hrest⟩ := h.question
  have hfits := Dns.Message.fits_of_encode hq hwritten
  obtain ⟨_, hreceived⟩ := Dns.Message.start_of_decode hfits hwritten hread
  have hquestions : received.questions = m.questions := by rw [hreceived]
  have hchecking : received.checkingDisabled = m.checkingDisabled := by
    rw [hreceived]
    rfl
  refine ⟨⟨q, hquestions.trans hq, hrest⟩, hchecking.trans h.checkingDisabled, ?_, ?_⟩
  · rw [← h.dnssecOk, Dns.Message.dnssecOk, hedns]
    rfl
  · rw [← h.subnet, hedns]

end Describes

end Fingerprint

/-! ### Requests -/

namespace Wire

/-- A request carries some octets: they are its body, or stand in its location in base 64. -/
def Carries (r : Http.Request) (bytes : List UInt8) : Prop :=
  r.method = .post ∧ r.body = some bytes ∨
    r.method = .get ∧ r.body = none ∧ (parameter, Text.Base64.encode bytes) ∈ r.url.pairs

theorem carriedBytes_of_body {r : Http.Request} {octets : List UInt8} (h : r.body = some octets) :
    carriedBytes r = .ok octets := by
  rw [carriedBytes, h]

theorem carriedBytes_of_parameter {r : Http.Request} {octets : List UInt8} (hbody : r.body = none)
    (h : r.url.pairs.lookup parameter = some (Text.Base64.encode octets)) :
    carriedBytes r = .ok octets := by
  simp only [carriedBytes, hbody, h, Text.Base64.decode_encode]

/-- A message that can be written is carried by a request, either way. -/
theorem exists_request (endpoint : Url) (post : Bool) {query : Dns.Message}
    {subnet : Option Net.Network} {octets : List UInt8}
    (h : (outgoing query subnet).encode = .ok octets) :
    ∃ r, request endpoint post query subnet = .ok r := by
  simp only [request, h]
  split <;> exact ⟨_, rfl⟩

end Wire

namespace Inquiry

variable {config : Config} {query : Dns.Message} {question : Dns.Question}
  {subnet : Option Net.Network} {r : Http.Request}

/-- What is to be done about a query that policy does not answer is to make the request for it. -/
theorem plan_of_question (hquestion : query.question = .ok question)
    (hpolicy : (config.noAaaa && question.isAaaa) = false) :
    plan config query subnet = (request config query question subnet).map (.exchange question) := by
  simp only [plan, hquestion, hpolicy, Bool.false_eq_true, if_false]

/-- The headers that a convention gives a request. -/
def defaultHeaders (config : Config) : Http.Headers :=
  match config.convention with
  | .wire =>
    if config.post then [("accept", Wire.mediaType), ("content-type", Wire.mediaType)]
    else [("accept", Wire.mediaType)]
  | .json => [("accept", Resolve.mediaType)]

/-- Every request has these first. -/
theorem headers_of_conventionRequest (h : conventionRequest config query question subnet = .ok r) :
    r.headers = defaultHeaders config := by
  cases hconvention : config.convention with
  | wire =>
    simp only [conventionRequest, hconvention, Wire.request] at h
    simp only [defaultHeaders, hconvention]
    split at h
    case h_1 => cases h
    case h_2 =>
      split at h
      case isTrue hpost =>
        cases h
        rw [if_pos hpost]
      case isFalse hpost =>
        cases h
        rw [if_neg hpost]
  | json =>
    simp only [conventionRequest, hconvention, Except.ok.injEq] at h
    simp only [defaultHeaders, hconvention, ← h]
    rfl

/-- A request that is configured has the parameters behind its own, and the headers in the place of
its own. -/
theorem exists_of_configured {r' : Http.Request} (h : configured config r = .ok r') :
    ∃ headers, r.headers.replacing? config.headers = some headers ∧
      { r with
        url := r.url.appendPairs (config.params.map fun (key, value) => (key.toList, value.toList))
        headers } = r' := by
  unfold configured at h
  split at h
  case h_1 headers hheaders => exact ⟨headers, hheaders, Except.ok.inj h⟩
  case h_2 => cases h

/-- It can be configured if there is room for the headers, -/
theorem exists_configured (hfit : r.headers.Fit config.headers) :
    ∃ r', configured config r = .ok r' := by
  unfold configured
  rw [Http.Headers.replacing?_eq_some_iff.mpr ⟨hfit, rfl⟩]
  exact ⟨_, rfl⟩

/-- and whoever configures it dies if there is none. -/
theorem configured_of_not_fit (hfit : ¬ r.headers.Fit config.headers) :
    configured config r = .error .death := by
  unfold configured
  rw [Http.Headers.replacing?_eq_none_iff.mpr hfit]

/-- A request is one of the convention, configured. -/
theorem exists_of_request (h : request config query question subnet = .ok r) :
    ∃ plain, conventionRequest config query question subnet = .ok plain ∧
      configured config plain = .ok r := by
  unfold request at h
  split at h
  case h_1 plain hplain => exact ⟨plain, hplain, h⟩
  case h_2 => cases h

/-- There is one of the convention for every query that can be written, if it has to be. -/
theorem exists_conventionRequest (question : Dns.Question) (h : config.convention = .wire →
    ∃ octets, (Wire.outgoing query subnet).encode = .ok octets) :
    ∃ plain, conventionRequest config query question subnet = .ok plain := by
  simp only [conventionRequest]
  cases hconvention : config.convention with
  | json => exact ⟨_, rfl⟩
  | wire =>
    obtain ⟨octets, hoctets⟩ := h hconvention
    exact Wire.exists_request config.endpoint config.post hoctets

/-- There is a request for it if there is room for the headers, -/
theorem exists_request (question : Dns.Question) (h : config.convention = .wire →
    ∃ octets, (Wire.outgoing query subnet).encode = .ok octets)
    (hfit : (defaultHeaders config).Fit config.headers) :
    ∃ r, request config query question subnet = .ok r := by
  obtain ⟨plain, hplain⟩ := exists_conventionRequest question h
  rw [request, hplain]
  exact exists_configured (headers_of_conventionRequest hplain ▸ hfit)

/-- and whoever makes the request dies of it if there is none. -/
theorem request_of_not_fit (question : Dns.Question) (h : config.convention = .wire →
    ∃ octets, (Wire.outgoing query subnet).encode = .ok octets)
    (hfit : ¬ (defaultHeaders config).Fit config.headers) :
    request config query question subnet = .error .death := by
  obtain ⟨plain, hplain⟩ := exists_conventionRequest question h
  rw [request, hplain]
  exact configured_of_not_fit (headers_of_conventionRequest hplain ▸ hfit)

/-- Nobody dies of anything else. -/
theorem not_fit_of_plan (h : plan config query subnet = .error .death) :
    ¬ (defaultHeaders config).Fit config.headers := by
  intro hfit
  unfold plan at h
  split at h
  case h_1 => cases h
  case h_2 question hquestion =>
    split at h
    case isTrue => cases h
    case isFalse =>
      unfold request at h
      split at h
      case h_1 plain hplain =>
        obtain ⟨r, hr⟩ := exists_configured (headers_of_conventionRequest hplain ▸ hfit)
        rw [hr] at h
        cases h
      case h_2 => cases h

/-- The pairs of the configuration stand behind those that the location of a request has. -/
theorem pairs_configured {r' : Http.Request} (h : configured config r = .ok r') :
    r'.url.pairs =
      r.url.pairs ++ config.params.map fun (key, value) => (key.toList, value.toList) := by
  obtain ⟨headers, -, rfl⟩ := exists_of_configured h
  exact Url.pairs_appendPairs _ _

/-- What else a request is stays. -/
theorem body_configured {r' : Http.Request} (h : configured config r = .ok r') :
    r'.method = r.method ∧ r'.body = r.body := by
  obtain ⟨headers, -, rfl⟩ := exists_of_configured h
  exact ⟨rfl, rfl⟩

/-- **The request for a query carries the message that travels.**  Whoever asks a request for its
octets is given those of the message, unless the location of the endpoint has the parameter for them
as its own. -/
theorem carries_of_request (hwire : config.convention = .wire)
    (h : request config query question subnet = .ok r) :
    ∃ bytes, (Wire.outgoing query subnet).encode = .ok bytes ∧ Wire.Carries r bytes ∧
      (config.endpoint.pairs.lookup Wire.parameter = none → Wire.carriedBytes r = .ok bytes) := by
  obtain ⟨plain, hplain, hr⟩ := exists_of_request h
  have hpairs := pairs_configured hr
  obtain ⟨hmethod, hbody⟩ := body_configured hr
  simp only [conventionRequest, hwire, Wire.request] at hplain
  split at hplain
  case h_1 => cases hplain
  case h_2 bytes hbytes =>
    refine ⟨bytes, hbytes, ?_⟩
    split at hplain
    case isTrue =>
      cases hplain
      exact ⟨.inl ⟨hmethod, hbody⟩, fun _ => Wire.carriedBytes_of_body hbody⟩
    case isFalse =>
      cases hplain
      rw [Url.pairs_appendPair] at hpairs
      constructor
      · refine .inr ⟨hmethod, hbody, ?_⟩
        rw [hpairs]
        exact List.mem_append_left _ (List.mem_append_right _ List.mem_cons_self)
      · intro hnone
        refine Wire.carriedBytes_of_parameter hbody ?_
        rw [hpairs, List.lookup_append, List.lookup_append, hnone, Option.none_or,
          List.lookup_cons_self, Option.some_or]

end Inquiry

end DohRelay
