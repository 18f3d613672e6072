import DohRelay.Proofs.Dns.NameText
import DohRelay.Proofs.Net.Addresses
import DohRelay.Proofs.Service.Keyed
import DohRelay.Proofs.Text.Decimal

/-!
# Keys that travel as parameters

Where queries travel as parameters, each component of a fingerprint has a parameter of its own,
except for the class of the question.  Names and networks are told by their text, and whatever the
endpoint and the configuration add stands in the same places of every request.  So requests are
equal just for fingerprints that differ in the class at most, asked for names of one spelling.

## Main definitions

* `Fingerprint.classless` — a fingerprint, whatever its class.

## Main results

* `Resolve.lookup_parameters` — the parameters of a query, one by one.
* `Inquiry.request_eq_iff` — **when two requests are equal.**
* `requests_tell_keys` — **requests tell fingerprints up to the class.**
* `requests_lose_class` — the class is not told.
-/

namespace DohRelay

/-- A fingerprint, whatever its class. -/
def Fingerprint.classless (key : Fingerprint) : Fingerprint :=
  { key with qclass := 0 }

/-! ### Parameters -/

namespace Resolve

/-- The parameters of a query, one by one. -/
theorem lookup_parameters (query : Dns.Message) (question : Dns.Question)
    (subnet : Option Net.Network) :
    (parameters query question subnet).lookup "name".toList = some question.name.text ∧
      (parameters query question subnet).lookup "type".toList =
        some (Text.decimal question.type.code.toNat) ∧
      (parameters query question subnet).lookup "cd".toList =
        (if query.checkingDisabled then some ['1'] else none) ∧
      (parameters query question subnet).lookup "do".toList =
        (if query.dnssecOk then some ['1'] else none) ∧
      (parameters query question subnet).lookup "edns_client_subnet".toList =
        subnet.map Net.Network.text := by
  unfold parameters
  cases query.checkingDisabled <;> cases query.dnssecOk <;> cases subnet <;>
    exact ⟨rfl, rfl, rfl, rfl, rfl⟩

variable {query other : Dns.Message} {question asked : Dns.Question}
  {subnet net : Option Net.Network}

/-- Parameters are those of another query just if they are for the same name, type, flags and
network. -/
theorem parameters_eq_iff :
    parameters query question subnet = parameters other asked net ↔
      question.name = asked.name ∧
        (Fingerprint.ofQuery query question subnet).classless =
          (Fingerprint.ofQuery other asked net).classless := by
  constructor
  · intro h
    obtain ⟨hname, htype, hcd, hdo, hnet⟩ := lookup_parameters query question subnet
    obtain ⟨hname', htype', hcd', hdo', hnet'⟩ := lookup_parameters other asked net
    rw [h] at hname htype hcd hdo hnet
    have hsame : question.name = asked.name :=
      Dns.Name.text_inj.mp (Option.some.inj (hname.symm.trans hname'))
    have hcode : question.type.code = asked.type.code :=
      UInt16.toNat_inj.mp (Text.decimal_injective (Option.some.inj (htype.symm.trans htype')))
    have hchecking : query.checkingDisabled = other.checkingDisabled := by
      have := hcd.symm.trans hcd'
      revert this
      cases query.checkingDisabled <;> cases other.checkingDisabled <;> decide
    have hdnssec : query.dnssecOk = other.dnssecOk := by
      have := hdo.symm.trans hdo'
      revert this
      cases query.dnssecOk <;> cases other.dnssecOk <;> decide
    have hsubnet : subnet = net :=
      Option.map_injective (fun _ _ => Net.Network.text_inj.mp) (hnet.symm.trans hnet')
    refine ⟨hsame, ?_⟩
    simp only [Fingerprint.classless, Fingerprint.ofQuery, Fingerprint.ofQuestion, hsame, hcode,
      hchecking, hdnssec, hsubnet]
  · rintro ⟨hname, hkey⟩
    simp only [Fingerprint.classless, Fingerprint.ofQuery, Fingerprint.ofQuestion,
      Fingerprint.mk.injEq] at hkey
    obtain ⟨-, htype, -, hsubnet, hdnssec, hchecking⟩ := hkey
    rw [parameters, parameters, hname, htype, hsubnet, hdnssec, hchecking]

end Resolve

/-! ### Requests -/

namespace Inquiry

variable {config : Config} {query other : Dns.Message} {question asked : Dns.Question}
  {subnet net : Option Net.Network}

/-- For parameters nothing needs to be written, so a request has only to be configured. -/
theorem request_of_json (hjson : config.convention = .json) :
    request config query question subnet =
      configured config (Resolve.request config.endpoint query question subnet) := by
  rw [request, conventionRequest, hjson]

/-- It is the same for one spelling of a name, and fingerprints that differ in the class at most, -/
theorem request_congr (hjson : config.convention = .json) (hname : question.name = asked.name)
    (hkey : (Fingerprint.ofQuery query question subnet).classless =
      (Fingerprint.ofQuery other asked net).classless) :
    request config query question subnet = request config other asked net := by
  have hparameters := Resolve.parameters_eq_iff.mpr ⟨hname, hkey⟩
  rw [request_of_json hjson, request_of_json hjson, Resolve.request, Resolve.request, hparameters]

/-- **and two requests are equal for no others.** -/
theorem request_eq_iff (hjson : config.convention = .json) {r r' : Http.Request}
    (hr : request config query question subnet = .ok r)
    (hr' : request config other asked net = .ok r') :
    r = r' ↔ question.name = asked.name ∧
      (Fingerprint.ofQuery query question subnet).classless =
        (Fingerprint.ofQuery other asked net).classless := by
  constructor
  · rintro rfl
    rw [request_of_json hjson] at hr hr'
    have hpairs := (pairs_configured hr).symm.trans (pairs_configured hr')
    simp only [Resolve.request, Url.pairs_appendPairs, List.append_cancel_right_eq,
      List.append_cancel_left_eq] at hpairs
    exact Resolve.parameters_eq_iff.mp hpairs
  · rintro ⟨hname, hkey⟩
    exact Except.ok.inj (hr.symm.trans ((request_congr hjson hname hkey).trans hr'))

end Inquiry

namespace Service

/-- A fetch has the fingerprint of the query of its errand, with the network to advertise. -/
theorem Sending.key {config : Config} {fetchTimeout : Nat} {moves : List Move} {s : State}
    (h : Run config fetchTimeout moves s) {m : Move} (hm : m ∈ moves) {f : Cache.Fetch}
    {errand : Errand} {call : Call} (hsending : Sending m f errand call) :
    ∃ question, errand.query.question = .ok question ∧
      f.key = .ofQuery errand.query question errand.subnet ∧
      Inquiry.request config errand.query question errand.subnet = .ok call.request := by
  obtain ⟨earlier, -, hrun⟩ := h.exists_before hm
  obtain ⟨-, question, -, -, hquestion, hkey⟩ :=
    (Keyed.of_run hrun).key_of_errand hsending.fetch hsending.errand
  obtain ⟨question', hquestion', hrequest⟩ := hsending.request
  obtain rfl : question = question' := Except.ok.inj (hquestion.symm.trans hquestion')
  rw [hrun.config_eq] at hrequest
  exact ⟨question, hquestion, hkey, hrequest⟩

/-- **Requests tell fingerprints up to the class.**  For any two queries with one question each, and
any networks, there are requests if there is room for the headers of the configuration; and requests
for them are different if the fingerprints differ in more than the class, and the same if these
differ in nothing else and the names are spelled alike.  So in no run is the same asked for two
fetches whose keys differ in more than the class. -/
theorem requests_tell_keys {config : Config} (hjson : config.convention = .json) :
    (∀ query other question asked subnet net, Dns.Message.question query = .ok question →
      Dns.Message.question other = .ok asked →
      ((Inquiry.defaultHeaders config).Fit config.headers →
        ∃ r r', Inquiry.request config query question subnet = .ok r ∧
          Inquiry.request config other asked net = .ok r') ∧
      ∀ r r', Inquiry.request config query question subnet = .ok r →
        Inquiry.request config other asked net = .ok r' →
        ((Fingerprint.ofQuery query question subnet).classless ≠
          (Fingerprint.ofQuery other asked net).classless → r ≠ r') ∧
        (question.name = asked.name →
          (Fingerprint.ofQuery query question subnet).classless =
            (Fingerprint.ofQuery other asked net).classless → r = r')) ∧
    ∀ fetchTimeout moves s, Run config fetchTimeout moves s →
      ∀ m ∈ moves, ∀ f errand call, Sending m f errand call →
      ∀ m' ∈ moves, ∀ f' errand' call', Sending m' f' errand' call' →
      call.request = call'.request → f.key.classless = f'.key.classless := by
  constructor
  · intro query other question asked subnet net _ _
    have hwritten (query : Dns.Message) (subnet : Option Net.Network) :
        config.convention = .wire → ∃ octets, (Wire.outgoing query subnet).encode = .ok octets :=
      fun hwire => absurd (hjson.symm.trans hwire) nofun
    refine ⟨fun hfit => ?_, fun r r' hr hr' => ⟨fun hne heq => ?_, fun hname hkey => ?_⟩⟩
    · obtain ⟨r, hr⟩ := Inquiry.exists_request question (hwritten query subnet) hfit
      obtain ⟨r', hr'⟩ := Inquiry.exists_request asked (hwritten other net) hfit
      exact ⟨r, r', hr, hr'⟩
    · exact hne ((Inquiry.request_eq_iff hjson hr hr').mp heq).2
    · exact (Inquiry.request_eq_iff hjson hr hr').mpr ⟨hname, hkey⟩
  · intro fetchTimeout moves s hrun m hm f errand call hsending m' hm' f' errand' call' hsending'
      hcalls
    obtain ⟨question, -, hkey, hrequest⟩ := Sending.key hrun hm hsending
    obtain ⟨question', -, hkey', hrequest'⟩ := Sending.key hrun hm' hsending'
    rw [hkey, hkey']
    exact ((Inquiry.request_eq_iff hjson hrequest hrequest').mp hcalls).2

/-! ### Questions about the root -/

/-- A relay whose queries travel as parameters. -/
def resolving : Config :=
  { Config.default with convention := .json }

/-- The question of `rootMessage` in another class. -/
def chaosQuestion : Dns.Question :=
  { Dns.rootQuestion with qclass := 3 }

/-- With a flag more, the message asks by another request. -/
theorem requests_tell_keys_flag : resolving.convention = .json ∧ ∃ r r',
    Inquiry.request resolving rootMessage Dns.rootQuestion none = .ok r ∧
      Inquiry.request resolving { rootMessage with checkingDisabled := true } Dns.rootQuestion
        none = .ok r' ∧ r ≠ r' := by
  obtain ⟨hexists, htells⟩ := (requests_tell_keys (rfl : resolving.convention = .json)).1
    rootMessage { rootMessage with checkingDisabled := true } Dns.rootQuestion Dns.rootQuestion none
    none rfl rfl
  obtain ⟨r, r', hr, hr'⟩ := hexists (.inl rfl)
  exact ⟨rfl, r, r', hr, hr', (htells r r' hr hr').1 (by decide)⟩

/-- **The class is not told**: in another class the same question has another fingerprint, but is
asked by the same request. -/
theorem requests_lose_class : ¬∀ config, Config.convention config = .json →
    ∀ query other question asked subnet net, Dns.Message.question query = .ok question →
      Dns.Message.question other = .ok asked →
      Fingerprint.ofQuery query question subnet ≠ .ofQuery other asked net →
      Inquiry.request config query question subnet ≠ Inquiry.request config other asked net := by
  intro h
  refine h resolving rfl rootMessage { rootMessage with questions := [chaosQuestion] }
    Dns.rootQuestion chaosQuestion none none rfl rfl (by decide) ?_
  exact Inquiry.request_congr rfl rfl (by decide)

end Service

end DohRelay
