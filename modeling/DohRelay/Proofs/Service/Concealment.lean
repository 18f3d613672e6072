import DohRelay.Proofs.Service.Keyed

/-!
# Networks of clients

A client may tell its network in the extension record of its query.  That network is nobody's
business but the client's: whatever it is, and whether it is told at all, the query is looked for
under the same key, and the endpoint is sent the same request.  So nothing that is sent depends on
it.

## Main definitions

* `Dns.Message.AsksAlike` — two queries differ in their ids and in the networks they tell, and in
  nothing else.

## Main results

* `Dns.Message.AsksAlike.outgoing_eq` — the same message travels for two such queries.
* `Dns.Message.AsksAlike.request_eq` — the same request is made for them, in either convention.
* `networks_are_concealed` — **two such queries have one key and one request, in every run.**
-/

namespace DohRelay

/-- Two extension records say the same, but for the client subnets among their options. -/
structure Dns.Edns.AsksAlike (e f : Dns.Edns) : Prop where
  /-- They offer datagrams of one size, -/
  payload : e.payload = f.payload
  /-- they are of one version, -/
  version : e.version = f.version
  /-- they both want signatures or neither does, -/
  dnssecOk : e.dnssecOk = f.dnssecOk
  /-- they have the same upper bits of a response code, -/
  rcodeHigh : e.rcodeHigh = f.rcodeHigh
  /-- and the same options but for the client subnet, which either may lack. -/
  others : e.options.others = f.options.others

/-- Two queries say the same, but for their ids and for the client subnets in their extension
records. -/
structure Dns.Message.AsksAlike (q r : Dns.Message) : Prop where
  /-- Whatever stands outside of the extension record is the same, but for the id. -/
  rest : { q with id := r.id, edns := r.edns } = r
  /-- Both have an extension record, and then the records say the same, or neither has one. -/
  edns : Option.Rel Dns.Edns.AsksAlike q.edns r.edns

/-- Extension records that say the same are the same with a network put in the place of theirs. -/
theorem Dns.Edns.AsksAlike.withSubnet_eq {e f : Dns.Edns} (h : e.AsksAlike f)
    (subnet : Option Dns.ClientSubnet) : Wire.withSubnet e subnet = Wire.withSubnet f subnet := by
  obtain ⟨payload, version, dnssecOk, rcodeHigh, _, others⟩ := e
  obtain ⟨hpayload, hversion, hdnssecOk, hrcodeHigh, hothers⟩ := h
  subst hpayload hversion hdnssecOk hrcodeHigh hothers
  rfl

/-- The same holds of extension records that may be missing. -/
theorem Dns.Edns.AsksAlike.map_withSubnet_eq {e f : Option Dns.Edns}
    (h : Option.Rel Dns.Edns.AsksAlike e f) (subnet : Option Dns.ClientSubnet) :
    e.map (Wire.withSubnet · subnet) = f.map (Wire.withSubnet · subnet) := by
  cases h with
  | none => rfl
  | some h => exact congrArg some (h.withSubnet_eq subnet)

/-- Extension records that say the same want signatures both or neither. -/
theorem Dns.Edns.AsksAlike.any_dnssecOk_eq {e f : Option Dns.Edns}
    (h : Option.Rel Dns.Edns.AsksAlike e f) : e.any (·.dnssecOk) = f.any (·.dnssecOk) := by
  cases h with
  | none => rfl
  | some h => exact h.dnssecOk

namespace Dns.Message.AsksAlike

variable {q r : Dns.Message} (h : q.AsksAlike r)

include h

/-- Two such queries have the same questions. -/
theorem question_eq : q.question = r.question := by
  rw [← h.rest]
  rfl

/-- Both want data that may not be authentic, or neither does. -/
theorem checkingDisabled_eq : q.checkingDisabled = r.checkingDisabled := by
  rw [← h.rest]

/-- Both want signatures, or neither does. -/
theorem dnssecOk_eq : q.dnssecOk = r.dnssecOk :=
  Edns.AsksAlike.any_dnssecOk_eq h.edns

/-- Two such queries have one fingerprint. -/
theorem ofQuery_eq (question : Dns.Question) (net : Option Net.Network) :
    Fingerprint.ofQuery q question net = .ofQuery r question net := by
  unfold Fingerprint.ofQuery
  rw [h.dnssecOk_eq, h.checkingDisabled_eq]

/-- The same message travels for two such queries, but for any network. -/
theorem concealing_eq : Wire.concealing { q with id := 0 } = Wire.concealing { r with id := 0 } :=
  calc Wire.concealing { q with id := 0 }
      = { q with id := 0, edns := r.edns.map (Wire.withSubnet · none) } := by
        rw [← Edns.AsksAlike.map_withSubnet_eq h.edns]
        rfl
    _ = Wire.concealing { r with id := 0 } := by
        conv_rhs => rw [← h.rest]
        rfl

/-- The same message travels for two such queries. -/
theorem outgoing_eq (net : Option Net.Network) : Wire.outgoing q net = Wire.outgoing r net := by
  unfold Wire.outgoing
  rw [h.concealing_eq]

/-- The same parameters travel for two such queries. -/
theorem parameters_eq (question : Dns.Question) (net : Option Net.Network) :
    Resolve.parameters q question net = Resolve.parameters r question net := by
  unfold Resolve.parameters
  rw [h.checkingDisabled_eq, h.dnssecOk_eq]

/-- The same request is made for two such queries, or there is the same fault, in either convention
and by either method. -/
theorem request_eq (config : Config) (question : Dns.Question) (net : Option Net.Network) :
    Inquiry.request config q question net = Inquiry.request config r question net := by
  unfold Inquiry.request Inquiry.conventionRequest
  cases config.convention with
  | wire =>
    dsimp only
    unfold Wire.request
    rw [h.outgoing_eq]
  | json =>
    dsimp only
    unfold Resolve.request
    rw [h.parameters_eq]

/-- A request is planned for both of two such queries, and it is the same, or for neither. -/
theorem plan_eq_exchange_iff (config : Config) (net : Option Net.Network)
    (question : Dns.Question) (request : Http.Request) :
    Inquiry.plan config q net = .ok (.exchange question request) ↔
      Inquiry.plan config r net = .ok (.exchange question request) := by
  unfold Inquiry.plan
  rw [h.question_eq]
  cases r.question with
  | error reason => rfl
  | ok asked =>
    dsimp only
    split
    -- an empty answer is given to both, each with its own id
    case isTrue => simp
    case isFalse => rw [h.request_eq]

end Dns.Message.AsksAlike

namespace Service

/-- **The network that a client tells reaches neither a key nor a request.**  Two queries that
differ only in their ids and in the client subnets they tell ask the same question and have one
fingerprint, whatever network is advertised; a request is made for both or for neither, and it is
the same in method, location, headers and body, in every configuration.  So in any two runs the
fetches for such queries have one key and the requests sent for them are the same, provided that the
same network is advertised for both. -/
theorem networks_are_concealed {q r : Dns.Message} (h : q.AsksAlike r) :
    q.question = r.question ∧
    (∀ question net, Fingerprint.ofQuery q question net = .ofQuery r question net) ∧
    (∀ config question net,
      Inquiry.request config q question net = Inquiry.request config r question net) ∧
    (∀ config net question request,
      Inquiry.plan config q net = .ok (.exchange question request) ↔
        Inquiry.plan config r net = .ok (.exchange question request)) ∧
    ∀ config fetchTimeout moves s fetchTimeout' moves' s', Run config fetchTimeout moves s →
      Run config fetchTimeout' moves' s' →
      ∀ m ∈ moves, ∀ m' ∈ moves', ∀ f f' errand errand' call call',
        Sending m f errand call → Sending m' f' errand' call' →
        errand.query = q → errand'.query = r → errand.subnet = errand'.subnet →
        f.key = f'.key ∧ call.request = call'.request := by
  refine ⟨h.question_eq, h.ofQuery_eq, h.request_eq, h.plan_eq_exchange_iff, ?_⟩
  intro config fetchTimeout moves s fetchTimeout' moves' s' hrun hrun' m hm m' hm' f f' errand
    errand' call call' hsending hsending' hq hr hnet
  obtain ⟨_, -, hbefore⟩ := hrun.exists_before hm
  obtain ⟨_, -, hbefore'⟩ := hrun'.exists_before hm'
  obtain ⟨_, question, -, -, hquestion, hkey⟩ :=
    (Keyed.of_run hbefore).key_of_errand hsending.fetch hsending.errand
  obtain ⟨_, question', -, -, hquestion', hkey'⟩ :=
    (Keyed.of_run hbefore').key_of_errand hsending'.fetch hsending'.errand
  obtain ⟨asked, hasked, hrequest⟩ := hsending.request
  obtain ⟨asked', hasked', hrequest'⟩ := hsending'.request
  rw [hbefore.config_eq] at hrequest
  rw [hbefore'.config_eq] at hrequest'
  subst hq hr
  obtain rfl : question = asked := Except.ok.inj (hquestion.symm.trans hasked)
  obtain rfl : question' = asked' := Except.ok.inj (hquestion'.symm.trans hasked')
  obtain rfl : question = question' :=
    Except.ok.inj ((hquestion.symm.trans h.question_eq).trans hquestion')
  constructor
  · rw [hkey, hkey', hnet, h.ofQuery_eq]
  · rw [hnet, h.request_eq, hrequest'] at hrequest
    exact (Except.ok.inj hrequest).symm

/-! ### A query that tells a network and one that does not -/

/-- A query about the root from a client that takes signatures, has a cookie, and tells a network or
none. -/
def rootMessageFrom (id : UInt16) (subnet : Option Dns.ClientSubnet) : Dns.Message :=
  { rootMessage with
    id
    edns := some { Wire.newEdns with
      dnssecOk := true
      options := ⟨subnet, [(10, [1, 2, 3, 4, 5, 6, 7, 8])]⟩ } }

theorem encode_outgoing_rootMessageFrom :
    (Wire.outgoing (rootMessageFrom 2 none) none).encode =
      .ok [0, 0, 1, 0, 0, 1, 0, 0, 0, 0, 0, 1, 0, 0, 1, 0, 1,
        0, 0, 41, 4, 208, 0, 0, 128, 0, 0, 12, 0, 10, 0, 8, 1, 2, 3, 4, 5, 6, 7, 8] := by
  decide +kernel

/-- Whether a client tells the network 1.2.3.0/24 or none, the request is the same, and it does not
tell that network. -/
theorem networks_are_concealed_rootQuery :
    ∃ r, Inquiry.request posting (rootMessageFrom 1 (some ⟨.v4 ⟨0x01020300⟩, 24, 0⟩))
        Dns.rootQuestion none = .ok r ∧
      Inquiry.request posting (rootMessageFrom 2 none) Dns.rootQuestion none = .ok r ∧
      r.body = some [0, 0, 1, 0, 0, 1, 0, 0, 0, 0, 0, 1, 0, 0, 1, 0, 1,
        0, 0, 41, 4, 208, 0, 0, 128, 0, 0, 12, 0, 10, 0, 8, 1, 2, 3, 4, 5, 6, 7, 8] := by
  have hrequest := (networks_are_concealed (q := rootMessageFrom 1 (some ⟨.v4 ⟨0x01020300⟩, 24, 0⟩))
    (r := rootMessageFrom 2 none) ⟨rfl, .some ⟨rfl, rfl, rfl, rfl, rfl⟩⟩).2.2.1 posting
    Dns.rootQuestion none
  have hconvention : posting.convention = .wire := rfl
  have hpost : posting.post = true := rfl
  obtain ⟨r, hr, hbody⟩ : ∃ r,
      Inquiry.request posting (rootMessageFrom 2 none) Dns.rootQuestion none = .ok r ∧
        r.body = some [0, 0, 1, 0, 0, 1, 0, 0, 0, 0, 0, 1, 0, 0, 1, 0, 1,
          0, 0, 41, 4, 208, 0, 0, 128, 0, 0, 12, 0, 10, 0, 8, 1, 2, 3, 4, 5, 6, 7, 8] := by
    simp only [Inquiry.request, Inquiry.conventionRequest, hconvention, Wire.request,
      encode_outgoing_rootMessageFrom, hpost, if_true]
    exact ⟨_, rfl, rfl⟩
  exact ⟨r, hrequest.trans hr, hr, hbody⟩

end Service

end DohRelay
