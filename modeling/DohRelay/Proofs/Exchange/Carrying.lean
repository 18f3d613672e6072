import DohRelay.Proofs.Exchange.Outgoing
import DohRelay.Proofs.Service.Keyed

/-!
# What a request carries

A message travels as the body of a request, or in its location in base 64.  Whoever takes it out of
the request gets the same message either way: the query without its id, and with the network to
advertise in the place of any that it told.  The characters of base 64 stand for themselves in a
location, so nothing is encoded twice.

## Main definitions

* `Wire.TravelsFor` — a message is the one that travels for a query.
* `Wire.Placed` — a value stands in a location as it is.

## Main results

* `Wire.travelsFor_outgoing` — **the message that is sent is the one that travels for the query.**
* `Wire.carriedBytes_request` — **a request carries its octets, whichever way it is made.**
* `Wire.carried_request` — **and so the message, if it is read as it was written.**
-/

namespace DohRelay

/-! ### Values in locations -/

/-- Characters that stand for themselves are written as they are. -/
theorem Url.encodePart_of_plain {s : List Char} (h : ∀ c ∈ s, isPlainInPair c = true) :
    encodePart s = s := by
  induction s with
  | nil => rfl
  | cons c s ih =>
    obtain ⟨hc, hs⟩ := List.forall_mem_cons.mp h
    have hblank : c ≠ ' ' := by
      rintro rfl
      exact absurd hc (by decide)
    rw [encodePart, List.flatMap_cons, if_neg hblank, if_pos hc, ← encodePart, ih hs,
      List.singleton_append]

/-- The characters of base 64 stand for themselves, and none of them is for padding. -/
theorem Text.Base64.plain_of_mem_encode {octets : List UInt8} {c : Char} (h : c ∈ encode octets) :
    Url.isPlainInPair c = true ∧ c ≠ '=' := by
  have hall : ∀ n : Fin 64, Url.isPlainInPair (symbol n) = true ∧ symbol n ≠ '=' := by decide
  rw [encode_eq] at h
  obtain ⟨v, hv, rfl⟩ := List.mem_map.mp h
  exact hall ⟨v, lt_of_mem_sextets hv⟩

namespace Wire

/-- A value stands behind a location as it is: it has no padding, and there is nothing to encode. -/
structure Placed (value : List Char) (u : Url) : Prop where
  /-- It is the parameter of the location. -/
  parameter : u.pairs.lookup parameter = some value
  /-- It is not padded. -/
  noPadding : '=' ∉ value
  /-- None of its characters has to be encoded, -/
  plain : Url.encodePart value = value
  /-- so it ends the text of the location. -/
  last : ∃ before, u.query = some (before ++ "dns=".toList ++ value)

/-- The octets in base 64 stand behind a location as they are. -/
theorem placed_appendPair {endpoint : Url} {octets : List UInt8}
    (hnone : endpoint.pairs.lookup parameter = none) :
    Placed (Text.Base64.encode octets)
      (endpoint.appendPair parameter (Text.Base64.encode octets)) := by
  have hplain : Url.encodePart (Text.Base64.encode octets) = Text.Base64.encode octets :=
    Url.encodePart_of_plain fun c hc => (Text.Base64.plain_of_mem_encode hc).1
  refine ⟨?_, fun hpad => (Text.Base64.plain_of_mem_encode hpad).2 rfl, hplain, ?_⟩
  · rw [Url.pairs_appendPair, List.lookup_append, hnone, Option.none_or, List.lookup_cons_self]
  · have hpair : Url.encodePair parameter (Text.Base64.encode octets) =
        "dns=".toList ++ Text.Base64.encode octets := by
      rw [Url.encodePair, hplain]
      rfl
    rw [Url.appendPair, hpair]
    dsimp only
    split
    · exact ⟨[], rfl⟩
    · exact ⟨[], rfl⟩
    case h_3 before _ _ => exact ⟨before ++ ['&'], by simp⟩

/-! ### The message that travels -/

/-- A message is the one that travels for a query, with a network to advertise or none. -/
structure TravelsFor (query : Dns.Message) (subnet : Option Net.Network) (sent : Dns.Message) :
    Prop where
  /-- It has no id. -/
  id : sent.id = 0
  /-- All but the id and the extension record is as in the query. -/
  others : { sent with id := query.id, edns := query.edns } = query
  /-- If there is a network, the message tells it, for an answer of any scope. -/
  told : ∀ net, subnet = some net → ∃ edns s, sent.edns = some edns ∧
    edns.options.subnet = some s ∧ s.address = net.address ∧ s.source.toNat = net.length ∧
    s.scope = 0
  /-- If there is none, it tells none. -/
  untold : subnet = none → ∀ edns, sent.edns = some edns → edns.options.subnet = none
  /-- All else in an extension record of the query is as it was, with all other options. -/
  kept : ∀ edns, query.edns = some edns → ∃ edns', sent.edns = some edns' ∧
    { edns' with options := { edns'.options with subnet := edns.options.subnet } } = edns
  /-- A query without extension record is given one only for a network, -/
  bare : query.edns = none → subnet = none → sent.edns = none
  /-- and then one of the first version, with no more in it than the network. -/
  added : query.edns = none → ∀ edns, sent.edns = some edns → edns.payload = 1232 ∧
    edns.version = 0 ∧ edns.dnssecOk = false ∧ edns.rcodeHigh = 0 ∧ edns.options.others = []

/-- **The message that is sent is the one that travels for the query.** -/
theorem travelsFor_outgoing (query : Dns.Message) (subnet : Option Net.Network) :
    TravelsFor query subnet (outgoing query subnet) := by
  cases subnet with
  | none =>
    have hedns : (outgoing query none).edns = query.edns.map (withSubnet · none) := rfl
    refine ⟨rfl, rfl, nofun, fun _ edns h => ?_, fun edns h => ?_, fun h _ => ?_,
      fun h edns h' => ?_⟩
    · rw [hedns] at h
      obtain ⟨edns', -, rfl⟩ := Option.map_eq_some_iff.mp h
      rfl
    · exact ⟨withSubnet edns none, by rw [hedns, h]; rfl, rfl⟩
    · rw [hedns, h]
      rfl
    · rw [hedns, h] at h'
      cases h'
  | some net =>
    have hedns : (outgoing query (some net)).edns = some (withSubnet
        ((query.edns.map (withSubnet · none)).getD newEdns) (some (clientSubnet net))) := rfl
    refine ⟨rfl, rfl, ?_, nofun, fun edns h => ?_, nofun, fun h edns h' => ?_⟩
    · rintro _ ⟨⟩
      exact ⟨_, clientSubnet net, hedns, rfl, rfl, net.toNat_length, rfl⟩
    · exact ⟨_, hedns, by rw [h]; rfl⟩
    · rw [hedns, h] at h'
      cases h'
      exact ⟨rfl, rfl, rfl, rfl, rfl⟩

/-! ### The request -/

section

variable {endpoint : Url} {post : Bool} {query : Dns.Message} {subnet : Option Net.Network}
  {r : Http.Request}

/-- **A request carries the octets of the message, whichever way it is made.**  In a location they
stand as they are in base 64. -/
theorem carriedBytes_request (hnone : endpoint.pairs.lookup parameter = none)
    (h : request endpoint post query subnet = .ok r) :
    ∃ octets, (outgoing query subnet).encode = .ok octets ∧ carriedBytes r = .ok octets ∧
      (post = false → Placed (Text.Base64.encode octets) r.url) := by
  unfold request at h
  split at h
  case h_1 => cases h
  case h_2 octets hoctets =>
    refine ⟨octets, hoctets, ?_⟩
    split at h
    case isTrue hpost =>
      cases h
      exact ⟨carriedBytes_of_body rfl, fun hget => absurd hpost (by rw [hget]; decide)⟩
    case isFalse =>
      cases h
      have hplaced : Placed (Text.Base64.encode octets)
          (endpoint.appendPair parameter (Text.Base64.encode octets)) := placed_appendPair hnone
      exact ⟨carriedBytes_of_parameter rfl hplaced.parameter, fun _ => hplaced⟩

/-- **A request carries the message that travels for the query, whichever way it is made**, if the
message is read as it was written and the location of the endpoint has no parameter for it. -/
theorem carried_request (hnone : endpoint.pairs.lookup parameter = none)
    (hread : ∀ octets, (outgoing query subnet).encode = .ok octets →
      Dns.Message.decode octets = .ok (outgoing query subnet)) :
    ∃ sent, TravelsFor query subnet sent ∧ ∀ post r, request endpoint post query subnet = .ok r →
      carried r = .ok sent ∧ (post = false → ∃ value, Placed value r.url) := by
  refine ⟨outgoing query subnet, travelsFor_outgoing query subnet, fun post r h => ?_⟩
  obtain ⟨octets, hoctets, hcarried, hplaced⟩ := carriedBytes_request hnone h
  refine ⟨?_, fun hget => ⟨_, hplaced hget⟩⟩
  rw [carried, hcarried]
  dsimp only
  rw [hread octets hoctets]

end

/-- A query about the root, from a client that tells the network 1.2.3.0/24. -/
def tellingQuery : Dns.Message :=
  { Service.rootMessage with
    edns := some (withSubnet newEdns (some ⟨.v4 ⟨0x01020300⟩, 24, 0⟩)) }

/-- Another network is told in its place. -/
theorem carried_request_telling : ∃ get posted sent,
    request Config.default.endpoint false tellingQuery (some Service.documented) = .ok get ∧
      request Config.default.endpoint true tellingQuery (some Service.documented) = .ok posted ∧
      carried get = .ok sent ∧ carried posted = .ok sent ∧
      TravelsFor tellingQuery (some Service.documented) sent := by
  have hencode : (outgoing tellingQuery (some Service.documented)).encode =
      .ok Service.rootOutgoingBytes := Service.encode_rootOutgoing
  have hread : ∀ octets, (outgoing tellingQuery (some Service.documented)).encode = .ok octets →
      Dns.Message.decode octets = .ok (outgoing tellingQuery (some Service.documented)) := by
    intro octets h
    cases hencode.symm.trans h
    exact Service.decode_rootOutgoingBytes
  obtain ⟨get, hget⟩ := exists_request Config.default.endpoint false hencode
  obtain ⟨posted, hposted⟩ := exists_request Config.default.endpoint true hencode
  obtain ⟨sent, htravels, hcarried⟩ := carried_request
    (rfl : Config.default.endpoint.pairs.lookup parameter = none) hread
  exact ⟨get, posted, sent, hget, hposted, (hcarried false get hget).1,
    (hcarried true posted hposted).1, htravels⟩

end Wire

end DohRelay
