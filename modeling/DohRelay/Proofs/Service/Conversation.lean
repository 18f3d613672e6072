import DohRelay.Proofs.Service.Serving

/-!
# Conversations

Clients come one after the other, each with a query and after some pause, and each is served before
the next one comes.  Every client is told what a query of its own would have brought.  So nobody can
tell whether the relay keeps answers, except by an extension record.

## Main definitions

* `Visit`, `Converses` — how clients are served one after the other.

## Main results

* `exists_converses` — every conversation comes to its end.
* `cache_is_transparent` — **with and without a cache all clients are told the same.**
-/

namespace DohRelay.Service

open Cache (CallerId)

/-! ### Clients one after the other -/

section

variable (endpoint : Fingerprint → Except Error Http.Response)

/-- A client who comes after a pause, and how long the endpoint would take to respond. -/
structure Visit where
  /-- How long nothing happens before. -/
  pause : Nat
  /-- What the client asks. -/
  query : Dns.Message
  /-- How long a request takes. -/
  delay : Nat

/-- Clients are served one after the other, under ascending names. -/
inductive Converses : List Visit → CallerId → State → List Dns.Message → State → Prop
  /-- No more come. -/
  | nil {id : CallerId} {s : State} : Converses [] id s [] s
  /-- One comes and is served, and then the others. -/
  | cons {visit : Visit} {visits : List Visit} {id : CallerId} {s submitted served s' : State}
      {answer : Dns.Message} {answers : List Dns.Message}
      (hplay : s.play [.tick visit.pause, .submit id visit.query] = some submitted)
      (hserves : Serves endpoint id visit.delay submitted answer served)
      (rest : Converses visits (id + 1) served answers s') :
      Converses (visit :: visits) id s (answer :: answers) s'

variable {endpoint}

/-- It is determined what all are told. -/
theorem Converses.unique {visits : List Visit} {id : CallerId} {s t t' : State}
    {answers answers' : List Dns.Message} (h : Converses endpoint visits id s answers t)
    (h' : Converses endpoint visits id s answers' t') : answers = answers' ∧ t = t' := by
  induction h generalizing answers' with
  | nil =>
    cases h'
    exact ⟨rfl, rfl⟩
  | cons hplay hserves _ ih =>
    cases h' with
    | cons hplay' hserves' rest' =>
      obtain rfl := Option.some.inj (hplay.symm.trans hplay')
      obtain ⟨rfl, rfl⟩ := hserves.unique hserves'
      obtain ⟨rfl, rfl⟩ := ih rest'
      exact ⟨rfl, rfl⟩

end

/-- **Every conversation comes to its end**, and every client is told what a query of its own would
have brought, up to an extension record. -/
theorem exists_converses {config : Config} {fetchTimeout n : Nat} {subnet : Option Net.Network}
    {endpoint : Fingerprint → Except Error Http.Response} {visits : List Visit}
    (hsubnet : advertised? config = some subnet)
    (hrequests : ∀ v ∈ visits, ∀ question, v.query.question = .ok question →
      ∃ r, Inquiry.request config v.query question subnet = .ok r)
    (hdelays : ∀ v ∈ visits, v.delay < fetchTimeout ∧ v.delay < config.queryTimeout)
    {moves : List Move} {s : State} (hrun : Run config fetchTimeout moves s)
    (hsteady : ∀ m ∈ moves, m.Steady endpoint) (haskable : Askable config subnet moves)
    (hworld : World config fetchTimeout n s) (hmarkers : ∀ key, s.cache.markers.find? key = none) :
    ∃ answers s', Converses endpoint visits n s answers s' ∧
      answers.map (fun a => { a with edns := none }) = visits.map fun v =>
        { Inquiry.direct config endpoint subnet v.query with edns := none } := by
  induction visits generalizing n moves s with
  | nil => exact ⟨[], s, .nil, rfl⟩
  | cons visit visits ih =>
    obtain ⟨hrequest, hrequests⟩ := List.forall_mem_cons.mp hrequests
    obtain ⟨⟨hfetch, hwait⟩, hdelays⟩ := List.forall_mem_cons.mp hdelays
    let later : State := { s with now := s.now + visit.pause }
    have hlater : World config fetchTimeout n later :=
      ⟨hworld.config_eq, hworld.timeout, hworld.clients, hworld.callers⟩
    obtain ⟨submitted, hsubmit, answer, served, hserves, hworld', hmarkers',
        ⟨c, resolution, hc, hstage⟩, hpath⟩ : ∃ submitted,
          later.step (.submit n visit.query) = some submitted ∧
            Completes config fetchTimeout endpoint n visit.delay submitted :=
      exists_submitted hlater hmarkers hsubnet hrequest hfetch hwait
    have hplay : s.play [.tick visit.pause, .submit n visit.query] = some submitted := by
      simp only [State.play, State.step, Option.bind_some]
      exact Option.bind_eq_some_iff.mpr ⟨submitted, hsubmit, rfl⟩
    let waits : Move := ⟨.tick visit.pause, s, later, rfl⟩
    let submits : Move := ⟨.submit n visit.query, later, submitted, hsubmit⟩
    obtain ⟨more, hrun', hmore⟩ := hpath (submits :: waits :: moves)
      (.move submits (.move waits hrun))
    have hsteady' : ∀ m ∈ more ++ submits :: waits :: moves, m.Steady endpoint := by
      refine List.forall_mem_append.mpr ⟨fun m hm => (hmore m hm).1, ?_⟩
      exact List.forall_mem_cons.mpr ⟨trivial, List.forall_mem_cons.mpr ⟨trivial, hsteady⟩⟩
    have hwaits : Askable config subnet (waits :: moves) :=
      haskable.cons fun id input query question hin => by cases hin
    have hsubmits : Askable config subnet (submits :: waits :: moves) := by
      refine hwaits.cons fun id input query question hin hquery hquestion => ?_
      cases hin
      cases hquery
      exact hrequest question hquestion
    have haskable' : Askable config subnet (more ++ submits :: waits :: moves) :=
      hsubmits.append fun m hm => (hmore m hm).2
    have hin : HandedIn (more ++ submits :: waits :: moves) n (.query visit.query) :=
      ⟨submits, List.mem_append_right _ List.mem_cons_self, rfl⟩
    have hdirect := hrun'.direct_of_told hsubnet hsteady' haskable' hin rfl hc hstage
    obtain ⟨answers, s', hconverses, hanswers⟩ :=
      ih hrequests hdelays hrun' hsteady' haskable' hworld' hmarkers'
    refine ⟨answer :: answers, s', .cons hplay hserves hconverses, ?_⟩
    rw [List.map_cons, List.map_cons, hdirect, hanswers]

/-! ### With and without a cache -/

/-- A service that has just been started is such a world, without markers. -/
theorem World.start (config : Config) (fetchTimeout : Nat) :
    World config fetchTimeout 0 (.start config fetchTimeout) :=
  ⟨rfl, rfl, fun _ _ => rfl, fun _ _ => rfl⟩

/-- **It makes no difference to the clients whether the relay keeps answers**, where it does not
detect the network to advertise: whatever they ask, one after the other and after whatever pauses,
of an endpoint whose responses depend on what is asked only, all are served with a cache and
without, and all are told the same but for the extension record.  It is what each query would have
brought if it was asked without the service. -/
theorem cache_is_transparent {config : Config} {fetchTimeout : Nat} {subnet : Option Net.Network}
    {endpoint : Fingerprint → Except Error Http.Response} {visits : List Visit}
    (hsubnet : advertised? config = some subnet)
    (hrequests : ∀ v ∈ visits, ∀ question, v.query.question = .ok question →
      ∃ r, Inquiry.request config v.query question subnet = .ok r)
    (hdelays : ∀ v ∈ visits, v.delay < fetchTimeout ∧ v.delay < config.queryTimeout) :
    ∃ answers answers' s s',
      Converses endpoint visits 0 (.start { config with cache := true } fetchTimeout) answers s ∧
      Converses endpoint visits 0 (.start { config with cache := false } fetchTimeout) answers' s' ∧
      (∀ told t, Converses endpoint visits 0 (.start { config with cache := true } fetchTimeout)
        told t → told = answers) ∧
      (∀ told t, Converses endpoint visits 0 (.start { config with cache := false } fetchTimeout)
        told t → told = answers') ∧
      answers.map (fun a => { a with edns := none }) =
        answers'.map (fun a => { a with edns := none }) ∧
      answers'.map (fun a => { a with edns := none }) = visits.map fun v =>
        { Inquiry.direct config endpoint subnet v.query with edns := none } := by
  have hconverses (cache : Bool) : ∃ answers s,
      Converses endpoint visits 0 (.start { config with cache } fetchTimeout) answers s ∧
        answers.map (fun a => { a with edns := none }) = visits.map fun v =>
          { Inquiry.direct { config with cache } endpoint subnet v.query with edns := none } := by
    have haskable : Askable { config with cache } subnet [] := by
      rintro id input query question ⟨m, hm, -⟩
      cases hm
    have hnone : ∀ m ∈ ([] : List Move), m.Steady endpoint := fun m hm => by cases hm
    have hsubnet : advertised? { config with cache } = some subnet := hsubnet
    exact exists_converses hsubnet hrequests hdelays .start hnone haskable (World.start _ _)
      fun _ => rfl
  obtain ⟨answers, s, hon, hanswers⟩ := hconverses true
  obtain ⟨answers', s', hoff, hanswers'⟩ := hconverses false
  refine ⟨answers, answers', s, s', hon, hoff, fun _ _ h => (h.unique hon).1,
    fun _ _ h => (h.unique hoff).1, ?_, hanswers'⟩
  -- the cache has no part in what is asked without the service
  have hsame (v : Visit) : Inquiry.direct { config with cache := true } endpoint subnet v.query =
      Inquiry.direct { config with cache := false } endpoint subnet v.query := rfl
  rw [hanswers, hanswers']
  simp only [hsame]

/-- Two clients ask about the root, one a second after the other. -/
def rootVisits : List Visit :=
  [⟨0, rootMessage, 20⟩, ⟨1000, { rootMessage with id := 2 }, 20⟩]

/-- The address of the root, which holds for five minutes. -/
def rootAddressBytes : List UInt8 :=
  [0, 0, 128, 0, 0, 0, 0, 1, 0, 0, 0, 0, 0, 0, 1, 0, 1, 0, 0, 1, 44, 0, 4, 192, 0, 2, 1]

/-- Where the endpoint knows the address of the root, two clients cannot tell whether the second one
is given what was found for the first one. -/
theorem cache_is_transparent_root : ∃ answers answers' s s',
    Converses (fun _ => .ok ⟨200, rootAddressBytes⟩) rootVisits 0
      (.start { posting with cache := true } 5000) answers s ∧
    Converses (fun _ => .ok ⟨200, rootAddressBytes⟩) rootVisits 0
      (.start { posting with cache := false } 5000) answers' s' ∧
    answers.map (fun a => { a with edns := none }) =
      answers'.map (fun a => { a with edns := none }) := by
  have hrequests : ∀ v ∈ rootVisits, ∀ question, v.query.question = .ok question →
      ∃ r, Inquiry.request posting v.query question none = .ok r := by
    intro v hv question hquestion
    simp only [rootVisits, List.mem_cons, List.not_mem_nil, or_false] at hv
    rcases hv with rfl | rfl <;> cases hquestion <;> exact ⟨_, rfl⟩
  have hdelays : ∀ v ∈ rootVisits, v.delay < 5000 ∧ v.delay < posting.queryTimeout := by
    decide
  obtain ⟨answers, answers', s, s', hon, hoff, -, -, hsame, -⟩ :=
    @cache_is_transparent posting 5000 none (fun _ => .ok ⟨200, rootAddressBytes⟩) rootVisits rfl
      hrequests hdelays
  exact ⟨answers, answers', s, s', hon, hoff, hsame⟩

end DohRelay.Service
