import DohRelay.Proofs.Cache.Starters
import DohRelay.Proofs.Service.Counting
import DohRelay.Proofs.Service.Progress
import DohRelay.Proofs.Service.ResponseCode
import Mathlib.Data.List.Perm.Subperm

/-!
# Who is charged with a request

A request is sent to the endpoint for the fetch of a client, once, and that client waits for it or
ends with an answer of its own fetch or with nothing; who ends in any other way has caused none.  So
the counters tell how many requests there were at most.

## Main definitions

* `Stage.mayCall` — the stages of those for whom a request may have been sent.
* `Charged` — every request is charged to a client at such a stage; every event keeps this.
* `Handled` — runs whose clients hand in octets and stay.

## Main results

* `Charged.of_observed` — every run charges its requests to clients.
* `Handled.arrivals` — whoever came has a reply or waits.
* `requests_are_accounted_for` — **the counters add up, and bound the requests that were sent.**
-/

namespace DohRelay.Service

open Cache (CallerId)

/-! ### Callers of the cache -/

namespace Effect

variable {s s' : State} {e : Event} {id : CallerId}

/-- Who has started a fetch always has. -/
theorem hasStarted (h : Effect s e s') (hs : s.cache.HasStarted id) : s'.cache.HasStarted id := by
  rcases h.cache_after with hsame | ⟨_, heffect, -⟩
  · exact hsame ▸ hs
  · exact heffect.hasStarted hs

/-- Fetches belong to those who started them. -/
theorem begun (h : Effect s e s') (hs : s.cache.Begun) : s'.cache.Begun := by
  rcases h.cache_after with hsame | ⟨_, heffect, -⟩
  · exact hsame ▸ hs
  · exact hs.effect heffect

/-- A caller who has come to an end in the cache stays as it is. -/
theorem caller_of_isOver (h : Effect s e s') {d : Cache.Caller}
    (hd : s.cache.callers.find? id = some d)
    (hover : Cache.State.CallerPhase.isOver d.phase = true) :
    s'.cache.callers.find? id = some d := by
  rcases h.cache_after with hsame | ⟨_, heffect, -⟩
  · exact hsame ▸ hd
  · obtain ⟨p, hp, rfl | hturn⟩ := heffect.caller_before hd
    · exact hp
    · rw [hturn.isOver] at hover
      cases hover

/-- Nobody comes to the cache except by turning to it. -/
theorem caller_eq_none (h : Effect s e s') (hnone : s.cache.callers.find? id = none)
    (he : e ≠ .ask id) : s'.cache.callers.find? id = none := by
  have hkeep {e : Cache.Event} {cache : Cache.State} (hstep : s.cache.step s.now e = some cache)
      (harrive : ∀ key want, e ≠ .arrive id key want) : cache.callers.find? id = none :=
    (Cache.effect_of_step hstep).find?_eq_none hnone harrive
  cases h with
  | @ask i _ _ _ _ _ _ _ _ hcache =>
    refine hkeep (e := .arrive i _ _) hcache fun key want harrive => he ?_
    cases harrive
    rfl
  | cache own hstep =>
    refine hkeep hstep fun key want harrive => ?_
    subst harrive
    cases own
  | giveUp _ _ _ _ hcache => exact hkeep (e := .leave _) hcache nofun
  | @leave i =>
    change ((s.cache.leave i).getD s.cache).callers.find? id = none
    cases hleave : s.cache.leave i with
    | none => exact hnone
    | some cache => exact hkeep (e := .leave i) hleave nofun
  | finish _ _ hcache => exact hkeep (e := .complete _ _) hcache nofun
  | _ => exact hnone

/-- An errand that has begun goes on, unless a new one takes its place. -/
theorem errand_of_ne_ready (h : Effect s e s') {errand : Errand}
    (herrand : s.errands.find? id = some errand) (hphase : errand.phase ≠ .ready)
    (hcaller : s.cache.callers.find? id ≠ none) :
    ∃ after, s'.errands.find? id = some after ∧ after.phase ≠ .ready := by
  have hset {i : CallerId} {after : Errand} (hafter : after.phase ≠ .ready) :
      ∃ after', (s.errands.insert i after).find? id = some after' ∧ after'.phase ≠ .ready := by
    rw [Table.find?_insert]
    split
    case isTrue => exact ⟨after, rfl, hafter⟩
    case isFalse => exact ⟨errand, herrand, hphase⟩
  cases h with
  | @ask i _ _ _ _ cache _ _ _ hcache =>
    -- who turns to the cache has not been there before
    have hne : id ≠ i := by
      rintro rfl
      have heffect : Cache.Effect s.now s.cache (.arrive id _ .fetched) cache :=
        Cache.effect_of_step hcache
      cases heffect with
      | arrive fresh => exact hcaller fresh
    exact ⟨errand, (Table.find?_insert_of_ne _ hne _).trans herrand, hphase⟩
  | send => exact hset (by simp)
  | finish => exact hset (by simp)
  | _ => exact ⟨errand, herrand, hphase⟩

end Effect

/-! ### Requests -/

/-- Whether a request may have been sent for a client at some stage. -/
def Stage.mayCall : Stage → Bool
  | .locating _ _ => false
  | .asking _ _ _ _ | .gone => true
  | .decided _ _ r | .replied _ r | .told _ r => r = .forwarded || r = .failed

/-- Requests are charged to clients. -/
structure Charged (s : State) : Prop where
  /-- Fetches belong to those who started them. -/
  begun : s.cache.Begun
  /-- Only clients come to the cache. -/
  strangers : ∀ id, s.clients.find? id = none → s.cache.callers.find? id = none
  /-- Those for whom no request was sent start no fetch. -/
  served : ∀ id c, s.clients.find? id = some c → c.stage.mayCall = false →
    ∀ d, s.cache.callers.find? id = some d →
      Cache.State.CallerPhase.isOver d.phase = true ∧ d.phase.hasStarted id = false
  /-- A request is sent for a fetch whose errand has begun. -/
  calls : ∀ call ∈ s.calls, s.cache.HasStarted call.fetch ∧
    ∃ errand, s.errands.find? call.fetch = some errand ∧ errand.phase ≠ .ready
  /-- There is one for each fetch at most. -/
  once : (s.calls.map Call.fetch).Nodup

namespace Charged

variable {s s' : State} {e : Event}

/-- Those for whom no request was sent start no fetch afterwards. -/
theorem served_after (h : Charged s) (he : Effect s e s') {id : CallerId} {c : Client}
    (hc : s'.clients.find? id = some c) (hcall : c.stage.mayCall = false) {d : Cache.Caller}
    (hd : s'.cache.callers.find? id = some d) :
    Cache.State.CallerPhase.isOver d.phase = true ∧ d.phase.hasStarted id = false := by
  have hask : e ≠ .ask id := by
    rintro rfl
    cases he with
    | ask =>
      rw [State.find?_clients_setClient, if_pos rfl, Option.some.injEq] at hc
      rw [← hc] at hcall
      cases hcall
    | enroll hinput => cases hinput
    | finish _ hfinishes => cases hfinishes
  -- whoever was served before is so still
  have hstays {before : Client} (hbefore : s.clients.find? id = some before)
      (hcall : before.stage.mayCall = false) :
      Cache.State.CallerPhase.isOver d.phase = true ∧ d.phase.hasStarted id = false := by
    cases hd₀ : s.cache.callers.find? id with
    | none =>
      rw [he.caller_eq_none hd₀ hask] at hd
      cases hd
    | some d₀ =>
      obtain ⟨hover, hstarted⟩ := h.served id before hbefore hcall d₀ hd₀
      rw [he.caller_of_isOver hd₀ hover, Option.some.injEq] at hd
      exact hd ▸ ⟨hover, hstarted⟩
  rcases he.client_after hc with hsame | ⟨input, hinput⟩ | ⟨before, hbefore, -, hadvance⟩
  · exact hstays hsame hcall
  · -- who has just come is not in the cache
    obtain ⟨hnone, -⟩ := he.client_of_input hinput
    rw [he.caller_eq_none (h.strangers id hnone) hask] at hd
    cases hd
  · generalize c.stage = stage at hcall hadvance
    cases hadvance with
    | ask => cases hcall
    | @answer query answer question subnet since d₀ outcome hstage hd₀ hphase =>
      have hover : Cache.State.CallerPhase.isOver d₀.phase = true := by rw [hphase]; rfl
      rw [he.caller_of_isOver hd₀ hover, Option.some.injEq] at hd
      rw [← hd, hphase]
      cases outcome with
      | fetched => cases hcall
      | hit | joined => exact ⟨rfl, rfl⟩
    | fail => cases hcall
    | reply hstage | tell hstage => exact hstays hbefore (by rw [hstage]; exact hcall)
    | leave => cases hcall

/-- Only clients are in the cache afterwards. -/
theorem strangers_after (h : Charged s) (he : Effect s e s') {id : CallerId}
    (hnone : s'.clients.find? id = none) : s'.cache.callers.find? id = none := by
  have hbefore : s.clients.find? id = none := by
    cases hc : s.clients.find? id with
    | none => rfl
    | some c =>
      obtain ⟨_, hafter, -⟩ := he.client_before hc
      rw [hnone] at hafter
      cases hafter
  refine he.caller_eq_none (h.strangers id hbefore) ?_
  rintro rfl
  cases he with
  | ask hc =>
    rw [hbefore] at hc
    cases hc
  | enroll hinput => cases hinput
  | finish _ hfinishes => cases hfinishes

/-- A request that was sent stays charged. -/
theorem call_after (h : Charged s) (he : Effect s e s') {call : Call} (hcall : call ∈ s.calls) :
    s'.cache.HasStarted call.fetch ∧
      ∃ errand, s'.errands.find? call.fetch = some errand ∧ errand.phase ≠ .ready := by
  obtain ⟨hstarted, errand, herrand, hphase⟩ := h.calls call hcall
  refine ⟨he.hasStarted hstarted, he.errand_of_ne_ready herrand hphase fun hnone => ?_⟩
  obtain ⟨d, hd, -⟩ := hstarted
  rw [hnone] at hd
  cases hd

/-- Requests stay charged, and one that is sent is for a fetch that has had none. -/
theorem calls_after (h : Charged s) (he : Effect s e s') :
    (∀ call ∈ s'.calls, s'.cache.HasStarted call.fetch ∧
      ∃ errand, s'.errands.find? call.fetch = some errand ∧ errand.phase ≠ .ready) ∧
    (s'.calls.map Call.fetch).Nodup := by
  have hold : ∀ call ∈ s.calls, s'.cache.HasStarted call.fetch ∧
      ∃ errand, s'.errands.find? call.fetch = some errand ∧ errand.phase ≠ .ready :=
    fun _ hcall => h.call_after he hcall
  cases he with
  | @send id errand question request herrand hphase hrunning =>
    constructor
    · intro call hcall
      rcases List.mem_append.mp hcall with hcall | hcall
      · exact hold call hcall
      · obtain rfl := List.mem_singleton.mp hcall
        exact ⟨h.begun.of_isRunning hrunning, _, Table.find?_insert_self .., nofun⟩
    · -- the errands of all earlier requests have begun, and this one has not
      have hnew : ∀ call ∈ s.calls, call.fetch ≠ id := by
        rintro call hcall rfl
        obtain ⟨-, errand', herrand', hphase'⟩ := h.calls call hcall
        obtain rfl : errand = errand' := Option.some.inj (herrand.symm.trans herrand')
        exact hphase' hphase
      rw [List.map_append, List.nodup_append]
      refine ⟨h.once, by simp, ?_⟩
      intro a ha b hb hab
      obtain ⟨call, hcall, rfl⟩ := List.mem_map.mp ha
      exact hnew call hcall (hab.trans (List.mem_singleton.mp hb))
  | _ => exact ⟨hold, h.once⟩

/-- **Whatever happens, requests are charged to clients.** -/
theorem effect (h : Charged s) (he : Effect s e s') : Charged s' where
  begun := he.begun h.begun
  strangers _ hnone := h.strangers_after he hnone
  served _ _ hc hcall _ hd := h.served_after he hc hcall hd
  calls := (h.calls_after he).1
  once := (h.calls_after he).2

theorem start (config : Config) (fetchTimeout : Nat) : Charged (.start config fetchTimeout) where
  begun _ _ hf := by cases hf
  strangers _ _ := rfl
  served _ _ hc := by cases hc
  calls _ hcall := by cases hcall
  once := List.nodup_nil

/-- **Every run charges its requests to clients**, whenever the counters are read. -/
theorem of_observed {config : Config} {fetchTimeout : Nat} {moves : List Move}
    {readings : List Stats} (h : Observed config fetchTimeout moves readings s) : Charged s :=
  h.invariant (.start config fetchTimeout) effect fun ih =>
    ⟨ih.begun, ih.strangers, ih.served, ih.calls, ih.once⟩

/-- A request was sent for a client at a stage at which one may have been sent. -/
theorem exists_client (h : Charged s) {call : Call} (hcall : call ∈ s.calls) :
    ∃ c, s.clients.find? call.fetch = some c ∧ c.stage.mayCall = true := by
  obtain ⟨d, hd, hstarted⟩ := (h.calls call hcall).1
  cases hc : s.clients.find? call.fetch with
  | none =>
    rw [h.strangers _ hc] at hd
    cases hd
  | some c =>
    refine ⟨c, rfl, ?_⟩
    cases hmay : c.stage.mayCall with
    | true => rfl
    | false =>
      rw [(h.served _ c hc hmay d hd).2] at hstarted
      cases hstarted

/-- There are no more requests than clients at such a stage. -/
theorem length_calls_le (h : Charged s) (hs : s.clients.Distinct) :
    s.calls.length ≤ s.clients.count fun c => c.stage.mayCall := by
  have hsubset : s.calls.map Call.fetch ⊆
      (s.clients.entries.filter fun entry => entry.2.stage.mayCall).map Prod.fst := by
    intro id hid
    obtain ⟨call, hcall, rfl⟩ := List.mem_map.mp hid
    obtain ⟨c, hc, hmay⟩ := h.exists_client hcall
    exact List.mem_map.mpr
      ⟨(call.fetch, c), List.mem_filter.mpr ⟨hs.find?_eq_some_iff.mp hc, hmay⟩, rfl⟩
  calc s.calls.length = (s.calls.map Call.fetch).length := (List.length_map _).symm
    _ ≤ _ := (h.once.subperm hsubset).length_le
    _ = s.clients.count fun c => c.stage.mayCall := by
      rw [List.length_map, Table.count, List.countP_eq_length_filter]

end Charged

/-! ### Clients who stay -/

/-- All clients hand in octets, and none goes away. -/
def Handled (moves : List Move) : Prop :=
  ∀ m ∈ moves, (∀ id query, m.event ≠ .submit id query) ∧ ∀ id, m.event ≠ .leave id

/-- Whoever has come to an end has a reply. -/
structure Settled (s : State) : Prop where
  /-- All clients hand in octets. -/
  carriers : ∀ id c, s.clients.find? id = some c → c.carrier ≠ none
  /-- None went away. -/
  replies : ∀ id c, s.clients.find? id = some c → c.stage.isOver = true →
    c.stage.reported? ≠ none

/-- Clients who hand in octets and stay come to no other end than a reply. -/
theorem Settled.effect {s s' : State} {e : Event} (h : Settled s) (he : Effect s e s')
    (hsubmit : ∀ id query, e ≠ .submit id query) (hleave : ∀ id, e ≠ .leave id) : Settled s' := by
  rcases he.change with ⟨-, hclients, -⟩ | ⟨id, c, hchange⟩
  · exact ⟨fun i b hb => h.carriers i b (hclients ▸ hb),
      fun i b hb => h.replies i b (hclients ▸ hb)⟩
  · have hcarrier : c.carrier ≠ none := by
      rcases hchange.came with ⟨-, input, hinput, hcarrier⟩ | ⟨-, before, hbefore, -, hcarrier⟩
      · rw [hcarrier]
        cases input with
        | octets => nofun
        | query query =>
          cases e with
          | submit => exact absurd rfl (hsubmit _ _)
          | _ => cases hinput
      · exact hcarrier ▸ h.carriers id before hbefore
    constructor
    · intro i b hb
      rw [hchange.clients] at hb
      rcases Table.find?_insert_eq_some.mp hb with ⟨-, rfl⟩ | ⟨-, hb⟩
      · exact hcarrier
      · exact h.carriers i b hb
    · intro i b hb hover hnone
      rw [hchange.clients] at hb
      rcases Table.find?_insert_eq_some.mp hb with ⟨-, rfl⟩ | ⟨-, hb⟩
      · rcases hchange.ended hover hnone with hgone | hcarrier'
        · exact hleave id hgone
        · exact hcarrier hcarrier'
      · exact h.replies i b hb hover hnone

/-- A client for whom a request may have been sent waits, or has an answer of its own fetch, or
none. -/
theorem Settled.of_mayCall {s : State} (h : Settled s) {id : CallerId} {c : Client}
    (hc : s.clients.find? id = some c) (hmay : c.stage.mayCall = true) :
    c.stage.reported? = some .forwarded ∨ c.stage.reported? = some .failed ∨
      c.stage.isOver = false := by
  have hreplies := h.replies id c hc
  cases hstage : c.stage with
  | locating => simp [hstage, Stage.mayCall] at hmay
  | asking | decided => exact .inr (.inr rfl)
  | replied _ r =>
    simp only [hstage, Stage.mayCall, Bool.or_eq_true, decide_eq_true_eq] at hmay
    exact hmay.imp (congrArg some) fun hfailed => .inl (congrArg some hfailed)
  | told | gone =>
    rw [hstage] at hreplies
    exact absurd rfl (hreplies rfl)

/-- How many of these clients there are. -/
theorem Settled.count_mayCall_le {s : State} (h : Settled s) (hs : s.clients.Distinct) :
    (s.clients.count fun c => c.stage.mayCall) ≤
      s.returned .forwarded + s.returned .failed + s.waiting := by
  have hall : ∀ entry ∈ s.clients.entries, entry.2.stage.mayCall = true →
      entry.2.stage.reported? = some .forwarded ∨ entry.2.stage.reported? = some .failed ∨
        entry.2.stage.isOver = false :=
    fun entry hentry => h.of_mayCall (hs.find?_eq_some_iff.mpr hentry)
  unfold State.returned State.waiting Table.count
  generalize s.clients.entries = entries at hall
  induction entries with
  | nil => exact Nat.le_refl 0
  | cons entry rest ih =>
    obtain ⟨hentry, hrest⟩ := List.forall_mem_cons.mp hall
    have ih := ih hrest
    dsimp only at ih
    simp only [List.countP_cons]
    cases hmay : entry.2.stage.mayCall with
    | false =>
      simp only [Bool.false_eq_true, if_false]
      omega
    | true =>
      rcases hentry hmay with hone | hone | hone <;> simp only [hone] <;> simp <;> omega

namespace Handled

variable {config : Config} {fetchTimeout : Nat} {moves : List Move} {readings : List Stats}
  {s : State}

theorem settled (hmoves : Handled moves) (h : Observed config fetchTimeout moves readings s) :
    Settled s := by
  induction h with
  | start => constructor <;> simp [State.start]
  | move m _ ih =>
    obtain ⟨hsubmit, hleave⟩ := hmoves m List.mem_cons_self
    exact (ih fun m' hm' => hmoves m' (List.mem_cons_of_mem _ hm')).effect m.effect hsubmit hleave
  | read _ ih => exact ⟨(ih hmoves).carriers, (ih hmoves).replies⟩

/-- **Whoever came has a reply or waits.** -/
theorem arrivals (hmoves : Handled moves) (h : Observed config fetchTimeout moves readings s) :
    (moves.countP fun m => m.event.input?.isSome) = s.replies + s.waiting := by
  induction h with
  | start => rfl
  | @move moves readings m run ih =>
    have hearlier : Handled moves := fun m' hm' => hmoves m' (List.mem_cons_of_mem _ hm')
    have hdistinct := run.tallied.distinct
    have hsettled := hmoves.settled (.move m run)
    rw [List.countP_cons, ih hearlier]
    rcases m.effect.change with ⟨hinput, hclients, -⟩ | ⟨id, c, hchange⟩
    · rw [hinput, State.replies, State.replies, State.waiting, State.waiting, hclients]
      rfl
    · have hreplies := hchange.replies_eq hdistinct
      have hwaiting := hchange.waiting_eq hdistinct
      have hc : m.after.clients.find? id = some c := by
        rw [hchange.clients]
        exact Table.find?_insert_self ..
      -- a client who has come to an end has a reply, so it is counted on one side only
      have hone : c.stage.reported?.isSome.toNat + (!c.stage.isOver).toNat = 1 := by
        cases hover : c.stage.isOver with
        | false =>
          rw [Stage.reported?_of_not_isOver hover]
          rfl
        | true =>
          cases hreported : c.stage.reported? with
          | none => exact absurd hreported (hsettled.replies id c hc hover)
          | some r => rfl
      cases hinput : m.event.input? with
      | none =>
        rw [if_pos hinput] at hwaiting
        simp only [Option.isSome_none, Bool.false_eq_true, if_false]
        omega
      | some input =>
        rw [if_neg (by simp [hinput])] at hwaiting
        simp only [Option.isSome_some, if_true]
        omega
  | read _ ih => exact ih hmoves

end Handled

/-- **The counters add up, and bound the requests that were sent.**  The clients hand in octets and
stay, and the counters may be read at any time.  What was read of them and what they tell, taken
together, is how many clients have a reply, all of them and those with each resolution, but for the
counters' wrapping around, which takes as many replies as 64 bits can tell.  Whoever came has a
reply or waits.  Each request was sent for another client, and that client waits, or has an answer
of its own fetch, or none. -/
theorem requests_are_accounted_for {config : Config} {fetchTimeout : Nat} {moves : List Move}
    {readings : List Stats} {s : State} (h : Observed config fetchTimeout moves readings s)
    (hmoves : Handled moves) :
    CountedBy s.replies (total Stats.requests readings s) ∧
    (∀ r, CountedBy (s.returned r) (total (Stats.counter r) readings s)) ∧
    (s.replies < UInt64.size →
      total Stats.requests readings s = s.replies ∧
      total Stats.requests readings s =
        total Stats.cached readings s + total Stats.forwarded readings s +
          total Stats.shared readings s + total Stats.synthesized readings s +
          total Stats.failed readings s ∧
      s.calls.length ≤
        total Stats.forwarded readings s + total Stats.failed readings s + s.waiting) ∧
    (moves.countP fun m => m.event.input?.isSome) = s.replies + s.waiting ∧
    s.calls.length ≤ s.returned .forwarded + s.returned .failed + s.waiting ∧
    (s.calls.map Call.fetch).Nodup ∧
    ∀ call ∈ s.calls, ∃ c, s.clients.find? call.fetch = some c ∧
      (c.stage.reported? = some .forwarded ∨ c.stage.reported? = some .failed ∨
        c.stage.isOver = false) := by
  have htallied := h.tallied
  have hcharged := Charged.of_observed h
  have hsettled := hmoves.settled h
  have hcalls : s.calls.length ≤ s.returned .forwarded + s.returned .failed + s.waiting :=
    (hcharged.length_calls_le htallied.distinct).trans (hsettled.count_mayCall_le htallied.distinct)
  refine ⟨htallied.requests, htallied.resolutions, fun hbound => ?_, hmoves.arrivals h, hcalls,
    hcharged.once, fun call hcall => ?_⟩
  · -- no counter has wrapped around
    have hsum := s.replies_eq
    have hcached : s.returned .cached = total Stats.cached readings s :=
      (htallied.resolutions .cached).eq_of_lt (by omega)
    have hforwarded : s.returned .forwarded = total Stats.forwarded readings s :=
      (htallied.resolutions .forwarded).eq_of_lt (by omega)
    have hshared : s.returned .shared = total Stats.shared readings s :=
      (htallied.resolutions .shared).eq_of_lt (by omega)
    have hsynthesized : s.returned .synthesized = total Stats.synthesized readings s :=
      (htallied.resolutions .synthesized).eq_of_lt (by omega)
    have hfailed : s.returned .failed = total Stats.failed readings s :=
      (htallied.resolutions .failed).eq_of_lt (by omega)
    have hrequests := htallied.requests.eq_of_lt hbound
    refine ⟨hrequests.symm, by omega, ?_⟩
    · rw [← hforwarded, ← hfailed]
      exact hcalls
  · obtain ⟨c, hc, hmay⟩ := hcharged.exists_client hcall
    exact ⟨c, hc, hsettled.of_mayCall hc hmay⟩

/-- A client is told what the endpoint sent, and then the counters are read. -/
theorem requests_are_accounted_for_reading : ∃ moves readings s,
    Observed posting 5000 moves readings s ∧ Handled moves ∧ s.stats = .zero ∧
      s.replies < UInt64.size ∧ s.calls.length = 1 ∧ total Stats.requests readings s = 1 ∧
      s.calls.length ≤
        total Stats.forwarded readings s + total Stats.failed readings s + s.waiting := by
  have hplay : ∃ s, (State.start posting 5000).play badVersionEvents = some s ∧ s.replies = 1 ∧
      s.calls.length = 1 := by
    simp only [badVersionEvents, State.play, State.step, State.arrive, decode_rootQuery,
      State.respond, Except.bind, Inquiry.conclude, Inquiry.readAnswer, Wire.answer,
      Dns.decode_badVersionBytes]
    exact ⟨_, rfl, rfl, rfl⟩
  obtain ⟨s, hs, hreplies, hcalls⟩ := hplay
  obtain ⟨moves, hrun, hmap⟩ := Run.of_play hs
  have hevents : ∀ e ∈ badVersionEvents,
      (∀ id query, e ≠ .submit id query) ∧ ∀ id, e ≠ .leave id := by
    simp [badVersionEvents]
  have hmoves : Handled moves := fun m hm =>
    hevents m.event (List.mem_reverse.mp (hmap ▸ List.mem_map_of_mem hm))
  have hread : Observed posting 5000 moves [s.takeSnapshot.1] s.takeSnapshot.2 :=
    .read hrun.observed
  have hbound : s.takeSnapshot.2.replies < UInt64.size := by
    change s.replies < UInt64.size
    rw [hreplies]
    decide
  obtain ⟨-, -, hcount, -⟩ := requests_are_accounted_for hread hmoves
  obtain ⟨hrequests, -, hbounded⟩ := hcount hbound
  exact ⟨moves, _, _, hread, hmoves, rfl, hbound, hcalls, hrequests.trans hreplies, hbounded⟩

end DohRelay.Service
