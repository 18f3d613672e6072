import DohRelay.Proofs.Cache.Departure
import DohRelay.Proofs.Cache.SingleFlight
import DohRelay.Proofs.Service.Run

/-!
# Clients who are dropped

A client who has waited too long for the cache, or who goes away, is dropped there as a caller, and
nothing else happens to the cache.  Since a caller who is dropped past the step to the markers
leaves no trace, neither the stored answers nor the fetches nor the other callers depend on who is
dropped.

## Main results

* `Move.cache_of_giveUp`, `Move.cache_of_leave` — what a client who is dropped does to the cache.
* `departures_leave_no_trace` — **the cache and all other callers are as if nobody had been
  dropped.**
-/

namespace DohRelay.Service

open Cache (CallerId Act Late Silent Alike)

/-- Whoever has waited too long for the cache leaves it, past the step to the markers. -/
theorem Move.cache_of_giveUp {m : Move} {id : CallerId} (hevent : m.event = .giveUp id) :
    m.before.cache.leave id = some m.after.cache ∧
      ∃ c, m.before.cache.callers.find? id = some c ∧ c.phase.isPast = true := by
  have heffect := m.effect
  rw [hevent] at heffect
  generalize m.after = s' at heffect
  cases heffect with
  | enroll hinput => cases hinput
  | finish _ hfinishes => cases hfinishes
  | giveUp _ _ _ hidle hcache =>
    refine ⟨hcache, ?_⟩
    unfold Cache.State.leave at hcache
    split at hcache
    case h_2 => cases hcache
    case h_1 c hc =>
      refine ⟨c, hc, ?_⟩
      -- callers before that step have something to do in the cache
      cases hp : c.phase with
      | arrived | dropping | entering => simp [Cache.State.callerEvent?, hc, hp] at hidle
      | _ => rfl

/-- Whoever goes away leaves the cache, unless the caller there has come to an end or never came. -/
theorem Move.cache_of_leave {m : Move} {id : CallerId} (hevent : m.event = .leave id) :
    m.after.cache = (m.before.cache.leave id).getD m.before.cache := by
  have heffect := m.effect
  rw [hevent] at heffect
  generalize m.after = s' at heffect
  cases heffect with
  | enroll hinput => cases hinput
  | finish _ hfinishes => cases hfinishes
  | leave => rfl

/-- **The cache and all other callers are as if nobody had been dropped.**  Take a plan of events
and of callers being dropped, each of them past the step to the markers.  If the events of the plan
can happen, so can those that are left when who is dropped does nothing more; and the other way
round if the plan has no events of who was dropped before.  At any time, the two caches hold the
same answers, markers and fetches then, and all other callers have come as far, with the same
results.  In the service, a client who waited too long for the cache is dropped there past that
step, and one who goes away is dropped as well. -/
theorem departures_leave_no_trace :
    (∀ timeout plan, Late (.start true timeout) plan →
      ((∃ s, (Cache.State.start true timeout).play (Cache.events plan) = some s) ∨
        Silent [] plan ∧ ∃ t, (Cache.State.start true timeout).playCut [] plan = some t) →
      ∀ done, done <+: plan →
        ∃ s t, (Cache.State.start true timeout).play (Cache.events done) = some s ∧
          (Cache.State.start true timeout).playCut [] done = some t ∧
          Alike (Cache.aborted done) s t) ∧
    ∀ m : Move, ∀ id,
      (m.event = .giveUp id → m.before.cache.leave id = some m.after.cache ∧
        ∃ c, m.before.cache.callers.find? id = some c ∧ c.phase.isPast = true) ∧
      (m.event = .leave id →
        m.after.cache = (m.before.cache.leave id).getD m.before.cache) := by
  refine ⟨fun timeout plan hlate hruns done hdone => ?_,
    fun m id => ⟨Move.cache_of_giveUp, Move.cache_of_leave⟩⟩
  obtain ⟨rest, rfl⟩ := hdone
  have halike : Alike [] (.start true timeout) (.start true timeout) := .refl _
  rcases hruns with ⟨last, hplay⟩ | ⟨hsilent, last, hcut⟩
  · rw [Cache.events_append] at hplay
    obtain ⟨s, hs⟩ := Cache.State.exists_play_of_append hplay
    obtain ⟨t, ht, hst⟩ := halike.playCut rfl (by simp) hlate.of_append hs
    exact ⟨s, t, hs, ht, by rwa [List.append_nil] at hst⟩
  · obtain ⟨t, ht⟩ := Cache.State.exists_playCut_of_append hcut
    obtain ⟨s, hs, hst⟩ := halike.play_events rfl hsilent.of_append ht
    exact ⟨s, t, hs, ht, by rwa [List.append_nil] at hst⟩

/-- Two callers wait for a fetch, and the one who started it is dropped. -/
def startedThenDropped : List (Nat × Act) :=
  (Cache.sharedFetch.take 6).map Act.ofEvent ++
    (40, .abort 0) :: ((Cache.sharedFetch.drop 6).map Act.ofEvent ++ [])

/-- Where the starter of a fetch is dropped, the other caller has its answer all the same. -/
theorem departures_leave_no_trace_starter :
    ∃ s t, (Cache.State.start true 5000).play Cache.sharedFetch = some s ∧
      (Cache.State.start true 5000).playCut [] startedThenDropped = some t ∧
      s.callers.find? 0 = some ⟨Cache.rootKey, .fetched, .answered Cache.rootAnswer .fetched⟩ ∧
      t.callers.find? 0 = some ⟨Cache.rootKey, .fetched, .gone⟩ ∧
      t.callers.find? 1 = some ⟨Cache.rootKey, .fetched, .answered Cache.rootAnswer .joined⟩ ∧
      Alike [0] s t := by
  have hlate : Late (.start true 5000) startedThenDropped := by
    refine .append fun s hs => ⟨?_, .append fun _ _ => trivial⟩
    -- by then the starter waits for the fetch
    obtain ⟨s', hs', hwaiting⟩ : ∃ s', (Cache.State.start true 5000).play
        (Cache.sharedFetch.take 6) = some s' ∧
        s'.callers.find? 0 = some ⟨Cache.rootKey, .fetched, .waiting 0 .fetched⟩ := ⟨_, rfl, rfl⟩
    rw [hs, Option.some.injEq] at hs'
    exact ⟨_, hs' ▸ hwaiting, rfl⟩
  have hplay : ∃ s, (Cache.State.start true 5000).play Cache.sharedFetch = some s ∧
      s.callers.find? 0 = some ⟨Cache.rootKey, .fetched, .answered Cache.rootAnswer .fetched⟩ ∧
      s.callers.find? 1 = some ⟨Cache.rootKey, .fetched, .answered Cache.rootAnswer .joined⟩ :=
    ⟨_, rfl, rfl, rfl⟩
  have hcut : ∃ t, (Cache.State.start true 5000).playCut [] startedThenDropped = some t ∧
      t.callers.find? 0 = some ⟨Cache.rootKey, .fetched, .gone⟩ := ⟨_, rfl, rfl⟩
  obtain ⟨s', hs', hs0, hs1⟩ := hplay
  obtain ⟨t', ht', ht0⟩ := hcut
  obtain ⟨s, t, hs, ht, halike⟩ := departures_leave_no_trace.1 5000 startedThenDropped hlate
    (.inl ⟨s', hs'⟩) _ (List.prefix_refl _)
  obtain rfl := Option.some.inj (hs'.symm.trans hs)
  obtain rfl := Option.some.inj (ht'.symm.trans ht)
  exact ⟨_, _, hs, ht, hs0, ht0, (halike.callers 1 (by decide)).trans hs1, halike⟩

end DohRelay.Service
