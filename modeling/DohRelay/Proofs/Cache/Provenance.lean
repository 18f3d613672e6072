import DohRelay.Proofs.Cache.SingleFlight

/-!
# Where stored answers come from

Every stored answer is what a fetch for its key came to, and is kept for the least time that one of
its records may be kept.  Whoever is answered from the cache gets it as it was stored, and before
that time is over.  Fetches that come to nothing worth keeping leave the stored answers alone.

## Main definitions

* `Keepable` — answers that may be kept, and for how long.
* `Obtained` — an answer is what a fetch for a key came to at some time.
* `Backed` — an entry is a kept answer that was obtained for its key.
* `Event.fetch?`, `FetchPhase.result?` — the fetch that an event belongs to, and what one came to.

## Main results

* `cacheTtl_eq_some_iff` — the time to keep an answer is as `Keepable` says.
* `Run.backed` — every entry of a run is backed.
* `answers_are_fresh` — **what is stored was fetched, and what is served from the store holds.**
-/

namespace DohRelay.Cache

/-! ### What may be kept -/

/-- An answer may be kept for some seconds: it is no error, and of the times to live among its
answers, of which there are some, this is the least and not zero. -/
structure Keepable (answer : Dns.Message) (ttl : UInt32) : Prop where
  /-- It is no error. -/
  noError : answer.rcode = .noError
  /-- Some record may be kept for this time. -/
  attained : ∃ r ∈ answer.answers, r.ttl = ttl
  /-- No record may be kept for less. -/
  least : ∀ r ∈ answer.answers, ttl ≤ r.ttl
  /-- It is a second at least. -/
  positive : 1 ≤ ttl

private theorem one_le_iff_ne_zero {n : UInt32} : 1 ≤ n ↔ n ≠ 0 := by
  rw [UInt32.le_iff_toNat_le, ne_eq, ← UInt32.toNat_inj]
  simp only [UInt32.reduceToNat]
  omega

/-- The time to keep an answer. -/
theorem cacheTtl_eq_some_iff {answer : Dns.Message} {ttl : UInt32} :
    cacheTtl answer = some ttl ↔ Keepable answer ttl := by
  have hmin : answer.minTtl = some ttl ↔
      (∃ r ∈ answer.answers, r.ttl = ttl) ∧ ∀ r ∈ answer.answers, ttl ≤ r.ttl := by
    rw [Dns.Message.minTtl, List.min?_eq_some_iff]
    simp only [List.mem_map, forall_exists_index, and_imp, forall_apply_eq_imp_iff₂]
  constructor
  · intro h
    unfold cacheTtl at h
    split at h
    case isFalse => cases h
    case isTrue hcode =>
      obtain ⟨hsome, hne⟩ := Option.filter_eq_some_iff.mp h
      obtain ⟨hattained, hleast⟩ := hmin.mp hsome
      exact ⟨hcode, hattained, hleast, one_le_iff_ne_zero.mpr (of_decide_eq_true hne)⟩
  · intro h
    rw [cacheTtl, if_pos h.noError, hmin.mpr ⟨h.attained, h.least⟩]
    simp [one_le_iff_ne_zero.mp h.positive]

/-! ### What a run has obtained -/

/-- An answer is what a fetch for a key, started by a move, came to at some time. -/
def Obtained (moves : List Move) (id : CallerId) (key : Fingerprint) (answer : Dns.Message)
    (time : Nat) : Prop :=
  (∃ first ∈ moves, ∃ f, first.Starts id f ∧ f.key = key ∧ first.time ≤ time) ∧
    ∃ last ∈ moves, last.event = .complete id (.ok answer) ∧ last.time = time

/-- An entry is a kept answer that was obtained for its key before it was stored, or at that very
time if what the cache does by itself takes none. -/
structure Backed (moves : List Move) (key : Fingerprint) (e : Entry) : Prop where
  /-- The answer may be kept for the time it is kept. -/
  keepable : Keepable e.answer e.ttl
  /-- A fetch for the key came to it, and then it was stored. -/
  source : ∃ id time, Obtained moves id key e.answer time ∧ time ≤ e.storedAt ∧
    (Prompt moves → time = e.storedAt) ∧ ∃ m ∈ moves, m.event = .store id ∧ m.time = e.storedAt

theorem Prompt.suffix {moves earlier : List Move} (h : Prompt moves) (hs : earlier <:+ moves) :
    Prompt earlier :=
  List.IsChain.suffix h hs

/-- The clock does not move on from the latest time while a result is on its way to the store. -/
theorem Prompt.time_le {m : Move} {moves : List Move} (h : Prompt (m :: moves))
    (hunsettled : m.before.Unsettled) {last : Move} (hlast : last ∈ moves) {time : Nat}
    (htime : ∀ m' ∈ moves, m'.time ≤ time) : m.time ≤ time := by
  cases moves with
  | nil => cases hlast
  | cons previous rest =>
    have heq := (List.isChain_cons_cons.mp h).1 hunsettled
    exact heq ▸ htime previous List.mem_cons_self

theorem Obtained.mono {moves more : List Move} {id : CallerId} {key : Fingerprint}
    {answer : Dns.Message} {time : Nat} (h : Obtained moves id key answer time)
    (hsub : moves ⊆ more) : Obtained more id key answer time := by
  obtain ⟨⟨first, hfirst, hstarts⟩, last, hlast, hevent⟩ := h
  exact ⟨⟨first, hsub hfirst, hstarts⟩, last, hsub hlast, hevent⟩

theorem Backed.mono {moves more : List Move} {key : Fingerprint} {e : Entry}
    (h : Backed moves key e) (hsuffix : moves <:+ more) : Backed more key e := by
  obtain ⟨id, time, hobtained, hle, hprompt, m, hm, hstore⟩ := h.source
  exact ⟨h.keepable, id, time, hobtained.mono hsuffix.subset, hle,
    fun hmore => hprompt (hmore.suffix hsuffix), m, hsuffix.subset hm, hstore⟩

/-! ### Entries -/

/-- What is left when an answer was dropped was there. -/
theorem Entries.find?_of_drop {es : Entries} {key k : Fingerprint} {time : Nat} {entry : Entry}
    (h : (es.drop k time).find? key = some entry) : es.find? key = some entry := by
  rw [Entries.find?_drop] at h
  split at h
  case isTrue => cases h
  case isFalse => exact h

/-- Where an entry came from: it was there, or a fetch has just left it. -/
theorem Effect.entry_after {now : Nat} {s s' : State} {e : Event} (he : Effect now s e s')
    {key : Fingerprint} {entry : Entry} (hentry : s'.entries.find? key = some entry) :
    s.entries.find? key = some entry ∨
      ∃ id f, e = .store id ∧ s.fetches.find? id = some f ∧ f.key = key ∧
        f.phase = .ended (.ok entry.answer) ∧ cacheTtl entry.answer = some entry.ttl ∧
        entry.storedAt = now := by
  cases he with
  | drop | start => exact .inl (Entries.find?_of_drop hentry)
  | @keep id f answer ttl hf hp hon httl =>
    rcases Table.find?_insert_eq_some.mp hentry with ⟨hkey, rfl⟩ | ⟨-, hentry⟩
    · exact .inr ⟨id, f, rfl, hf, hkey.symm, hp, httl, rfl⟩
    · exact .inl hentry
  | _ => exact .inl hentry

/-- The fetch that an event belongs to. -/
def Event.fetch? : Event → Option CallerId
  | .complete id _ | .expire id | .crash id | .store id | .release id => some id
  | _ => none

/-- What a fetch has come to. -/
def FetchPhase.result? : FetchPhase → Option FetchResult
  | .ended result | .stored result | .released result => some result
  | _ => none

/-- A fetch that has come to nothing worth keeping changes no entry. -/
theorem Effect.entries_eq {now : Nat} {s s' : State} {e : Event} (he : Effect now s e s')
    {id : CallerId} {f : Fetch} (hid : e.fetch? = some id) (hf : s'.fetches.find? id = some f)
    (hbarren : ∀ answer ttl, f.phase.result? = some (.ok answer) → ¬ Keepable answer ttl) :
    s'.entries = s.entries := by
  cases he with
  | @keep i g answer ttl hg hp hon httl =>
    cases hid
    rw [State.find?_fetches_setFetch, if_pos rfl, Option.some.injEq] at hf
    subst hf
    exact absurd (cacheTtl_eq_some_iff.mp httl) (hbarren answer ttl rfl)
  | complete | expire | crash | pass | release => rfl
  | _ => cases hid

/-- What a caller is answered from the cache is an entry that holds. -/
theorem Effect.entry_of_hit {now : Nat} {s s' : State} {e : Event} (he : Effect now s e s')
    {id : CallerId} {c : Caller} {answer : Dns.Message} (hc : s.callers.find? id = some c)
    (hc' : s'.callers.find? id = some { c with phase := .answered answer .hit })
    (hnew : c.phase ≠ .answered answer .hit)
    (hwaiting : ∀ fetch, c.phase ≠ .waiting fetch .hit) :
    ∃ entry, s.entries.find? c.key = some entry ∧ entry.answer = answer ∧
      now < entry.expiresAt := by
  have hset {i : CallerId} {d : Caller} {p : CallerPhase} {t : State}
      (hd : s.callers.find? i = some d) (ht : t.callers = s.callers)
      (h : (t.setCaller i d p).callers.find? id = some { c with phase := .answered answer .hit }) :
      c = d ∧ p = .answered answer .hit := by
    rcases Table.find?_insert_eq_some.mp h with ⟨rfl, hphase⟩ | ⟨-, h⟩
    · exact ⟨Option.some.inj (hc.symm.trans hd), congrArg Caller.phase hphase⟩
    · rw [ht, hc, Option.some.injEq] at h
      exact absurd (congrArg Caller.phase h) hnew
  -- a caller whose phase stays was not answered by this event
  have hold {t : State} (ht : t.callers = s.callers)
      (h : t.callers.find? id = some { c with phase := .answered answer .hit }) : False := by
    rw [ht, hc, Option.some.injEq] at h
    exact hnew (congrArg Caller.phase h)
  cases he with
  | @arrive i _ _ fresh =>
    have hi : id ≠ i := by
      rintro rfl
      rw [fresh] at hc
      cases hc
    rw [Table.find?_insert_of_ne _ hi, hc, Option.some.injEq] at hc'
    exact absurd (congrArg Caller.phase hc') hnew
  | hit hd _ _ hentry hholds | lateHit hd _ _ hentry hholds =>
    obtain ⟨rfl, hp⟩ := hset hd rfl hc'
    cases hp
    exact ⟨_, hentry, rfl, hholds⟩
  | stale hd | refuse hd | bypass hd | join hd | start hd | takeError hd | leave hd | leaveOff hd =>
    cases (hset hd rfl hc').2
  | @miss _ d hd | @drop _ d _ hd =>
    have hp := (hset hd rfl hc').2
    cases hw : d.want <;> rw [hw] at hp <;> cases hp
  | takeAnswer hd hq =>
    obtain ⟨rfl, hp⟩ := hset hd rfl hc'
    cases hp
    exact absurd hq (hwaiting _)
  | _ => exact (hold rfl hc').elim

namespace Run

variable {enabled : Bool} {timeout : Nat} {moves : List Move} {s : State}

/-- Nobody waits for an answer from the cache. -/
theorem ne_waiting_hit (h : Run enabled timeout moves s) {id : CallerId} {c : Caller}
    (hc : s.callers.find? id = some c) (fetch : CallerId) : c.phase ≠ .waiting fetch .hit := by
  induction h generalizing c with
  | start => simp [State.start] at hc
  | move m _ _ ih =>
    rcases m.effect.caller_after hc with hbefore | harrived | ⟨d, -, -, hgo⟩
    · exact ih hbefore
    · simp [harrived]
    · exact hgo.ne_waiting_hit

/-- What a fetch came to and is yet to store, it was obtained for its key, at the latest time if
what the cache does by itself takes none. -/
theorem obtained (h : Run true timeout moves s) {id : CallerId} {f : Fetch} {answer : Dns.Message}
    (hf : s.fetches.find? id = some f) (hp : f.phase = .ended (.ok answer)) :
    ∃ time, Obtained moves id f.key answer time ∧
      (Prompt moves → ∀ m ∈ moves, m.time ≤ time) := by
  induction h generalizing f with
  | start => simp [State.start] at hf
  | @move moves m run later ih =>
    rcases m.effect.fetch_after run.enabled_eq hf with hbefore | hstarting | ⟨g, hg, hfg, hgo⟩
    · -- the result was on its way already, so a prompt clock has not moved on since
      obtain ⟨time, hobtained, hlatest⟩ := ih hbefore hp
      refine ⟨time, hobtained.mono (List.subset_cons_self _ _), fun hprompt => ?_⟩
      have hmoves := hlatest (hprompt.suffix (List.suffix_cons _ _))
      obtain ⟨-, last, hlast, -⟩ := hobtained
      exact List.forall_mem_cons.mpr
        ⟨hprompt.time_le ⟨id, f, _, hbefore, hp⟩ hlast hmoves, hmoves⟩
    · rw [hstarting.fetch.2] at hp
      cases hp
    · -- the fetch has come to its result by this very move
      obtain ⟨first, hfirst, g', hstarts, hkey, -⟩ := run.exists_starts hg
      have hevent : m.event = .complete id (.ok answer) := by
        rw [hp] at hgo
        generalize g.phase = p, m.event = e at hgo
        cases hgo
        rfl
      refine ⟨m.time, ⟨⟨first, List.mem_cons_of_mem _ hfirst, g', hstarts, ?_, later _ hfirst⟩, m,
        List.mem_cons_self, hevent, rfl⟩, fun _ => ?_⟩
      · rw [hkey, hfg]
      · exact List.forall_mem_cons.mpr ⟨le_rfl, later⟩

/-- Every entry of a cache that is switched on is backed. -/
theorem backed_of_on (h : Run true timeout moves s) {key : Fingerprint} {e : Entry}
    (he : s.entries.find? key = some e) : Backed moves key e := by
  induction h with
  | start => simp [State.start] at he
  | @move moves m run later ih =>
    rcases m.effect.entry_after he with hbefore | ⟨id, f, hevent, hf, hkey, hp, httl, htime⟩
    · exact (ih hbefore).mono (List.suffix_cons _ _)
    · obtain ⟨time, hobtained, hlatest⟩ := run.obtained hf hp
      have hlast := hobtained
      obtain ⟨_, last, hlast, _, hlasttime⟩ := hlast
      have hle : time ≤ e.storedAt := by rw [htime, ← hlasttime]; exact later last hlast
      refine ⟨cacheTtl_eq_some_iff.mp httl, id, time,
        hkey ▸ hobtained.mono (List.subset_cons_self _ _), hle, fun hprompt => ?_,
        m, List.mem_cons_self, hevent, htime.symm⟩
      -- stored no earlier than obtained, and no later where storing takes no time
      have hge := hprompt.time_le ⟨id, f, _, hf, hp⟩ hlast
        (hlatest (hprompt.suffix (List.suffix_cons _ _)))
      exact le_antisymm hle (htime ▸ hge)

/-- A cache that is switched off holds no answers and no markers. -/
theorem eq_empty_of_off (h : Run false timeout moves s) :
    s.entries = .empty ∧ s.markers = .empty := by
  let P (s : State) := s.entries = .empty ∧ s.markers = .empty
  refine h.invariant (P := P) ⟨rfl, rfl⟩ fun {now s e s'} hoff ih he => ?_
  obtain ⟨hentries, hmarkers⟩ := ih
  have hdrop (key : Fingerprint) (time : Nat) : s.entries.drop key time = .empty := by
    rw [hentries]
    rfl
  cases he with
  | drop => exact ⟨hdrop _ _, hmarkers⟩
  | start => exact ⟨hdrop _ _, by simp [State.startFetch, State.setCaller, hoff, hmarkers]⟩
  | bypass => exact ⟨hentries, by simp [State.startFetch, State.setCaller, hoff, hmarkers]⟩
  | keep _ _ hon =>
    rw [hoff] at hon
    cases hon
  | release => exact ⟨hentries, by rw [State.markers_setFetch, hmarkers]; rfl⟩
  | _ => exact ⟨hentries, hmarkers⟩

/-- Every entry is backed. -/
theorem backed (h : Run enabled timeout moves s) {key : Fingerprint} {e : Entry}
    (he : s.entries.find? key = some e) : Backed moves key e := by
  cases enabled with
  | true => exact h.backed_of_on he
  | false =>
    rw [h.eq_empty_of_off.1, Table.find?_empty] at he
    cases he

end Run

/-- **What is stored was fetched, and what is served from the store holds.**  Every entry is an
answer that a fetch for its key came to, without error and with records, kept for the least time to
live among them, which is a second at least.  It was stored no earlier than the fetch came to it,
and at that very time if what the cache does by itself takes none.  Whoever is answered from the
cache is given an entry under its key as it was stored, and before its time is over.  A fetch that
fails, takes too long or comes to an answer that may not be kept changes no entry, and a cache that
is switched off holds no entries and no markers. -/
theorem answers_are_fresh {enabled : Bool} {timeout : Nat} {moves : List Move} {s : State}
    (h : Run enabled timeout moves s) :
    (∀ key e, s.entries.find? key = some e → Backed moves key e) ∧
    (∀ m ∈ moves, ∀ id c answer, m.Serves id c answer →
      ∃ e, m.before.entries.find? c.key = some e ∧ e.answer = answer ∧ Backed moves c.key e ∧
        e.storedAt ≤ m.time ∧ m.time < e.storedAt + e.ttl.toNat * 1000) ∧
    (∀ m ∈ moves, ∀ id f, m.event.fetch? = some id → m.after.fetches.find? id = some f →
      (∀ answer ttl, f.phase.result? = some (.ok answer) → ¬ Keepable answer ttl) →
      m.after.entries = m.before.entries) ∧
    (enabled = false → s.entries = .empty ∧ s.markers = .empty) := by
  refine ⟨fun key e => h.backed, fun m hm id c answer hserves => ?_,
    fun m _ id f hid hf hbarren => m.effect.entries_eq hid hf hbarren, ?_⟩
  · obtain ⟨earlier, hsuffix, hrun, htime⟩ := h.exists_before hm
    obtain ⟨hc, hc', hnew⟩ := hserves
    obtain ⟨e, he, hanswer, hholds⟩ := m.effect.entry_of_hit hc hc' hnew (hrun.ne_waiting_hit hc)
    have hbacked := hrun.backed he
    obtain ⟨-, -, -, -, -, stored, hstored, -, hstoredAt⟩ := hbacked.source
    exact ⟨e, he, hanswer, hbacked.mono ((List.suffix_cons _ _).trans hsuffix),
      hstoredAt ▸ htime stored hstored, hholds⟩
  · rintro rfl
    exact h.eq_empty_of_off

/-- An answer with a time to live of five minutes is served in the last millisecond of them. -/
theorem answers_are_fresh_lastMillisecond :
    ∃ moves s, Run true 5000 moves s ∧ ∃ m ∈ moves, m.time = 300069 ∧
      m.Serves 2 ⟨rootKey, .stored, .arrived⟩ rootAnswer ∧
      ∃ e, m.before.entries.find? rootKey = some e ∧ e.answer = rootAnswer ∧
        Backed moves rootKey e ∧ e.storedAt ≤ m.time ∧
        m.time < e.storedAt + e.ttl.toNat * 1000 := by
  let events := sharedFetch ++ [(300069, .arrive 2 rootKey .stored)]
  have hplay : ∃ s s', (State.start true 5000).play events = some s ∧
      s.step 300069 (.look 2) = some s' ∧
      s.callers.find? 2 = some ⟨rootKey, .stored, .arrived⟩ ∧
      s'.callers.find? 2 = some ⟨rootKey, .stored, .answered rootAnswer .hit⟩ :=
    ⟨_, _, rfl, rfl, rfl, rfl⟩
  obtain ⟨s, s', hs, hstep, hc, hc'⟩ := hplay
  obtain ⟨moves, hrun, hmap⟩ := Run.of_play (by decide) hs
  let m : Move := ⟨300069, .look 2, s, s', hstep⟩
  have hlater : ∀ earlier ∈ moves, earlier.time ≤ m.time := by
    intro earlier hearlier
    have hmem : (earlier.time, earlier.event) ∈ events.reverse := by
      rw [← hmap]
      exact List.mem_map_of_mem hearlier
    have hle : ∀ x ∈ events.reverse, x.1 ≤ 300069 := by decide
    exact hle _ hmem
  have hserves : m.Serves 2 ⟨rootKey, .stored, .arrived⟩ rootAnswer := ⟨hc, hc', by simp⟩
  have hall : Run true 5000 (m :: moves) s' := .move m hrun hlater
  exact ⟨m :: moves, s', hall, m, List.mem_cons_self, rfl, hserves,
    (answers_are_fresh hall).2.1 m List.mem_cons_self 2 _ _ hserves⟩

end DohRelay.Cache
