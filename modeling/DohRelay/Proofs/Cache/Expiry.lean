import DohRelay.Proofs.Cache.Lookups
import DohRelay.Proofs.Cache.Provenance

/-!
# Answers that expire

Lookups drop what they find expired in a step of its own, by a time that they took before.  In the
meantime another answer may have taken the place of the expired one.  It is not lost: as it still
held when it was stored, it held at the time of the lookup, which is not later.  Seen from the
store, what the callers of the cache do is such lookups.

## Main definitions

* `State.touches`, `Move.touches` — what an event does to the store.
* `Store.Plays` — touches that happen one after the other.
* `Mirrors` — the store has come as far as the callers of the cache.

## Main results

* `Run.mirrored` — every run of the cache is one of the store.
* `live_answers_stay` — **an answer that holds is not dropped, and is found.**
-/

namespace DohRelay.Cache

/-! ### What callers do to the store -/

/-- What an event does to the store of a cache that is switched on.  A caller looks for the second
time when no fetch is marked, and then drops in the same event what holds no more. -/
def State.touches (s : State) (now : Nat) : Event → List Touch
  | .look id =>
    match s.callers.find? id with
    | some c => [.start (id, false) c.key, .read (id, false)]
    | none => []
  | .drop id => [.drop (id, false)]
  | .enter id =>
    match s.callers.find? id with
    | some c =>
      if (s.markers.find? c.key).isSome then []
      else .start (id, true) c.key :: .read (id, true) ::
        if s.entries.look c.key now = .stale then [.drop (id, true)] else []
    | none => []
  | .store id =>
    match s.fetches.find? id with
    | some f =>
      match f.phase with
      | .ended (.ok answer) => [.put f.key now answer]
      | _ => []
    | none => []
  | _ => []

/-- What a move does to the store, the latest first, with its time. -/
def Move.touches (m : Move) : List (Nat × Touch) :=
  ((m.before.touches m.time m.event).map fun touch => (m.time, touch)).reverse

namespace Store

/-- Touches happen one after the other, all at one time. -/
inductive Plays (now : Nat) : Store → List Touch → Store → Prop
  /-- Nothing happens. -/
  | nil {t : Store} : Plays now t [] t
  /-- One touch happens before the others. -/
  | cons {t u v : Store} {touch : Touch} {touches : List Touch} (first : Touched now t touch u)
      (rest : Plays now u touches v) : Plays now t (touch :: touches) v

/-- A run goes on with what happens after it. -/
theorem Run.append_plays {moves : List Move} {t t' : Store} (h : Run moves t) {now : Nat}
    (htime : ∀ m ∈ moves, m.time ≤ now) {touches : List Touch} (hplays : Plays now t touches t') :
    ∃ more, Run (more ++ moves) t' ∧
      more.map (fun m => (m.time, m.touch)) = (touches.map (now, ·)).reverse := by
  induction hplays generalizing moves with
  | nil => exact ⟨[], h, rfl⟩
  | @cons t u v touch touches first rest ih =>
    let m : Move := ⟨now, touch, t, u, first⟩
    obtain ⟨more, hrun, hmap⟩ := ih (.move m h htime)
      (List.forall_mem_cons.mpr ⟨Nat.le_refl _, htime⟩)
    refine ⟨more ++ [m], by rwa [List.append_assoc], ?_⟩
    rw [List.map_append, hmap, List.map_cons (l := touches), List.reverse_cons]
    rfl

/-- More touches happen after some. -/
theorem Plays.append {now : Nat} {t u v : Store} {touches more : List Touch}
    (h : Plays now t touches u) (hmore : Plays now u more v) : Plays now t (touches ++ more) v := by
  induction h with
  | nil => exact hmore
  | cons first _ ih => exact .cons first (ih hmore)

section

variable {t : Store} {id : LookupId} (key : Fingerprint) (now : Nat)

/-- A lookup starts and reads. -/
theorem exists_lookup (hfresh : t.lookups.find? id = none) :
    ∃ t', Plays now t [.start id key, .read id] t' ∧ t'.entries = t.entries ∧
      ∀ i, t'.lookups.find? i =
        if i = id then some ⟨key, now, (t.entries.look key now).phase⟩ else t.lookups.find? i := by
  refine ⟨_, .cons (.start hfresh) (.cons (.read (Table.find?_insert_self ..) rfl) .nil), rfl,
    fun i => ?_⟩
  simp only [setLookup, Table.find?_insert]
  split <;> rfl

/-- A lookup starts, reads, and drops at once what holds no more; it is over then. -/
theorem exists_whole_lookup (hfresh : t.lookups.find? id = none) :
    ∃ t', Plays now t (.start id key :: .read id ::
        if t.entries.look key now = .stale then [.drop id] else []) t' ∧
      t'.entries = t.entries.drop key now ∧
      (∀ i, i ≠ id → t'.lookups.find? i = t.lookups.find? i) ∧
      ∀ answer, t.entries.look key now = .fresh answer →
        t'.lookups.find? id = some ⟨key, now, .over (some answer)⟩ := by
  obtain ⟨u, hplays, hentries, hlookups⟩ := exists_lookup key now hfresh
  have hself := (hlookups id).trans (if_pos rfl)
  have hothers (i : LookupId) (hi : i ≠ id) := (hlookups i).trans (if_neg hi)
  split
  case isTrue hstale =>
    rw [hstale] at hself
    refine ⟨_, hplays.append (.cons (.drop hself rfl) .nil), ?_, fun i hi => ?_,
      fun answer hfresh => ?_⟩
    · rw [← hentries]
      rfl
    · exact (Table.find?_insert_of_ne _ hi _).trans (hothers i hi)
    · rw [hstale] at hfresh
      cases hfresh
  case isFalse hstale =>
    refine ⟨u, hplays, ?_, hothers, fun answer hfresh => ?_⟩
    · rw [hentries, Entries.drop_of_not_stale hstale]
    · rw [hself, hfresh]
      rfl

end

/-! ### Callers and their lookups -/

/-- The lookups of a caller are as far as the caller. -/
def Follows (t : Store) (id : CallerId) : Option Caller → Prop
  | none => ∀ second, t.lookups.find? (id, second) = none
  | some c =>
    match c.phase with
    | .arrived => ∀ second, t.lookups.find? (id, second) = none
    | .dropping seenAt =>
      t.lookups.find? (id, false) = some ⟨c.key, seenAt, .dropping⟩ ∧
        t.lookups.find? (id, true) = none
    | .entering => t.lookups.find? (id, true) = none
    | .answered answer .hit =>
      ∃ second clock, t.lookups.find? (id, second) = some ⟨c.key, clock, .over (some answer)⟩
    | _ => True

/-- Only the lookups of the caller matter. -/
theorem Follows.congr {t t' : Store} {id : CallerId} {c : Option Caller} (h : t.Follows id c)
    (hlookups : ∀ second, t'.lookups.find? (id, second) = t.lookups.find? (id, second)) :
    t'.Follows id c := by
  unfold Follows at h ⊢
  simpa only [hlookups] using h

end Store

/-- A store holds what the cache holds, and has come as far as its callers. -/
structure Mirrors (s : State) (t : Store) : Prop where
  /-- The answers are the same. -/
  entries : t.entries = s.entries
  /-- Every caller has come as far as the lookups of the caller. -/
  follows : ∀ id, t.Follows id (s.callers.find? id)

namespace Mirrors

variable {s s' : State} {t t' : Store}

/-- What happens to one caller and the lookups of that caller does not matter to the others. -/
theorem of_caller (h : Mirrors s t) {id : CallerId} {c : Caller}
    (hcallers : s'.callers = s.callers.insert id c) (hentries : t'.entries = s'.entries)
    (hlookups : ∀ i second, i ≠ id → t'.lookups.find? (i, second) = t.lookups.find? (i, second))
    (hself : t'.Follows id (some c)) : Mirrors s' t' where
  entries := hentries
  follows i := by
    rw [hcallers, Table.find?_insert]
    split
    case isTrue hi =>
      rw [hi]
      exact hself
    case isFalse hi => exact (h.follows i).congr fun second => hlookups i second hi

/-- A caller who gets on without a lookup may come to where none is needed. -/
theorem of_phase (h : Mirrors s t) {id : CallerId} {c : Caller}
    (hcallers : s'.callers = s.callers.insert id c) (hentries : s'.entries = s.entries)
    (hself : t.Follows id (some c)) : Mirrors s' t :=
  h.of_caller hcallers (h.entries.trans hentries.symm) (fun _ _ _ => rfl) hself

/-- Nothing happens to the callers. -/
theorem of_callers (h : Mirrors s t) (hcallers : s'.callers = s.callers)
    (hentries : t'.entries = s'.entries) (hlookups : t'.lookups = t.lookups) : Mirrors s' t' where
  entries := hentries
  follows i := by
    rw [hcallers]
    exact (h.follows i).congr fun _ => by rw [hlookups]

end Mirrors

namespace Effect

variable {now : Nat} {s s' : State} {t : Store} {id : CallerId} {c : Caller}

/-- A caller looks for the first time. -/
theorem mirrored_look (h : Mirrors s t) (hc : s.callers.find? id = some c)
    (hphase : c.phase = .arrived) {p : CallerPhase}
    (hself : ∀ t' : Store, t'.lookups.find? (id, false) =
        some ⟨c.key, now, (s.entries.look c.key now).phase⟩ →
      t'.lookups.find? (id, true) = none → t'.Follows id (some { c with phase := p })) :
    ∃ t', Store.Plays now t (s.touches now (.look id)) t' ∧ Mirrors (s.setCaller id c p) t' := by
  have hnone : ∀ second, t.lookups.find? (id, second) = none := by
    have hfollows := h.follows id
    rw [hc] at hfollows
    simpa only [Store.Follows, hphase] using hfollows
  obtain ⟨t', hplays, hentries, hlookups⟩ :=
    Store.exists_lookup c.key now (hnone false)
  have htouches : s.touches now (.look id) = [.start (id, false) c.key, .read (id, false)] := by
    simp only [State.touches, hc]
  refine ⟨t', htouches ▸ hplays, h.of_caller rfl (hentries.trans h.entries) (fun i second hi => ?_)
    (hself t' ?_ ?_)⟩
  · rw [hlookups, if_neg fun heq => hi (congrArg Prod.fst heq)]
  · rw [hlookups, if_pos rfl, h.entries]
  · rw [hlookups, if_neg (by simp), hnone]

/-- A caller drops what held no more when the caller looked. -/
theorem mirrored_drop (h : Mirrors s t) (hc : s.callers.find? id = some c) {seenAt : Nat}
    (hphase : c.phase = .dropping seenAt) :
    ∃ t', Store.Plays now t (s.touches now (.drop id)) t' ∧
      Mirrors ({ s with entries := s.entries.drop c.key seenAt }.setCaller id c
        (State.missPhase c.want)) t' := by
  have hfollows := h.follows id
  rw [hc] at hfollows
  simp only [Store.Follows, hphase] at hfollows
  obtain ⟨hfirst, hsecond⟩ := hfollows
  refine ⟨_, .cons (.drop hfirst rfl) .nil, h.of_caller rfl ?_ (fun i second hi => ?_) ?_⟩
  · exact congrArg (Entries.drop · c.key seenAt) h.entries
  · exact Table.find?_insert_of_ne _ (fun heq => hi (congrArg Prod.fst heq)) _
  · cases hwant : c.want with
    | stored => trivial
    | fetched => exact (Table.find?_insert_of_ne _ (by simp) _).trans hsecond

/-- A caller looks for the second time, and drops what holds no more. -/
theorem mirrored_enter (h : Mirrors s t) (hc : s.callers.find? id = some c)
    (hphase : c.phase = .entering) (hmarker : s.markers.find? c.key = none) {c' : Caller}
    (hcallers : s'.callers = s.callers.insert id c')
    (hentries : s'.entries = s.entries.drop c.key now)
    (hself : ∀ t' : Store, (∀ answer, s.entries.look c.key now = .fresh answer →
        t'.lookups.find? (id, true) = some ⟨c.key, now, .over (some answer)⟩) →
      t'.Follows id (some c')) :
    ∃ t', Store.Plays now t (s.touches now (.enter id)) t' ∧ Mirrors s' t' := by
  have hnone : t.lookups.find? (id, true) = none := by
    have hfollows := h.follows id
    rw [hc] at hfollows
    simpa only [Store.Follows, hphase] using hfollows
  obtain ⟨t', hplays, hdropped, hothers, hfound⟩ :=
    Store.exists_whole_lookup c.key now hnone
  rw [h.entries] at hplays hdropped hfound
  have htouches : s.touches now (.enter id) = .start (id, true) c.key :: .read (id, true) ::
      if s.entries.look c.key now = .stale then [.drop (id, true)] else [] := by
    simp only [State.touches, hc, hmarker, Option.isSome_none, Bool.false_eq_true, if_false]
  refine ⟨t', htouches ▸ hplays, h.of_caller hcallers (hdropped.trans hentries.symm)
    (fun i second hi => hothers _ fun heq => hi (congrArg Prod.fst heq)) (hself t' hfound)⟩

/-- The answer of a fetch is put into the store. -/
theorem mirrored_put (h : Mirrors s t) {e : Event} {key : Fingerprint} {answer : Dns.Message}
    (htouches : s.touches now e = [.put key now answer]) (hcallers : s'.callers = s.callers)
    (hentries : s'.entries = s.entries.store key now answer) :
    ∃ t', Store.Plays now t (s.touches now e) t' ∧ Mirrors s' t' := by
  rw [htouches]
  refine ⟨{ t with entries := t.entries.store key now answer },
    .cons (.put (Nat.le_refl now)) .nil, h.of_callers hcallers ?_ rfl⟩
  rw [hentries, h.entries]

/-- **What an event does to the store keeps it as far as the callers.** -/
theorem mirrored {e : Event} (he : Effect now s e s') (hon : s.enabled = true)
    (hwaiting : ∀ id c, s.callers.find? id = some c → ∀ fetch, c.phase ≠ .waiting fetch .hit)
    (h : Mirrors s t) : ∃ t', Store.Plays now t (s.touches now e) t' ∧ Mirrors s' t' := by
  cases he with
  | @arrive id key want fresh =>
    have hnone := h.follows id
    rw [fresh] at hnone
    exact ⟨t, .nil, h.of_phase rfl rfl hnone⟩
  | hit hc hp _ hentry hholds =>
    refine mirrored_look h hc hp fun t' hfirst _ => ?_
    rw [Entries.look_of_live hentry hholds] at hfirst
    exact ⟨false, now, hfirst⟩
  | stale hc hp _ hentry hended =>
    refine mirrored_look h hc hp fun t' hfirst hsecond => ?_
    rw [Entries.look_of_expired hentry hended] at hfirst
    exact ⟨hfirst, hsecond⟩
  | @miss _ c hc hp _ hentry =>
    refine mirrored_look h hc hp fun t' _ hsecond => ?_
    cases hwant : c.want with
    | stored => trivial
    | fetched => exact hsecond
  | refuse _ _ hoff => rw [hon] at hoff; cases hoff
  | bypass _ _ hoff => rw [hon] at hoff; cases hoff
  | @drop id c seenAt hc hp => exact mirrored_drop h hc hp
  | @join id fetch c hc hp hmarker =>
    have htouches : s.touches now (.enter id) = [] := by
      simp only [State.touches, hc, hmarker, Option.isSome_some, if_true]
    exact ⟨t, htouches ▸ .nil, h.of_phase rfl rfl trivial⟩
  | @lateHit id c e hc hp hmarker hentry hholds =>
    have hlook := Entries.look_of_live hentry hholds
    have hnot : s.entries.look c.key now ≠ .stale := by simp [hlook]
    refine mirrored_enter h hc hp hmarker rfl ?_ fun t' hfound => ⟨true, now, hfound _ hlook⟩
    rw [Entries.drop_of_not_stale hnot]
    rfl
  | start hc hp hmarker _ => exact mirrored_enter h hc hp hmarker rfl rfl fun _ _ => trivial
  | @takeAnswer id fetch c outcome f answer hc hp =>
    refine ⟨t, .nil, h.of_phase rfl rfl ?_⟩
    cases outcome with
    | hit => exact absurd hp (hwaiting id c hc fetch)
    | fetched => trivial
    | joined => trivial
  | takeError => exact ⟨t, .nil, h.of_phase rfl rfl trivial⟩
  | leave => exact ⟨t, .nil, h.of_phase rfl rfl trivial⟩
  | leaveOff _ _ hoff => rw [hon] at hoff; cases hoff
  | complete | expire | crash | release => exact ⟨t, .nil, h.of_callers rfl h.entries rfl⟩
  | keep hf hp _ httl =>
    refine mirrored_put h (by simp only [State.touches, hf, hp]; rfl) rfl ?_
    simp only [Entries.store, httl, State.entries_setFetch]
  | @pass id f result hf hp hbarren =>
    cases result with
    | error e =>
      have htouches : s.touches now (.store id) = [] := by
        simp only [State.touches, hf, hp]
      exact ⟨t, htouches ▸ .nil, h.of_callers rfl h.entries rfl⟩
    | ok answer =>
      refine mirrored_put h (by simp only [State.touches, hf, hp]; rfl) rfl ?_
      simp only [Entries.store, hbarren answer rfl hon, State.entries_setFetch]

end Effect

/-- What a move does to the store has the time of the move. -/
theorem Move.time_of_mem_touches {m : Move} {time : Nat} {touch : Touch}
    (h : (time, touch) ∈ m.touches) : time = m.time := by
  obtain ⟨_, -, heq⟩ := List.mem_map.mp (List.mem_reverse.mp h)
  exact (congrArg Prod.fst heq).symm

/-- **Every run of the cache is one of the store.**  The store holds what the cache holds, and every
caller who is answered from the cache is answered by a lookup. -/
theorem Run.mirrored {timeout : Nat} {moves : List Move} {s : State}
    (h : Run true timeout moves s) : ∃ touched t, Store.Run touched t ∧
      touched.map (fun m => (m.time, m.touch)) = moves.flatMap Move.touches ∧ Mirrors s t := by
  induction h with
  | start =>
    have hmirrors : Mirrors (.start true timeout) .start := ⟨rfl, fun id second => rfl⟩
    exact ⟨[], .start, .start, rfl, hmirrors⟩
  | @move moves m run later ih =>
    obtain ⟨touched, t, hrun, hmap, hmirrors⟩ := ih
    obtain ⟨t', hplays, hmirrors'⟩ := m.effect.mirrored run.enabled_eq
      (fun id c hc => run.ne_waiting_hit hc) hmirrors
    have htime : ∀ n ∈ touched, n.time ≤ m.time := by
      intro n hn
      have hmem : (n.time, n.touch) ∈ moves.flatMap Move.touches := by
        rw [← hmap]
        exact List.mem_map_of_mem hn
      obtain ⟨m', hm', hmem⟩ := List.mem_flatMap.mp hmem
      rw [Move.time_of_mem_touches hmem]
      exact later m' hm'
    obtain ⟨more, hrun', hmore⟩ := hrun.append_plays htime hplays
    refine ⟨more ++ touched, t', hrun', ?_, hmirrors'⟩
    rw [List.map_append, hmore, hmap, List.flatMap_cons]
    rfl

/-! ### What is stored is kept -/

/-- What becomes of an entry that is stored after some moves, as long as later moves put no other in
its place. -/
structure Store.Keeps (later earlier : List Store.Move) (key : Fingerprint) (e : Entry) : Prop where
  /-- It stays as long as it holds. -/
  stays : ∀ m ∈ later, m.time < e.expiresAt → m.after.entries.find? key = some e
  /-- A lookup that read before it was stored does not drop it, even when it holds no more. -/
  spared : ∀ m ∈ later, ∀ id, m.touch = .drop id → (∃ r ∈ earlier, r.touch = .read id) →
    m.before.entries.find? key = some e → m.after.entries.find? key = some e
  /-- A lookup returns it that reads while it holds, or that started while it held and comes upon
  it. -/
  found : ∀ m ∈ later, ∀ id l, m.touch = .read id → m.before.lookups.find? id = some l →
    l.key = key → (m.time < e.expiresAt ∨
      l.clock < e.expiresAt ∧ m.before.entries.find? key = some e) →
    m.after.lookups.find? id = some { l with phase := .over (some e.answer) }

/-- An entry is kept that holds when it is stored. -/
theorem Store.Run.keeps {later earlier : List Store.Move} {stored : Store.Move} {s : Store}
    (h : Store.Run (later ++ stored :: earlier) s) {key : Fingerprint} {e : Entry}
    (hputs : stored.Puts key e) (hlive : stored.time < e.expiresAt)
    (hkept : ∀ m ∈ later, ∀ e', ¬ m.Puts key e') : Store.Keeps later earlier key e where
  stays m hm hnow := (h.stays_around hputs hkept hm hnow).2
  spared m hm id hdrop hread he := by
    obtain ⟨r, hr, hread⟩ := hread
    exact h.stays_of_read hlive hm hdrop hr hread he
  found m hm id l hread hl hkey hnow := by
    obtain ⟨rest, -, run, htime⟩ := h.exists_part hm
    subst hkey
    obtain hnow | ⟨hclock, he⟩ := hnow
    · have hclock := Nat.lt_of_le_of_lt (run.clock_le htime hl) hnow
      exact m.found_of_read hread hl (h.stays_around hputs hkept hm hnow).1 hclock
    · exact m.found_of_read hread hl he hclock

/-- **An answer that holds is not dropped, and is found.**  Whatever is dropped from the store does
not hold any more, in any order of the steps of any lookups and of what is stored.  An entry that
holds when it is stored is kept as long as no other takes its place.  And every run of the cache,
with its callers, is such a run of the store. -/
theorem live_answers_stay :
    (∀ moves s, Store.Run moves s → ∀ m ∈ moves, ∀ key e,
      m.before.entries.find? key = some e → m.after.entries.find? key = none →
      e.expiresAt ≤ m.time) ∧
    (∀ later stored earlier s, Store.Run (later ++ stored :: earlier) s → ∀ key e,
      stored.Puts key e → stored.time < e.expiresAt →
      (∀ m ∈ later, ∀ e', ¬ m.Puts key e') → Store.Keeps later earlier key e) ∧
    ∀ timeout moves s, Run true timeout moves s → ∃ touched t, Store.Run touched t ∧
      touched.map (fun m => (m.time, m.touch)) = moves.flatMap Move.touches ∧ Mirrors s t := by
  refine ⟨?_, ?_, ?_⟩
  · intro moves s h m hm key e hbefore hafter
    exact h.expired_of_dropped hm hbefore hafter
  · intro later stored earlier s h key e hputs hlive hkept
    exact h.keeps hputs hlive hkept
  · intro timeout moves s h
    exact h.mirrored

/-- Between the two steps of a lookup that came upon an expired answer a new one is stored, which
the lookup does not drop and another one finds. -/
theorem live_answers_stay_replaced :
    ∃ later stored earlier s, Store.Run (later ++ stored :: earlier) s ∧
      stored.Puts rootKey ⟨rootAnswer, 300001, 300⟩ ∧
      (∃ r ∈ earlier, r.touch = .read (0, false)) ∧
      (∃ m ∈ later, m.touch = .drop (0, false) ∧
        m.after.entries.find? rootKey = some ⟨rootAnswer, 300001, 300⟩) ∧
      ∃ m ∈ later, m.touch = .read (1, false) ∧
        m.after.lookups.find? (1, false) = some ⟨rootKey, 300003, .over (some rootAnswer)⟩ := by
  let first : Store.Move := ⟨0, .put rootKey 0 rootAnswer, .start, _, .put (Nat.le_refl 0)⟩
  let begun : Store.Move := ⟨300000, .start (0, false) rootKey, first.after, _, .start rfl⟩
  let read : Store.Move := ⟨300000, .read (0, false), begun.after, _,
    .read (l := ⟨rootKey, 300000, .begun⟩) rfl rfl⟩
  let stored : Store.Move := ⟨300001, .put rootKey 300001 rootAnswer, read.after, _,
    .put (Nat.le_refl _)⟩
  let dropped : Store.Move := ⟨300002, .drop (0, false), stored.after, _,
    .drop (l := ⟨rootKey, 300000, .dropping⟩) rfl rfl⟩
  let other : Store.Move := ⟨300003, .start (1, false) rootKey, dropped.after, _, .start rfl⟩
  let found : Store.Move := ⟨300003, .read (1, false), other.after, _,
    .read (l := ⟨rootKey, 300003, .begun⟩) rfl rfl⟩
  have hrun :
      Store.Run ([found, other, dropped] ++ stored :: [read, begun, first]) found.after := by
    refine .move found (.move other (.move dropped (.move stored (.move read (.move begun
      (.move first .start ?_) ?_) ?_) ?_) ?_) ?_) ?_
    all_goals simp [first, begun, read, stored, dropped, other, found]
  have hputs : stored.Puts rootKey ⟨rootAnswer, 300001, 300⟩ := ⟨rfl, rfl⟩
  have hkept : ∀ m ∈ [found, other, dropped], ∀ e', ¬ m.Puts rootKey e' := by
    simp [found, other, dropped, Store.Move.Puts]
  have hlive : (⟨rootAnswer, 300001, 300⟩ : Entry).expiresAt = 600001 := rfl
  have hkeeps := live_answers_stay.2.1 _ _ _ _ hrun _ _ hputs (by rw [hlive]; decide) hkept
  refine ⟨_, _, _, _, hrun, hputs, ⟨read, by simp, rfl⟩, ⟨dropped, by simp, rfl, ?_⟩,
    found, by simp, rfl, ?_⟩
  · exact hkeeps.spared dropped (by simp) _ rfl ⟨read, by simp, rfl⟩ rfl
  · exact hkeeps.found found (by simp) _ ⟨rootKey, 300003, .begun⟩ rfl rfl rfl
      (.inl (by rw [hlive]; decide))

end DohRelay.Cache
