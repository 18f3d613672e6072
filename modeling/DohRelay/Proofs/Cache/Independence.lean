import DohRelay.Proofs.Cache.Departure
import DohRelay.Proofs.Cache.SingleFlight

/-!
# Keys apart from each other

What is asked under one key does not depend on what is asked under others.  From the events of a run
those are taken that are about the key: of the callers who ask for it, and of the fetches that these
start.  They can happen by themselves at the same times, and lead to a cache which has the same
answer, the same marker, the same fetches and the same callers under the key as the whole run has.

## Main definitions

* `eventsOf` — the events of a run that are about a key.
* `Excerpt` — a cache is what another one has under a key.

## Main results

* `Excerpt.step`, `Excerpt.skip` — an event about the key leads from one excerpt to the next, and
  any other event leaves the excerpt as it is.
* `Excerpt.play` — what is so of one event is so of a whole run.
* `keys_are_independent` — **events about other keys make no difference.**
-/

namespace DohRelay

/-! ### Parts of tables -/

namespace Table

variable {κ α : Type} [DecidableEq κ] {t u : Table κ α} {p : α → Bool} {k : κ} {a : α}

/-- A value that belongs to a part of a table is put into the table and into the part. -/
private theorem filter_insert (h : ∀ k, u.find? k = (t.find? k).filter p) (ha : p a = true)
    (k' : κ) : (u.insert k a).find? k' = ((t.insert k a).find? k').filter p := by
  rw [find?_insert, find?_insert, h k']
  split
  case isTrue => exact (Option.filter_some_pos ha).symm
  case isFalse => rfl

/-- A value that does not belong to the part takes the place of none that does. -/
private theorem filter_insert_left (h : ∀ k, u.find? k = (t.find? k).filter p)
    (hold : ∀ b, t.find? k = some b → p b = false) (ha : p a = false) (k' : κ) :
    u.find? k' = ((t.insert k a).find? k').filter p := by
  rw [find?_insert, h k']
  split
  case isTrue hk =>
    subst hk
    cases hb : t.find? k' with
    | none => exact (Option.filter_some_neg ha).symm
    | some b => rw [Option.filter_some_neg ha, Option.filter_some_neg (hold b hb)]
  case isFalse => rfl

end Table

namespace Cache

/-! ### The events about a key -/

/-- The name of the caller or the fetch that an event is about. -/
def Event.name : Event → CallerId
  | .arrive id _ _ | .look id | .drop id | .enter id | .take id | .leave id | .complete id _
  | .expire id | .crash id | .store id | .release id => id

/-- The callers who have asked for a key when an event happens, some of whom did before. -/
def Event.askers (key : Fingerprint) (names : List CallerId) : Event → List CallerId
  | .arrive id k _ => if k = key then id :: names else names
  | _ => names

/-- The events that are about a key, where some callers have asked for it before: those of callers
who ask for it, and of the fetches that these start. -/
def eventsOf (key : Fingerprint) (names : List CallerId) :
    List (Nat × Event) → List (Nat × Event)
  | [] => []
  | (now, e) :: rest =>
    if e.name ∈ e.askers key names then (now, e) :: eventsOf key (e.askers key names) rest
    else eventsOf key (e.askers key names) rest

/-- Some events are left out, and nothing else is done. -/
theorem eventsOf_sublist (key : Fingerprint) (names : List CallerId) (events : List (Nat × Event)) :
    (eventsOf key names events).Sublist events := by
  induction events generalizing names with
  | nil => exact .slnil
  | cons x rest ih =>
    rw [eventsOf]
    split
    case isTrue => exact (ih _).cons_cons _
    case isFalse => exact (ih _).cons _

/-- Whether an event is about the key is told by what came before. -/
theorem eventsOf_mono (key : Fingerprint) (names : List CallerId) {done events : List (Nat × Event)}
    (h : done <+: events) : eventsOf key names done <+: eventsOf key names events := by
  obtain ⟨rest, rfl⟩ := h
  induction done generalizing names with
  | nil => exact List.nil_prefix
  | cons x done ih =>
    rw [List.cons_append, eventsOf, eventsOf]
    split
    case isTrue => exact List.cons_prefix_cons.mpr ⟨rfl, ih _⟩
    case isFalse => exact ih _

/-- Those who ask for a key are known by name. -/
def Known (key : Fingerprint) (names : List CallerId) (s : State) : Prop :=
  ∀ id, id ∈ names ↔ (s.callers.find? id).map Caller.key = some key

/-- A caller who comes to another phase asks for the same key. -/
private theorem map_key_setCaller {s t : State} {id : CallerId} {c : Caller}
    (hc : s.callers.find? id = some c) (ht : t.callers = s.callers) (p : CallerPhase)
    (i : CallerId) : ((t.setCaller id c p).callers.find? i).map Caller.key =
      (s.callers.find? i).map Caller.key := by
  rw [State.find?_callers_setCaller, ht]
  split
  case isTrue hi =>
    rw [hi, hc]
    rfl
  case isFalse => rfl

/-- Only by coming does anybody ask for a key. -/
theorem Known.of_effect {key : Fingerprint} {names : List CallerId} {now : Nat} {s s' : State}
    {e : Event} (h : Known key names s) (he : Effect now s e s') :
    Known key (e.askers key names) s' := by
  have hset {id : CallerId} {c : Caller} {t : State} (hc : s.callers.find? id = some c)
      (ht : t.callers = s.callers) (p : CallerPhase) : Known key names (t.setCaller id c p) :=
    fun i => by rw [map_key_setCaller hc ht, h i]
  cases he with
  | @arrive id k want fresh =>
    intro i
    rw [Table.find?_insert, Event.askers]
    by_cases hi : i = id
    · subst hi
      have hnew : i ∉ names := by simp [h i, fresh]
      split <;> simp_all
    · split <;> simp_all [h i]
  | hit hc | stale hc | miss hc | refuse hc | drop hc | join hc | lateHit hc | takeAnswer hc
  | takeError hc | leave hc => exact hset hc rfl _
  | bypass hc | start hc => exact hset hc rfl _
  | leaveOff hc => exact hset hc rfl _
  | _ => exact h

/-! ### What a cache has under a key -/

/-- A cache is what another one has under a key. -/
structure Excerpt (key : Fingerprint) (s t : State) : Prop where
  /-- Both are switched on or both off. -/
  enabled : t.enabled = s.enabled
  /-- Fetches may take the same time. -/
  timeout : t.timeout = s.timeout
  /-- The same answer is stored under the key. -/
  entry : t.entries.find? key = s.entries.find? key
  /-- The same fetch is marked under it. -/
  marker : t.markers.find? key = s.markers.find? key
  /-- The callers are those who ask for it, and they have come as far, with the same results. -/
  callers : ∀ id, t.callers.find? id = (s.callers.find? id).filter fun c => c.key = key
  /-- The fetches are those for it, and they have come as far. -/
  fetches : ∀ id, t.fetches.find? id = (s.fetches.find? id).filter fun f => f.key = key

namespace Excerpt

variable {key : Fingerprint} {now : Nat} {s s' t u : State} {e : Event} {id : CallerId}
  {c : Caller} {p : CallerPhase} {f : Fetch} {q : FetchPhase}

theorem start (key : Fingerprint) (enabled : Bool) (timeout : Nat) :
    Excerpt key (.start enabled timeout) (.start enabled timeout) :=
  ⟨rfl, rfl, rfl, rfl, fun _ => rfl, fun _ => rfl⟩

/-- Whoever asks for the key is found in both caches, -/
theorem find?_caller (h : Excerpt key s t) (hc : s.callers.find? id = some c) (hkey : c.key = key) :
    t.callers.find? id = some c := by
  rw [h.callers, hc]
  exact Option.filter_some_pos (decide_eq_true hkey)

/-- and so is a fetch for it. -/
theorem find?_fetch (h : Excerpt key s t) (hf : s.fetches.find? id = some f) (hkey : f.key = key) :
    t.fetches.find? id = some f := by
  rw [h.fetches, hf]
  exact Option.filter_some_pos (decide_eq_true hkey)

/-- A caller who asks for the key comes, or comes to another phase, in both caches. -/
theorem insert (h : Excerpt key s t) (hkey : c.key = key) :
    Excerpt key { s with callers := s.callers.insert id c }
      { t with callers := t.callers.insert id c } :=
  ⟨h.enabled, h.timeout, h.entry, h.marker, Table.filter_insert h.callers (decide_eq_true hkey),
    h.fetches⟩

theorem setCaller (h : Excerpt key s t) (hkey : c.key = key) :
    Excerpt key (s.setCaller id c p) (t.setCaller id c p) :=
  h.insert hkey

/-- A caller who asks for something else does so in one of the caches. -/
theorem insert_left (h : Excerpt key s t)
    (hold : ∀ d, s.callers.find? id = some d → d.key ≠ key) (hkey : c.key ≠ key) :
    Excerpt key { s with callers := s.callers.insert id c } t :=
  ⟨h.enabled, h.timeout, h.entry, h.marker, Table.filter_insert_left h.callers
    (fun d hd => decide_eq_false (hold d hd)) (decide_eq_false hkey), h.fetches⟩

theorem setCaller_left (h : Excerpt key s t)
    (hold : ∀ d, s.callers.find? id = some d → d.key ≠ key) (hkey : c.key ≠ key) :
    Excerpt key (s.setCaller id c p) t :=
  h.insert_left hold hkey

/-- A fetch for the key comes to another phase in both caches. -/
theorem setFetch (h : Excerpt key s t) (hkey : f.key = key) :
    Excerpt key (s.setFetch id f q) (t.setFetch id f q) :=
  ⟨h.enabled, h.timeout, h.entry, h.marker, h.callers,
    Table.filter_insert h.fetches (decide_eq_true hkey)⟩

/-- A fetch for something else does so in one of the caches. -/
theorem setFetch_left (h : Excerpt key s t)
    (hold : ∀ g, s.fetches.find? id = some g → g.key ≠ key) (hkey : f.key ≠ key) :
    Excerpt key (s.setFetch id f q) t :=
  ⟨h.enabled, h.timeout, h.entry, h.marker, h.callers, Table.filter_insert_left h.fetches
    (fun g hg => decide_eq_false (hold g hg)) (decide_eq_false hkey)⟩

/-- Stored answers become others, with the same one under the key in both caches. -/
theorem setEntries (h : Excerpt key s t) {es es' : Entries} (hes : es'.find? key = es.find? key) :
    Excerpt key { s with entries := es } { t with entries := es' } :=
  ⟨h.enabled, h.timeout, hes, h.marker, h.callers, h.fetches⟩

/-- So do markers. -/
theorem setMarkers (h : Excerpt key s t) {ms ms' : Table Fingerprint CallerId}
    (hms : ms'.find? key = ms.find? key) :
    Excerpt key { s with markers := ms } { t with markers := ms' } :=
  ⟨h.enabled, h.timeout, h.entry, hms, h.callers, h.fetches⟩

/-- An answer under the key is dropped in both caches. -/
theorem drop (h : Excerpt key s t) (time : Nat) :
    Excerpt key { s with entries := s.entries.drop key time }
      { t with entries := t.entries.drop key time } :=
  h.setEntries (by rw [Entries.find?_drop, Entries.find?_drop, h.entry])

/-- An answer under another key is dropped in one of the caches. -/
theorem drop_left (h : Excerpt key s t) {k : Fingerprint} (hk : k ≠ key) (time : Nat) :
    Excerpt key { s with entries := s.entries.drop k time } t :=
  h.setEntries (by rw [Entries.find?_drop, if_neg (fun hsame => hk hsame.1.symm), h.entry])

/-- A fetch for the key is started in both caches. -/
theorem startFetch (h : Excerpt key s t) (hkey : c.key = key) :
    Excerpt key (s.startFetch id c now) (t.startFetch id c now) := by
  have hmarkers : (if t.enabled then t.markers.insert c.key id else t.markers).find? key =
      (if s.enabled then s.markers.insert c.key id else s.markers).find? key := by
    rw [h.enabled]
    split
    case isTrue => rw [Table.find?_insert, Table.find?_insert, h.marker]
    case isFalse => exact h.marker
  have hfetches : Excerpt key
      { s with fetches := s.fetches.insert id ⟨c.key, now, .running⟩ }
      { t with fetches := t.fetches.insert id ⟨c.key, now, .running⟩ } :=
    h.setFetch (f := ⟨c.key, now, .running⟩) hkey
  exact (hfetches.setMarkers hmarkers).setCaller hkey

/-- A fetch for something else is started in one of the caches. -/
theorem startFetch_left (h : Excerpt key s t)
    (hold : ∀ d, s.callers.find? id = some d → d.key ≠ key)
    (holdFetch : ∀ g, s.fetches.find? id = some g → g.key ≠ key) (hkey : c.key ≠ key) :
    Excerpt key (s.startFetch id c now) t := by
  have hmarkers : t.markers.find? key =
      (if s.enabled then s.markers.insert c.key id else s.markers).find? key := by
    split
    case isTrue => rw [Table.find?_insert_of_ne _ (Ne.symm hkey), h.marker]
    case isFalse => exact h.marker
  have hfetches : Excerpt key
      { s with fetches := s.fetches.insert id ⟨c.key, now, .running⟩ } t :=
    h.setFetch_left (f := ⟨c.key, now, .running⟩) holdFetch hkey
  exact (hfetches.setMarkers hmarkers).setCaller_left hold hkey

/-- **An event about the key leads from one excerpt to the next.** -/
theorem step (h : Excerpt key s t) (horder : Orderly s) (he : Effect now s e s')
    (habout : (s'.callers.find? e.name).map Caller.key = some key) :
    ∃ t', t.step now e = some t' ∧ Excerpt key s' t' := by
  -- the caller or the fetch that the event is about has the key
  have hcaller {d : Caller} (hd : s.callers.find? e.name = some d) : d.key = key := by
    obtain ⟨p, hd', -⟩ := he.caller_before hd
    rw [hd'] at habout
    exact Option.some.inj habout
  have hfetch {g : Fetch} (hg : s.fetches.find? e.name = some g) : g.key = key := by
    obtain ⟨d, hd, hkey, -⟩ := horder.starter hg
    exact hkey.symm.trans (hcaller hd)
  -- whoever waits does so for a fetch for the key
  have hwaits {i fetch : CallerId} {d : Caller} {outcome : Outcome} {g : Fetch}
      (hd : s.callers.find? i = some d) (hp : d.phase = .waiting fetch outcome)
      (hg : s.fetches.find? fetch = some g) : g.key = d.key := by
    obtain ⟨g', hg', hkey, -⟩ := (horder.attached hd).waiting hp
    rw [hg, Option.some.injEq] at hg'
    rw [hg', hkey]
  cases he with
  | @arrive i k want fresh =>
    have hkey : k = key := by simpa [Event.name] using habout
    have hfresh : t.callers.find? i = none := by
      rw [h.callers, fresh]
      rfl
    exact ⟨_, step_of_effect (.arrive hfresh), h.insert hkey⟩
  | hit hc hp hon hentry hholds =>
    obtain rfl := hcaller hc
    exact ⟨_, step_of_effect (.hit (h.find?_caller hc rfl) hp (h.enabled.trans hon)
      (h.entry.trans hentry) hholds), h.setCaller rfl⟩
  | stale hc hp hon hentry hended =>
    obtain rfl := hcaller hc
    exact ⟨_, step_of_effect (.stale (h.find?_caller hc rfl) hp (h.enabled.trans hon)
      (h.entry.trans hentry) hended), h.setCaller rfl⟩
  | miss hc hp hon hentry =>
    obtain rfl := hcaller hc
    exact ⟨_, step_of_effect (.miss (h.find?_caller hc rfl) hp (h.enabled.trans hon)
      (h.entry.trans hentry)), h.setCaller rfl⟩
  | refuse hc hp hoff hwant =>
    exact ⟨_, step_of_effect (.refuse (h.find?_caller hc (hcaller hc)) hp (h.enabled.trans hoff)
      hwant), h.setCaller (hcaller hc)⟩
  | bypass hc hp hoff hwant =>
    exact ⟨_, step_of_effect (.bypass (h.find?_caller hc (hcaller hc)) hp (h.enabled.trans hoff)
      hwant), h.startFetch (hcaller hc)⟩
  | drop hc hp =>
    obtain rfl := hcaller hc
    exact ⟨_, step_of_effect (.drop (h.find?_caller hc rfl) hp), (h.drop _).setCaller rfl⟩
  | join hc hp hm =>
    obtain rfl := hcaller hc
    exact ⟨_, step_of_effect (.join (h.find?_caller hc rfl) hp (h.marker.trans hm)),
      h.setCaller rfl⟩
  | lateHit hc hp hm hentry hholds =>
    obtain rfl := hcaller hc
    exact ⟨_, step_of_effect (.lateHit (h.find?_caller hc rfl) hp (h.marker.trans hm)
      (h.entry.trans hentry) hholds), h.setCaller rfl⟩
  | start hc hp hm hended =>
    obtain rfl := hcaller hc
    exact ⟨_, step_of_effect (.start (h.find?_caller hc rfl) hp (h.marker.trans hm)
      fun e he => hended e (h.entry.symm.trans he)), (h.drop _).startFetch rfl⟩
  | takeAnswer hc hp hf hr =>
    obtain rfl := hcaller hc
    exact ⟨_, step_of_effect (.takeAnswer (h.find?_caller hc rfl) hp
      (h.find?_fetch hf (hwaits hc hp hf)) hr), h.setCaller rfl⟩
  | takeError hc hp hf hr =>
    obtain rfl := hcaller hc
    exact ⟨_, step_of_effect (.takeError (h.find?_caller hc rfl) hp
      (h.find?_fetch hf (hwaits hc hp hf)) hr), h.setCaller rfl⟩
  | leave hc hp hon =>
    exact ⟨_, step_of_effect (.leave (h.find?_caller hc (hcaller hc)) hp (h.enabled.trans hon)),
      h.setCaller (hcaller hc)⟩
  | @leaveOff i c hc hp hoff =>
    refine ⟨_, step_of_effect (.leaveOff (h.find?_caller hc (hcaller hc)) hp
      (h.enabled.trans hoff)), ?_⟩
    have hset : Excerpt key (s.setCaller i c .gone) (t.setCaller i c .gone) :=
      h.setCaller (hcaller hc)
    refine ⟨hset.enabled, hset.timeout, hset.entry, hset.marker, hset.callers, fun j => ?_⟩
    rw [Table.find?_erase, Table.find?_erase, h.fetches]
    split <;> rfl
  | complete hf hp =>
    exact ⟨_, step_of_effect (.complete (h.find?_fetch hf (hfetch hf)) hp), h.setFetch (hfetch hf)⟩
  | @expire i f hf hp hlate =>
    have hlate' : t.deadline f ≤ now := by
      rw [State.deadline, h.timeout]
      exact hlate
    exact ⟨_, step_of_effect (.expire (h.find?_fetch hf (hfetch hf)) hp hlate'),
      h.setFetch (hfetch hf)⟩
  | crash hf hp hon =>
    exact ⟨_, step_of_effect (.crash (h.find?_fetch hf (hfetch hf)) hp (h.enabled.trans hon)),
      h.setFetch (hfetch hf)⟩
  | keep hf hp hon httl =>
    obtain rfl := hfetch hf
    refine ⟨_, step_of_effect (.keep (h.find?_fetch hf rfl) hp (h.enabled.trans hon) httl), ?_⟩
    exact (h.setEntries (by rw [Table.find?_insert_self, Table.find?_insert_self])).setFetch rfl
  | pass hf hp hbarren =>
    exact ⟨_, step_of_effect (.pass (h.find?_fetch hf (hfetch hf)) hp
      fun answer hresult hon => hbarren answer hresult (h.enabled.symm.trans hon)),
      h.setFetch (hfetch hf)⟩
  | release hf hp =>
    obtain rfl := hfetch hf
    refine ⟨_, step_of_effect (.release (h.find?_fetch hf rfl) hp), ?_⟩
    exact (h.setMarkers (by rw [Table.find?_erase_self, Table.find?_erase_self])).setFetch rfl

/-- **An event about another key leaves the excerpt as it is.** -/
theorem skip (h : Excerpt key s t) (horder : Orderly s) (he : Effect now s e s')
    (habout : (s'.callers.find? e.name).map Caller.key ≠ some key) : Excerpt key s' t := by
  have hcaller {d : Caller} (hd : s.callers.find? e.name = some d) : d.key ≠ key := by
    obtain ⟨p, hd', -⟩ := he.caller_before hd
    rw [hd'] at habout
    exact fun hkey => habout (congrArg some hkey)
  have hfetch {g : Fetch} (hg : s.fetches.find? e.name = some g) : g.key ≠ key := by
    obtain ⟨d, hd, hkey, -⟩ := horder.starter hg
    exact hkey ▸ hcaller hd
  have hset {i : CallerId} {d : Caller} {p : CallerPhase} (hi : e.name = i)
      (hd : s.callers.find? i = some d) : Excerpt key (s.setCaller i d p) t := by
    subst hi
    exact h.setCaller_left (fun _ => hcaller) (hcaller hd)
  cases he with
  | @arrive i k want fresh =>
    have hkey : k ≠ key := by simpa [Event.name] using habout
    exact h.insert_left (fun d hd => by rw [fresh] at hd; cases hd) hkey
  | hit hc | stale hc | miss hc | refuse hc | join hc | lateHit hc | takeAnswer hc | takeError hc
  | leave hc => exact hset rfl hc
  | bypass hc => exact h.startFetch_left (fun _ => hcaller) (fun _ => hfetch) (hcaller hc)
  | drop hc =>
    exact (h.drop_left (hcaller hc) _).setCaller_left (fun _ => hcaller) (hcaller hc)
  | start hc =>
    exact (h.drop_left (hcaller hc) _).startFetch_left (fun _ => hcaller) (fun _ => hfetch)
      (hcaller hc)
  | @leaveOff i c hc =>
    have hset' : Excerpt key (s.setCaller i c .gone) t := hset rfl hc
    refine ⟨hset'.enabled, hset'.timeout, hset'.entry, hset'.marker, hset'.callers, fun j => ?_⟩
    rw [h.fetches, Table.find?_erase]
    split
    case isTrue hj =>
      subst hj
      cases hg : s.fetches.find? j with
      | none => rfl
      | some g => exact Option.filter_some_neg (decide_eq_false (hfetch hg))
    case isFalse => rfl
  | complete hf | expire hf | crash hf | pass hf =>
    exact h.setFetch_left (fun _ => hfetch) (hfetch hf)
  | keep hf =>
    have hne := Ne.symm (hfetch hf)
    exact (h.setEntries (by rw [Table.find?_insert_of_ne _ hne, h.entry])).setFetch_left
      (fun _ => hfetch) (hfetch hf)
  | release hf =>
    have hne := Ne.symm (hfetch hf)
    exact (h.setMarkers (by rw [Table.find?_erase_of_ne _ hne, h.marker])).setFetch_left
      (fun _ => hfetch) (hfetch hf)

/-- **The events about a key can happen by themselves, and lead to an excerpt.** -/
theorem play {names : List CallerId} {events : List (Nat × Event)} (h : Excerpt key s t)
    (hon : s.enabled = true) (horder : Orderly s) (hknown : Known key names s)
    (hplay : s.play events = some s') :
    ∃ t', t.play (eventsOf key names events) = some t' ∧ Excerpt key s' t' := by
  induction events generalizing names s t with
  | nil =>
    rw [State.play, Option.some.injEq] at hplay
    exact ⟨t, rfl, hplay ▸ h⟩
  | cons x rest ih =>
    obtain ⟨now, e⟩ := x
    obtain ⟨next, hstep, hrest⟩ := Option.bind_eq_some_iff.mp hplay
    have he : Effect now s e next := effect_of_step hstep
    have hon' : next.enabled = true := he.enabled_eq.trans hon
    have horder' : Orderly next := horder.of_effect hon he
    have hknown' := hknown.of_effect he
    rw [eventsOf]
    split
    case isTrue hmem =>
      obtain ⟨t', ht', hexcerpt⟩ := h.step horder he ((hknown' _).mp hmem)
      obtain ⟨t'', ht'', hexcerpt'⟩ := ih hexcerpt hon' horder' hknown' hrest
      exact ⟨t'', Option.bind_eq_some_iff.mpr ⟨t', ht', ht''⟩, hexcerpt'⟩
    case isFalse hmem =>
      exact ih (h.skip horder he fun habout => hmem ((hknown' _).mpr habout)) hon' horder' hknown'
        hrest

end Excerpt

/-- **Events about other keys make no difference.**  Take a run of a cache that is switched on, and
leave out all events but those about one key: those of the callers who ask for it, and of the
fetches that they start, at the times at which they happened.  The events that are left can happen
one after the other.  Whenever some of the run has happened, the callers who asked for the key have
come as far as they have where only what is left of it happened, with the same answers and outcomes;
and the fetches that were started for the key, the answer stored under it and the fetch that is
marked are the same as well. -/
theorem keys_are_independent {timeout : Nat} {events : List (Nat × Event)} {s : State}
    (h : (State.start true timeout).play events = some s) (key : Fingerprint) :
    (eventsOf key [] events).Sublist events ∧ ∀ done, done <+: events →
      eventsOf key [] done <+: eventsOf key [] events ∧
        ∃ s t, (State.start true timeout).play done = some s ∧
          (State.start true timeout).play (eventsOf key [] done) = some t ∧ Excerpt key s t := by
  refine ⟨eventsOf_sublist key [] events, fun done hdone => ⟨eventsOf_mono key [] hdone, ?_⟩⟩
  obtain ⟨rest, rfl⟩ := hdone
  obtain ⟨s, hs⟩ := State.exists_play_of_append h
  have hknown : Known key [] (.start true timeout) := fun id => by simp [State.start]
  obtain ⟨t, ht, hexcerpt⟩ :=
    (Excerpt.start key true timeout).play rfl (.start timeout) hknown hs
  exact ⟨s, t, hs, ht, hexcerpt⟩

/-- The fingerprint of another question about the root. -/
def otherRootKey : Fingerprint := .ofQuestion ⟨.root, .aaaa, Dns.classIn⟩ none

/-- Two callers ask for different keys and start a fetch each, of which the one for the second
caller fails. -/
def crossedFetches : List (Nat × Event) :=
  [(0, .arrive 0 rootKey .fetched), (0, .arrive 1 otherRootKey .fetched), (0, .look 1),
    (0, .look 0), (0, .enter 0), (5, .enter 1), (60, .complete 1 (.error .timeout)),
    (70, .complete 0 (.ok rootAnswer)), (70, .store 1), (70, .store 0), (70, .release 0),
    (71, .release 1), (72, .take 0), (72, .take 1)]

/-- Where the second caller never comes, the first one has the same answer at the same time. -/
theorem keys_are_independent_crossedFetches : ∃ s t,
    (State.start true 5000).play crossedFetches = some s ∧
      (State.start true 5000).play [(0, .arrive 0 rootKey .fetched), (0, .look 0), (0, .enter 0),
        (70, .complete 0 (.ok rootAnswer)), (70, .store 0), (70, .release 0), (72, .take 0)] =
        some t ∧
      s.callers.find? 1 = some ⟨otherRootKey, .fetched, .failed .timeout⟩ ∧
      t.callers.find? 1 = none ∧
      t.callers.find? 0 = some ⟨rootKey, .fetched, .answered rootAnswer .fetched⟩ ∧
      Excerpt rootKey s t := by
  have hplay : ∃ s, (State.start true 5000).play crossedFetches = some s ∧
      s.callers.find? 0 = some ⟨rootKey, .fetched, .answered rootAnswer .fetched⟩ ∧
      s.callers.find? 1 = some ⟨otherRootKey, .fetched, .failed .timeout⟩ := ⟨_, rfl, rfl, rfl⟩
  obtain ⟨s, hs, hfirst, hsecond⟩ := hplay
  obtain ⟨-, s', t, hs', ht, hexcerpt⟩ :=
    (keys_are_independent hs rootKey).2 crossedFetches (List.prefix_refl _)
  obtain rfl := Option.some.inj (hs.symm.trans hs')
  refine ⟨s, t, hs, ht, hsecond, ?_, hexcerpt.find?_caller hfirst rfl, hexcerpt⟩
  rw [hexcerpt.callers, hsecond]
  rfl

end Cache

end DohRelay
