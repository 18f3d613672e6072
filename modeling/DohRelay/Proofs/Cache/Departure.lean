import DohRelay.Proofs.Cache.Run

/-!
# Callers who are dropped

Two runs of a cache that is switched on are compared: one in which nobody is dropped, and one with
the same events in which some callers are, once they are past the step at which they could start a
fetch.  Whoever is dropped goes away and does nothing more.  The stored answers, the markers, the
fetches and all other callers are then the same in both runs at any time.

## Main definitions

* `Act` — what a plan of a run is made of: events, and callers being dropped.
* `events`, `State.playCut` — the run of a plan in which nobody is dropped, and the one in which the
  callers are.
* `Late`, `Silent` — callers are dropped past their last step to the markers; no event of a plan
  belongs to one who was dropped.
* `Alike` — what two caches have in common.

## Main results

* `Alike.step`, `Alike.skip` — an event of somebody else makes alike of alike, and an event of who
  is dropped in one cache leaves the other as it is.
* `Alike.playCut`, `Alike.play_events` — **where the one run can happen the other can, and the
  caches are alike.**
-/

namespace DohRelay.Cache

/-! ### Plans -/

/-- What a plan of a run is made of. -/
inductive Act
  /-- Something happens. -/
  | event (e : Event)
  /-- A caller is dropped. -/
  | abort (id : CallerId)

/-- The caller that an event belongs to. -/
def Event.caller? : Event → Option CallerId
  | .arrive id _ _ | .look id | .drop id | .enter id | .take id | .leave id => some id
  | _ => none

/-- Whether an event belongs to one of some callers. -/
def Event.isOf (e : Event) (gone : List CallerId) : Bool :=
  e.caller?.any fun id => id ∈ gone

/-- The events of a plan, with nobody dropped. -/
def events : List (Nat × Act) → List (Nat × Event)
  | [] => []
  | (now, .event e) :: rest => (now, e) :: events rest
  | (_, .abort _) :: rest => events rest

/-- The callers who are dropped by a plan. -/
def aborted : List (Nat × Act) → List CallerId
  | [] => []
  | (_, .event _) :: rest => aborted rest
  | (_, .abort id) :: rest => id :: aborted rest

/-- The cache after a plan, if its events can happen, where some callers are gone.  Whoever is
dropped goes away without having come to an end, unless that has happened, and does nothing more. -/
def State.playCut (s : State) (gone : List CallerId) : List (Nat × Act) → Option State
  | [] => some s
  | (now, .event e) :: rest =>
    if e.isOf gone then s.playCut gone rest else (s.step now e).bind (·.playCut gone rest)
  | (_, .abort id) :: rest => ((s.leave id).getD s).playCut (id :: gone) rest

/-- Whoever is dropped is past the step to the markers by then, in the run in which nobody is. -/
def Late (s : State) : List (Nat × Act) → Prop
  | [] => True
  | (now, .event e) :: rest => ∀ s', s.step now e = some s' → Late s' rest
  | (_, .abort id) :: rest =>
    (∃ c, s.callers.find? id = some c ∧ c.phase.isPast = true) ∧ Late s rest

/-- No event of a plan belongs to a caller who is gone or was dropped before. -/
def Silent (gone : List CallerId) : List (Nat × Act) → Prop
  | [] => True
  | (_, .event e) :: rest => e.isOf gone = false ∧ Silent gone rest
  | (_, .abort id) :: rest => Silent (id :: gone) rest

/-- What happens is part of a plan. -/
def Act.ofEvent (x : Nat × Event) : Nat × Act :=
  (x.1, .event x.2)

theorem Event.isOf_eq_false {e : Event} {gone : List CallerId} :
    e.isOf gone = false ↔ ∀ id, e.caller? = some id → id ∉ gone := by
  unfold isOf
  cases e.caller? <;> simp

theorem events_append (done rest : List (Nat × Act)) :
    events (done ++ rest) = events done ++ events rest := by
  induction done with
  | nil => rfl
  | cons x done ih =>
    obtain ⟨now, e | id⟩ := x
    · exact congrArg _ ih
    · exact ih

theorem Late.of_append {done rest : List (Nat × Act)} {s : State} (h : Late s (done ++ rest)) :
    Late s done := by
  induction done generalizing s with
  | nil => trivial
  | cons x done ih =>
    obtain ⟨now, e | id⟩ := x
    · exact fun s' hstep => ih (h s' hstep)
    · exact ⟨h.1, ih h.2⟩

/-- Before the first caller is dropped, a plan is but its events. -/
theorem Late.append {before : List (Nat × Event)} {rest : List (Nat × Act)} {s : State}
    (h : ∀ s', s.play before = some s' → Late s' rest) :
    Late s (before.map Act.ofEvent ++ rest) := by
  induction before generalizing s with
  | nil => exact h s rfl
  | cons x before ih =>
    intro next hstep
    exact ih fun s' hs' => h s' (Option.bind_eq_some_iff.mpr ⟨next, hstep, hs'⟩)

theorem Silent.of_append {done rest : List (Nat × Act)} {gone : List CallerId}
    (h : Silent gone (done ++ rest)) : Silent gone done := by
  induction done generalizing gone with
  | nil => trivial
  | cons x done ih =>
    obtain ⟨now, e | id⟩ := x
    · exact ⟨h.1, ih h.2⟩
    · have hrest : Silent (id :: gone) (done ++ rest) := h
      exact ih hrest

/-- The first events of a run make a run. -/
theorem State.exists_play_of_append {s t : State} {done rest : List (Nat × Event)}
    (h : s.play (done ++ rest) = some t) : ∃ s', s.play done = some s' := by
  induction done generalizing s with
  | nil => exact ⟨s, rfl⟩
  | cons x done ih =>
    obtain ⟨next, hstep, hrest⟩ := Option.bind_eq_some_iff.mp h
    obtain ⟨s', hs'⟩ := ih hrest
    exact ⟨s', Option.bind_eq_some_iff.mpr ⟨next, hstep, hs'⟩⟩

theorem State.exists_playCut_of_append {s t : State} {gone : List CallerId}
    {done rest : List (Nat × Act)} (h : s.playCut gone (done ++ rest) = some t) :
    ∃ t', s.playCut gone done = some t' := by
  induction done generalizing s gone with
  | nil => exact ⟨s, rfl⟩
  | cons x done ih =>
    obtain ⟨now, e | id⟩ := x
    · rw [List.cons_append, State.playCut] at h
      rw [State.playCut]
      split at h
      case isTrue hof => exact if_pos hof ▸ ih h
      case isFalse hof =>
        obtain ⟨next, hstep, hrest⟩ := Option.bind_eq_some_iff.mp h
        obtain ⟨t', ht'⟩ := ih hrest
        exact ⟨t', (if_neg hof).trans (Option.bind_eq_some_iff.mpr ⟨next, hstep, ht'⟩)⟩
    · have hrest : ((s.leave id).getD s).playCut (id :: gone) (done ++ rest) = some t := h
      exact ih hrest

/-! ### Caches that are alike -/

/-- Two caches have everything in common but what concerns the callers who are gone. -/
structure Alike (gone : List CallerId) (s t : State) : Prop where
  /-- Both are switched on or both off. -/
  enabled : t.enabled = s.enabled
  /-- Fetches may take the same time. -/
  timeout : t.timeout = s.timeout
  /-- The same answers are stored. -/
  entries : t.entries = s.entries
  /-- The same fetches are marked. -/
  markers : t.markers = s.markers
  /-- The same fetches were started, and have come as far. -/
  fetches : t.fetches = s.fetches
  /-- All other callers have come as far, with the same results. -/
  callers : ∀ id, id ∉ gone → t.callers.find? id = s.callers.find? id

namespace Alike

variable {gone more : List CallerId} {s s' t t' : State} {now : Nat} {e : Event} {id : CallerId}
  {c : Caller} {p : CallerPhase}

theorem refl (s : State) : Alike gone s s :=
  ⟨rfl, rfl, rfl, rfl, rfl, fun _ _ => rfl⟩

theorem symm (h : Alike gone s t) : Alike gone t s :=
  ⟨h.enabled.symm, h.timeout.symm, h.entries.symm, h.markers.symm, h.fetches.symm,
    fun id hid => (h.callers id hid).symm⟩

/-- Caches are alike all the more where more callers are gone. -/
theorem mono (h : Alike gone s t) (hsub : gone ⊆ more) : Alike more s t :=
  ⟨h.enabled, h.timeout, h.entries, h.markers, h.fetches,
    fun id hid => h.callers id fun hgone => hid (hsub hgone)⟩

/-- Of two caches that are alike, the one is the other but for the callers. -/
theorem eq (h : Alike gone s t) : t = { s with callers := t.callers } := by
  obtain ⟨enabled, timeout, entries, markers, fetches, callers⟩ := t
  obtain ⟨rfl, rfl, rfl, rfl, rfl, -⟩ := h
  rfl

/-- A caller comes, or comes to another phase, in both caches. -/
theorem insert (h : Alike gone s t) :
    Alike gone { s with callers := s.callers.insert id c }
      { t with callers := t.callers.insert id c } := by
  refine ⟨h.enabled, h.timeout, h.entries, h.markers, h.fetches, fun i hi => ?_⟩
  rw [Table.find?_insert, Table.find?_insert, h.callers i hi]

/-- A caller comes to another phase in both caches. -/
theorem setCaller (h : Alike gone s t) : Alike gone (s.setCaller id c p) (t.setCaller id c p) :=
  h.insert

/-- A caller who is gone comes to another phase in one of the caches. -/
theorem setCaller_left (h : Alike gone s t) (hgone : id ∈ gone) :
    Alike gone (s.setCaller id c p) t := by
  refine ⟨h.enabled, h.timeout, h.entries, h.markers, h.fetches, fun i hi => ?_⟩
  rw [State.find?_callers_setCaller, if_neg (by rintro rfl; exact hi hgone)]
  exact h.callers i hi

/-- A fetch comes to another phase in both caches. -/
theorem setFetch (h : Alike gone s t) {f : Fetch} {q : FetchPhase} :
    Alike gone (s.setFetch id f q) (t.setFetch id f q) := by
  refine ⟨h.enabled, h.timeout, h.entries, h.markers, ?_, h.callers⟩
  rw [State.setFetch, State.setFetch, h.fetches]

/-- A fetch is started in both caches. -/
theorem startFetch (h : Alike gone s t) :
    Alike gone (s.startFetch id c now) (t.startFetch id c now) := by
  have hstarted : Alike gone
      { s with
        fetches := s.fetches.insert id ⟨c.key, now, .running⟩
        markers := if s.enabled then s.markers.insert c.key id else s.markers }
      { t with
        fetches := t.fetches.insert id ⟨c.key, now, .running⟩
        markers := if t.enabled then t.markers.insert c.key id else t.markers } :=
    ⟨h.enabled, h.timeout, h.entries, by rw [h.enabled, h.markers], by rw [h.fetches], h.callers⟩
  exact hstarted.setCaller

/-- **An event of a caller who is not gone, or of a fetch, makes alike of alike.** -/
theorem step (h : Alike gone s t) (he : Effect now s e s') (hof : e.isOf gone = false) :
    ∃ t', t.step now e = some t' ∧ Alike gone s' t' := by
  rw [Event.isOf_eq_false] at hof
  have hcaller {i : CallerId} (hid : e.caller? = some i) {d : Option Caller}
      (hd : s.callers.find? i = d) : t.callers.find? i = d :=
    (h.callers i (hof i hid)).trans hd
  -- all that an event looks at but the callers is one and the same in both caches
  have hentries (entries : Entries) : Alike gone { s with entries } { t with entries } :=
    ⟨h.enabled, h.timeout, rfl, h.markers, h.fetches, h.callers⟩
  have hmarkers (markers : Table Fingerprint CallerId) :
      Alike gone { s with markers } { t with markers } :=
    ⟨h.enabled, h.timeout, h.entries, rfl, h.fetches, h.callers⟩
  rw [h.eq] at hcaller hentries hmarkers ⊢
  generalize t.callers = callers at hcaller hentries hmarkers ⊢
  have h : Alike gone s { s with callers } := hentries s.entries
  cases he with
  | arrive fresh => exact ⟨_, step_of_effect (.arrive (hcaller rfl fresh)), h.insert⟩
  | hit hc hp hon hentry hholds =>
    exact ⟨_, step_of_effect (.hit (hcaller rfl hc) hp hon hentry hholds), h.setCaller⟩
  | stale hc hp hon hentry hended =>
    exact ⟨_, step_of_effect (.stale (hcaller rfl hc) hp hon hentry hended), h.setCaller⟩
  | miss hc hp hon hentry =>
    exact ⟨_, step_of_effect (.miss (hcaller rfl hc) hp hon hentry), h.setCaller⟩
  | refuse hc hp hoff hwant =>
    exact ⟨_, step_of_effect (.refuse (hcaller rfl hc) hp hoff hwant), h.setCaller⟩
  | bypass hc hp hoff hwant =>
    exact ⟨_, step_of_effect (.bypass (hcaller rfl hc) hp hoff hwant), h.startFetch⟩
  | drop hc hp =>
    exact ⟨_, step_of_effect (.drop (hcaller rfl hc) hp), (hentries _).setCaller⟩
  | join hc hp hm => exact ⟨_, step_of_effect (.join (hcaller rfl hc) hp hm), h.setCaller⟩
  | lateHit hc hp hm hentry hholds =>
    exact ⟨_, step_of_effect (.lateHit (hcaller rfl hc) hp hm hentry hholds), h.setCaller⟩
  | start hc hp hm hended =>
    exact ⟨_, step_of_effect (.start (hcaller rfl hc) hp hm hended), (hentries _).startFetch⟩
  | takeAnswer hc hp hf hr =>
    exact ⟨_, step_of_effect (.takeAnswer (hcaller rfl hc) hp hf hr), h.setCaller⟩
  | takeError hc hp hf hr =>
    exact ⟨_, step_of_effect (.takeError (hcaller rfl hc) hp hf hr), h.setCaller⟩
  | leave hc hp hon => exact ⟨_, step_of_effect (.leave (hcaller rfl hc) hp hon), h.setCaller⟩
  | leaveOff hc hp hoff =>
    refine ⟨_, step_of_effect (.leaveOff (hcaller rfl hc) hp hoff), ?_⟩
    exact ⟨rfl, rfl, rfl, rfl, rfl, h.setCaller.callers⟩
  | complete hf hp => exact ⟨_, step_of_effect (.complete hf hp), h.setFetch⟩
  | expire hf hp hlate => exact ⟨_, step_of_effect (.expire hf hp hlate), h.setFetch⟩
  | crash hf hp hon => exact ⟨_, step_of_effect (.crash hf hp hon), h.setFetch⟩
  | keep hf hp hon httl =>
    exact ⟨_, step_of_effect (.keep hf hp hon httl), (hentries _).setFetch⟩
  | pass hf hp hbarren => exact ⟨_, step_of_effect (.pass hf hp hbarren), h.setFetch⟩
  | release hf hp => exact ⟨_, step_of_effect (.release hf hp), (hmarkers _).setFetch⟩

/-- **An event of a caller who is gone in one cache, and in the other past the step to the markers,
leaves them alike.** -/
theorem skip (h : Alike gone s t) (hon : s.enabled = true)
    (hpast : ∀ i ∈ gone, ∃ d, s.callers.find? i = some d ∧ d.phase.isPast = true)
    (he : Effect now s e s') (hof : e.isOf gone = true) : Alike gone s' t := by
  obtain ⟨i, hid, hi⟩ : ∃ i, e.caller? = some i ∧ i ∈ gone := by
    simpa [Event.isOf, Option.any_eq_true] using hof
  obtain ⟨d, hd, hdpast⟩ := hpast i hi
  -- one who is past that step only takes a result, or goes away
  have hearly {d' : Caller} (hd' : s.callers.find? i = some d') (hp : d'.phase.isPast = false) :
      False := by
    rw [hd, Option.some.injEq] at hd'
    rw [hd', hp] at hdpast
    cases hdpast
  cases he with
  | arrive fresh =>
    cases hid
    rw [hd] at fresh
    cases fresh
  | hit hc hp | stale hc hp | miss hc hp | refuse hc hp | bypass hc hp | drop hc hp | join hc hp
  | lateHit hc hp | start hc hp =>
    cases hid
    exact (hearly hc (by rw [hp]; rfl)).elim
  | takeAnswer | takeError | leave =>
    cases hid
    exact h.setCaller_left hi
  | leaveOff _ _ hoff =>
    rw [hon] at hoff
    cases hoff
  | _ => cases hid

/-- A caller is dropped in one of the caches. -/
theorem abort (h : Alike gone s t) (hon : s.enabled = true) :
    Alike (id :: gone) s ((t.leave id).getD t) := by
  have hmore : Alike (id :: gone) s t := h.mono (List.subset_cons_self _ _)
  cases hleave : t.leave id with
  | none => exact hmore
  | some t' =>
    have he : Effect 0 t (.leave id) t' := effect_of_step hleave
    rw [Option.getD_some]
    cases he with
    | leave => exact (hmore.symm.setCaller_left List.mem_cons_self).symm
    | leaveOff _ _ hoff =>
      rw [h.enabled, hon] at hoff
      cases hoff

end Alike

/-! ### Runs that are alike -/

/-- **Where the run in which nobody is dropped can happen, the other can, and the caches are
alike.** -/
theorem Alike.playCut {gone : List CallerId} {s s' t : State} {plan : List (Nat × Act)}
    (h : Alike gone s t) (hon : s.enabled = true)
    (hpast : ∀ i ∈ gone, ∃ d, s.callers.find? i = some d ∧ d.phase.isPast = true)
    (hlate : Late s plan) (hplay : s.play (events plan) = some s') :
    ∃ t', t.playCut gone plan = some t' ∧ Alike (aborted plan ++ gone) s' t' := by
  induction plan generalizing gone s t with
  | nil =>
    rw [events, State.play, Option.some.injEq] at hplay
    exact ⟨t, rfl, hplay ▸ h⟩
  | cons x rest ih =>
    obtain ⟨now, e | id⟩ := x
    · obtain ⟨next, hstep, hrest⟩ := Option.bind_eq_some_iff.mp hplay
      have he : Effect now s e next := effect_of_step hstep
      have hnext : ∀ i ∈ gone, ∃ d, next.callers.find? i = some d ∧ d.phase.isPast = true := by
        intro i hi
        obtain ⟨d, hd, hdpast⟩ := hpast i hi
        exact he.isPast hd hdpast
      have hon' : next.enabled = true := he.enabled_eq.trans hon
      rw [State.playCut]
      split
      case isTrue hof => exact ih (h.skip hon hpast he hof) hon' hnext (hlate _ hstep) hrest
      case isFalse hof =>
        obtain ⟨t', ht', halike⟩ := h.step he (Bool.eq_false_iff.mpr hof)
        obtain ⟨u, hu, huv⟩ := ih halike hon' hnext (hlate _ hstep) hrest
        exact ⟨u, Option.bind_eq_some_iff.mpr ⟨t', ht', hu⟩, huv⟩
    · obtain ⟨u, hu, huv⟩ := ih (h.abort hon) hon (List.forall_mem_cons.mpr ⟨hlate.1, hpast⟩)
        hlate.2 hplay
      exact ⟨u, hu, huv.mono (by intro i; simp [aborted, or_left_comm])⟩

/-- **Where the run in which callers are dropped can happen, so that they do nothing more, the other
can, and the caches are alike.** -/
theorem Alike.play_events {gone : List CallerId} {s t t' : State} {plan : List (Nat × Act)}
    (h : Alike gone s t) (hon : s.enabled = true) (hsilent : Silent gone plan)
    (hcut : t.playCut gone plan = some t') :
    ∃ s', s.play (events plan) = some s' ∧ Alike (aborted plan ++ gone) s' t' := by
  induction plan generalizing gone s t with
  | nil =>
    rw [State.playCut, Option.some.injEq] at hcut
    exact ⟨s, rfl, hcut ▸ h⟩
  | cons x rest ih =>
    obtain ⟨now, e | id⟩ := x
    · rw [State.playCut, hsilent.1, if_neg (by simp)] at hcut
      obtain ⟨next, hstep, hrest⟩ := Option.bind_eq_some_iff.mp hcut
      obtain ⟨s', hs', halike⟩ := h.symm.step (effect_of_step hstep) hsilent.1
      have hon' : s'.enabled = true := (effect_of_step hs').enabled_eq.trans hon
      obtain ⟨u, hu, huv⟩ := ih halike.symm hon' hsilent.2 hrest
      exact ⟨u, Option.bind_eq_some_iff.mpr ⟨s', hs', hu⟩, huv⟩
    · obtain ⟨u, hu, huv⟩ := ih (h.abort hon) hon hsilent hcut
      exact ⟨u, hu, huv.mono (by intro i; simp [aborted, or_left_comm])⟩

end DohRelay.Cache
