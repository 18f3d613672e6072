import DohRelay.Proofs.Cache.SingleFlight
import Mathlib.Data.List.Perm.Basic
import Mathlib.Data.List.Nodup

/-!
# Which fetches are marked

In a cache that is switched on, the markers are those of the fetches whose marker was not taken away
yet, each under the key of its fetch.  So there are as many markers as such fetches, and where every
fetch for a key has come to its end, the next caller who finds no answer under it starts another.

## Main definitions

* `FetchPhase.isMarked` — whether the marker of a fetch is still there.
* `Tidy` — the markers are those of the fetches that say so; this is what every event keeps.

## Main results

* `Tidy.of_run` — every run keeps the markers tidy.
* `Run.size_markers` — there are as many markers as fetches that are marked.
* `Run.starts_of_released` — **where all fetches for a key are over, the next miss starts one.**
-/

namespace DohRelay.Cache

/-- Whether the marker of a fetch is still there: it stays until it is taken away, and a fetch that
dies does not do that. -/
def FetchPhase.isMarked : FetchPhase → Bool
  | .released _ => false
  | _ => true

/-- Of the fetches that have not died, those that can be joined are marked. -/
theorem FetchPhase.isMarked_eq_isOpen {p : FetchPhase} (h : p ≠ .crashed) :
    p.isMarked = p.isOpen := by
  cases p with
  | crashed => exact absurd rfl h
  | _ => rfl

/-- The markers are those of the fetches that are marked, each under the key of its fetch. -/
def Tidy (s : State) : Prop :=
  ∀ key id, s.markers.find? key = some id ↔
    ∃ f, s.fetches.find? id = some f ∧ f.key = key ∧ f.phase.isMarked = true

namespace Tidy

variable {s s' : State} {id : CallerId} {c : Caller} {f : Fetch}

/-- Markers are tidy or not whatever else there is than fetches. -/
theorem congr (h : Tidy s) (hmarkers : s'.markers = s.markers) (hfetches : s'.fetches = s.fetches) :
    Tidy s' := by
  intro key i
  rw [hmarkers, hfetches]
  exact h key i

/-- A fetch comes to another phase, and its marker stays. -/
theorem setFetch (h : Tidy s) (hf : s.fetches.find? id = some f) {p : FetchPhase}
    (hp : p.isMarked = f.phase.isMarked) : Tidy (s.setFetch id f p) := by
  intro key i
  rw [State.markers_setFetch, State.find?_fetches_setFetch, h key i]
  split
  case isTrue hi =>
    subst hi
    simp [hf, hp]
  case isFalse => rfl

/-- A fetch is started where none is marked, under a name that none had. -/
theorem startFetch (h : Tidy s) (hon : s.enabled = true) (hm : s.markers.find? c.key = none)
    (hnew : s.fetches.find? id = none) (now : Nat) : Tidy (s.startFetch id c now) := by
  intro key i
  rw [State.find?_markers_startFetch _ _ _ _ hon, State.find?_fetches_startFetch]
  by_cases hi : i = id
  · -- the name of the new fetch stands under no other key, since no fetch had it before
    subst hi
    have hnone : s.markers.find? key ≠ some i := by
      rw [ne_eq, h key i, hnew]
      simp
    by_cases hkey : key = c.key
    · simp [hkey, FetchPhase.isMarked]
    · simp [hkey, hnone, Ne.symm hkey]
  · rw [if_neg hi, ← h key i]
    by_cases hkey : key = c.key
    · simp [hkey, hm, Ne.symm hi]
    · rw [if_neg hkey]

/-- The marker of a fetch is taken away. -/
theorem release (h : Tidy s) (hf : s.fetches.find? id = some f) {result : FetchResult}
    (hp : f.phase = .stored result) :
    Tidy ({ s with markers := s.markers.erase f.key }.setFetch id f (.released result)) := by
  have hmark : s.markers.find? f.key = some id :=
    (h f.key id).mpr ⟨f, hf, rfl, by rw [hp]; rfl⟩
  intro key i
  rw [State.markers_setFetch, Table.find?_erase, State.find?_fetches_setFetch]
  by_cases hi : i = id
  · -- the fetch was marked under its own key only
    subst hi
    have hother : key ≠ f.key → s.markers.find? key ≠ some i := by
      intro hkey hfound
      obtain ⟨g, hg, hgkey, -⟩ := (h key i).mp hfound
      rw [hf, Option.some.injEq] at hg
      exact hkey (hg ▸ hgkey.symm)
    by_cases hkey : key = f.key
    · simp [hkey, FetchPhase.isMarked]
    · simp [hkey, hother hkey, FetchPhase.isMarked]
  · rw [if_neg hi, ← h key i]
    by_cases hkey : key = f.key
    · simp [hkey, hmark, Ne.symm hi]
    · rw [if_neg hkey]

/-- Every event keeps the markers tidy. -/
theorem of_effect (h : Tidy s) (horder : Orderly s) (hon : s.enabled = true) {now : Nat}
    {e : Event} (he : Effect now s e s') : Tidy s' := by
  cases he with
  | bypass _ _ hoff | leaveOff _ _ hoff =>
    rw [hon] at hoff
    cases hoff
  | @start id c hc hp hm =>
    have hnew := horder.find?_eq_none hc (by simp [hp, CallerPhase.hasStarted])
    have hdropped : Tidy { s with entries := s.entries.drop c.key now } := h.congr rfl rfl
    exact hdropped.startFetch hon hm hnew now
  | complete hf hp | expire hf hp | crash hf hp =>
    exact h.setFetch hf (by simp [hp, FetchPhase.isMarked])
  | @keep id f answer ttl hf hp =>
    have hkept : Tidy { s with entries := s.entries.insert f.key ⟨answer, now, ttl⟩ } :=
      h.congr rfl rfl
    exact hkept.setFetch hf (by simp [hp, FetchPhase.isMarked])
  | pass hf hp => exact h.setFetch hf (by simp [hp, FetchPhase.isMarked])
  | release hf hp => exact h.release hf hp
  | _ => exact h.congr rfl rfl

/-- **Every run keeps the markers tidy.** -/
theorem of_run {timeout : Nat} {moves : List Move} (h : Run true timeout moves s) : Tidy s := by
  have hboth : Orderly s ∧ Tidy s := by
    refine h.invariant (P := fun s => Orderly s ∧ Tidy s) ⟨.start timeout, ?_⟩ ?_
    · intro key id
      simp [State.start]
    · intro now s e s' hon ih he
      exact ⟨ih.1.of_effect hon he, ih.2.of_effect ih.1 hon he⟩
  exact hboth.2

end Tidy

/-! ### How many there are -/

/-- No key and no name stands twice among the markers and among the fetches. -/
theorem Effect.distinct {now : Nat} {s s' : State} {e : Event} (he : Effect now s e s')
    (hmarkers : s.markers.Distinct) (hfetches : s.fetches.Distinct) :
    s'.markers.Distinct ∧ s'.fetches.Distinct := by
  have hstart (t : State) (id : CallerId) (c : Caller) (ht : t.markers = s.markers) :
      (t.startFetch id c now).markers.Distinct := by
    unfold State.startFetch
    rw [State.markers_setCaller, ht]
    split
    · exact hmarkers.insert _ _
    · exact hmarkers
  cases he with
  | bypass | start => exact ⟨hstart _ _ _ rfl, hfetches.insert _ _⟩
  | leaveOff => exact ⟨hmarkers, hfetches.erase _⟩
  | complete | expire | crash | keep | pass => exact ⟨hmarkers, hfetches.insert _ _⟩
  | release => exact ⟨hmarkers.erase _, hfetches.insert _ _⟩
  | _ => exact ⟨hmarkers, hfetches⟩

namespace Run

variable {timeout : Nat} {moves : List Move} {s : State}

/-- **There are as many markers as fetches that are marked.** -/
theorem size_markers (h : Run true timeout moves s) :
    s.markers.size = (s.fetches.values.filter fun f => f.phase.isMarked).length := by
  obtain ⟨hmarkers, hfetches⟩ : s.markers.Distinct ∧ s.fetches.Distinct :=
    h.invariant (P := fun s => s.markers.Distinct ∧ s.fetches.Distinct)
      ⟨Table.distinct_empty, Table.distinct_empty⟩ fun _ ih he => he.distinct ih.1 ih.2
  have htidy := Tidy.of_run h
  let marked := s.fetches.entries.filter fun entry => entry.2.phase.isMarked
  -- both lists tell the key and the name of each fetch that is marked, and none of them twice
  have hmem (pair : Fingerprint × CallerId) :
      pair ∈ s.markers.entries ↔ pair ∈ marked.map fun entry => (entry.2.key, entry.1) := by
    obtain ⟨key, id⟩ := pair
    rw [← hmarkers.find?_eq_some_iff, htidy key id]
    simp only [marked, List.mem_map, List.mem_filter, Prod.mk.injEq, Prod.exists,
      ← hfetches.find?_eq_some_iff]
    constructor
    · rintro ⟨f, hf, hkey, hp⟩
      exact ⟨id, f, ⟨hf, hp⟩, hkey, rfl⟩
    · rintro ⟨id, f, ⟨hf, hp⟩, hkey, rfl⟩
      exact ⟨f, hf, hkey, hp⟩
  have hnodup : (marked.map fun entry => (entry.2.key, entry.1)).Nodup := by
    have hnames : (marked.map Prod.fst).Nodup := hfetches.sublist (List.filter_sublist.map _)
    refine List.Nodup.of_map Prod.snd ?_
    rwa [List.map_map]
  have hperm := (List.perm_ext_iff_of_nodup hmarkers.of_map hnodup).mpr hmem
  have hvalues : (s.fetches.values.filter fun f => f.phase.isMarked).length = marked.length := by
    rw [Table.values, List.filter_map, List.length_map]
    rfl
  rw [Table.size, hperm.length_eq, List.length_map, hvalues]

/-- **Where all fetches for a key are over, the next miss starts one**: whoever has found no answer
under the key and comes to the markers when none holds. -/
theorem starts_of_released (h : Run true timeout moves s) {key : Fingerprint}
    (hreleased : ∀ id f, s.fetches.find? id = some f → f.key = key → f.phase.isMarked = false)
    {id : CallerId} {c : Caller} (hc : s.callers.find? id = some c) (hkey : c.key = key)
    (hp : c.phase = .entering) {now : Nat}
    (hended : ∀ e, s.entries.find? key = some e → e.isExpired now = true) :
    ∃ s', s.step now (.enter id) = some s' ∧
      s'.fetches.find? id = some ⟨key, now, .running⟩ ∧ s'.markers.find? key = some id := by
  subst hkey
  have hnone : s.markers.find? c.key = none := by
    cases hm : s.markers.find? c.key with
    | none => rfl
    | some other =>
      obtain ⟨f, hf, hkey, hmarked⟩ := (Tidy.of_run h c.key other).mp hm
      rw [hreleased other f hf hkey] at hmarked
      cases hmarked
  have hstart := step_of_effect (.start hc hp hnone fun e he => of_decide_eq_true (hended e he))
  refine ⟨_, hstart, ?_, ?_⟩
  · rw [State.find?_fetches_startFetch, if_pos rfl]
  · exact (State.find?_markers_startFetch _ id c now h.enabled_eq c.key).trans (if_pos rfl)

end Run

end DohRelay.Cache
