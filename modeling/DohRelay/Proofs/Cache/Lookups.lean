import DohRelay.Cache.State

/-!
# Lookups, step by step

Whoever looks for an answer takes the time first, then reads the store, and if what is there did not
hold at that time drops it in a step of its own.  Other lookups may come between any two of these
steps, and answers may be put into the store, so that what is dropped may not be what was read.
Here the store is looked at by itself, with any number of lookups and any answers that are put there
in any order.

## Main definitions

* `Lookup`, `Store` — lookups and what they look into.
* `Touch`, `Touched` — what can happen to the store, and what comes of it.
* `Store.Move`, `Store.Run` — what has happened, with its times.

## Main results

* `Store.Move.entry_after` — an entry stays until it is dropped or another takes its place.
* `Store.Run.expired_of_dropped` — **what is dropped does not hold any more.**
* `Store.Run.stays` — **what holds stays** as long as nothing takes its place.
* `Store.Run.stays_of_read` — a lookup that read before something was stored does not drop it.
-/

namespace DohRelay.Cache

/-! ### Lookups -/

/-- The name of a lookup: who looks, and whether it is for the second time. -/
abbrev LookupId := CallerId × Bool

/-- How far a lookup has come. -/
inductive LookupPhase
  /-- It took the time and is about to read. -/
  | begun
  /-- It read an answer that did not hold, and is about to drop it. -/
  | dropping
  /-- It is over, with an answer or without. -/
  | over (found : Option Dns.Message)

/-- A lookup. -/
structure Lookup where
  /-- What is looked for. -/
  key : Fingerprint
  /-- The time that was taken at its start. -/
  clock : Nat
  /-- How far it has come. -/
  phase : LookupPhase

/-- The stored answers, with the lookups. -/
structure Store where
  /-- The stored answers. -/
  entries : Entries
  /-- The lookups. -/
  lookups : Table LookupId Lookup

/-- What can happen to the store. -/
inductive Touch
  /-- A lookup starts. -/
  | start (id : LookupId) (key : Fingerprint)
  /-- A lookup reads what is there. -/
  | read (id : LookupId)
  /-- A lookup drops what is there if it did not hold when the lookup started. -/
  | drop (id : LookupId)
  /-- An answer is put there if it may be kept, with a time that was taken before. -/
  | put (key : Fingerprint) (clock : Nat) (answer : Dns.Message)

/-- What a lookup comes to that reads. -/
def Finding.phase : Finding → LookupPhase
  | .fresh answer => .over (some answer)
  | .stale => .dropping
  | .absent => .over none

namespace Store

/-- A store without answers and lookups. -/
def start : Store := ⟨.empty, .empty⟩

/-- The store after a lookup has come to some phase. -/
def setLookup (s : Store) (id : LookupId) (l : Lookup) (phase : LookupPhase) : Store :=
  { s with lookups := s.lookups.insert id { l with phase } }

end Store

/-- What a touch that happens at the time `now` makes of a store. -/
inductive Touched (now : Nat) (s : Store) : Touch → Store → Prop
  /-- A lookup starts, under a name that no other had. -/
  | start {id : LookupId} {key : Fingerprint} (fresh : s.lookups.find? id = none) :
      Touched now s (.start id key) { s with lookups := s.lookups.insert id ⟨key, now, .begun⟩ }
  /-- A lookup that has started reads, and sees what held when it started. -/
  | read {id : LookupId} {l : Lookup} (lookup : s.lookups.find? id = some l)
      (phase : l.phase = .begun) :
      Touched now s (.read id) (s.setLookup id l (s.entries.look l.key l.clock).phase)
  /-- A lookup drops what did not hold when it started, whatever it read. -/
  | drop {id : LookupId} {l : Lookup} (lookup : s.lookups.find? id = some l)
      (phase : l.phase = .dropping) :
      Touched now s (.drop id)
        ({ s with entries := s.entries.drop l.key l.clock }.setLookup id l (.over none))
  /-- An answer is put there. -/
  | put {key : Fingerprint} {clock : Nat} {answer : Dns.Message} (past : clock ≤ now) :
      Touched now s (.put key clock answer) { s with entries := s.entries.store key clock answer }

/-! ### Runs -/

namespace Store

/-- A touch that happened. -/
structure Move where
  /-- When it happened. -/
  time : Nat
  /-- What happened. -/
  touch : Touch
  /-- The store before it. -/
  before : Store
  /-- The store after it. -/
  after : Store
  /-- The touch can happen, and makes the one from the other. -/
  happens : Touched time before touch after

/-- The moves of a run of the store, the latest first, and the store they lead to. -/
inductive Run : List Move → Store → Prop
  /-- Nothing has happened. -/
  | start : Run [] .start
  /-- One more touch happened. -/
  | move {moves : List Move} (m : Move) (run : Run moves m.before)
      (later : ∀ earlier ∈ moves, earlier.time ≤ m.time) : Run (m :: moves) m.after

/-- A move puts an entry into the store. -/
def Move.Puts (m : Move) (key : Fingerprint) (e : Entry) : Prop :=
  m.touch = .put key e.storedAt e.answer ∧ cacheTtl e.answer = some e.ttl

namespace Move

variable {m : Move} {id : LookupId} {l : Lookup} {key : Fingerprint} {e : Entry}

/-- What is put into the store is there. -/
theorem Puts.find? (h : m.Puts key e) : m.after.entries.find? key = some e := by
  obtain ⟨htouch, httl⟩ := h
  have ht := m.happens
  rw [htouch] at ht
  generalize m.after = after at ht
  cases ht
  simp only [Entries.store, httl, Table.find?_insert_self]

/-- There is a lookup that reads, and what it comes to is what it sees. -/
theorem exists_lookup_of_read (h : m.touch = .read id) :
    ∃ l, m.before.lookups.find? id = some l ∧ m.after.lookups.find? id =
      some { l with phase := (m.before.entries.look l.key l.clock).phase } := by
  have ht := m.happens
  rw [h] at ht
  generalize m.after = after at ht
  cases ht with
  | read hl => exact ⟨_, hl, Table.find?_insert_self ..⟩

/-- A lookup that started while an entry held finds it where it is. -/
theorem found_of_read (h : m.touch = .read id) (hl : m.before.lookups.find? id = some l)
    (he : m.before.entries.find? l.key = some e) (hlive : l.clock < e.expiresAt) :
    m.after.lookups.find? id = some { l with phase := .over (some e.answer) } := by
  obtain ⟨k, hk, hafter⟩ := exists_lookup_of_read h
  obtain rfl := Option.some.inj (hl.symm.trans hk)
  rw [hafter, Entries.look_of_live he hlive]
  rfl

/-- A lookup keeps what it looks for and its time. -/
theorem lookup_after (hl : m.before.lookups.find? id = some l) :
    ∃ phase, m.after.lookups.find? id = some { l with phase } := by
  have ht := m.happens
  have hset {i : LookupId} {k : Lookup} (hk : m.before.lookups.find? i = some k)
      (phase : LookupPhase) :
      ∃ q, (m.before.lookups.insert i { k with phase }).find? id = some { l with phase := q } := by
    rw [Table.find?_insert]
    split
    case isTrue hi =>
      subst hi
      obtain rfl := Option.some.inj (hk.symm.trans hl)
      exact ⟨phase, rfl⟩
    case isFalse => exact ⟨l.phase, hl⟩
  generalize m.touch = touch, m.after = after at ht
  cases ht with
  | @start i _ fresh =>
    have hi : id ≠ i := by
      rintro rfl
      rw [fresh] at hl
      cases hl
    exact ⟨l.phase, (Table.find?_insert_of_ne _ hi _).trans hl⟩
  | read hk => exact hset hk _
  | drop hk => exact hset hk _
  | put => exact ⟨l.phase, hl⟩

/-- A lookup was there with the same time, or has just started. -/
theorem lookup_before (hl : m.after.lookups.find? id = some l) :
    (∃ phase, m.before.lookups.find? id = some { l with phase }) ∨ l.clock = m.time := by
  have ht := m.happens
  have hset {i : LookupId} {k : Lookup} {phase : LookupPhase}
      (hk : m.before.lookups.find? i = some k)
      (hl : (m.before.lookups.insert i { k with phase }).find? id = some l) :
      ∃ q, m.before.lookups.find? id = some { l with phase := q } := by
    rcases Table.find?_insert_eq_some.mp hl with ⟨rfl, rfl⟩ | ⟨-, hl⟩
    · exact ⟨k.phase, hk⟩
    · exact ⟨l.phase, hl⟩
  generalize m.touch = touch, m.after = after at ht hl
  cases ht with
  | start =>
    rcases Table.find?_insert_eq_some.mp hl with ⟨-, rfl⟩ | ⟨-, hl⟩
    · exact .inr rfl
    · exact .inl ⟨l.phase, hl⟩
  | read hk => exact .inl (hset hk hl)
  | drop hk => exact .inl (hset hk hl)
  | put => exact .inl ⟨l.phase, hl⟩

/-- An entry stays until it is dropped by a lookup that started when it did not hold any more, or
until another takes its place. -/
theorem entry_after (he : m.before.entries.find? key = some e) :
    m.after.entries.find? key = some e ∨
      (∃ id l, m.touch = .drop id ∧ m.before.lookups.find? id = some l ∧ l.key = key ∧
        e.expiresAt ≤ l.clock) ∨
      ∃ e', m.Puts key e' := by
  have ht := m.happens
  generalize htouch : m.touch = touch, m.after = after at ht
  cases ht with
  | start => exact .inl he
  | read => exact .inl he
  | @drop id l hl =>
    by_cases hdropped : l.key = key ∧ e.expiresAt ≤ l.clock
    · exact .inr (.inl ⟨id, l, rfl, hl, hdropped⟩)
    · refine .inl (?_ : (m.before.entries.drop l.key l.clock).find? key = some e)
      rw [Entries.find?_drop, if_neg, he]
      rintro ⟨rfl, hexpired⟩
      rw [he] at hexpired
      exact hdropped ⟨rfl, of_decide_eq_true hexpired⟩
  | @put k clock answer _ =>
    by_cases hputs : ∃ e', m.Puts key e'
    · exact .inr (.inr hputs)
    · refine .inl (?_ : (m.before.entries.store k clock answer).find? key = some e)
      unfold Entries.store
      split
      case h_1 => exact he
      case h_2 ttl httl =>
        have hkey : key ≠ k := by
          rintro rfl
          exact hputs ⟨⟨answer, clock, ttl⟩, htouch, httl⟩
        rwa [Table.find?_insert_of_ne _ hkey]

end Move

namespace Run

variable {moves later earlier : List Move} {s : Store} {m : Move} {key : Fingerprint} {e : Entry}

/-- A part of a run ends before each of its moves, and is not later than that. -/
theorem before_append (h : Run (later ++ m :: earlier) s) :
    Run earlier m.before ∧ ∀ other ∈ earlier, other.time ≤ m.time := by
  induction later generalizing s with
  | nil =>
    cases h with
    | move _ run htime => exact ⟨run, htime⟩
  | cons last later ih =>
    cases h with
    | move _ run _ => exact ih run

/-- The same of a part behind some moves. -/
theorem exists_part (h : Run (later ++ moves) s) (hm : m ∈ later) :
    ∃ rest, rest ⊆ later ∧ Run (rest ++ moves) m.before ∧
      ∀ other ∈ rest ++ moves, other.time ≤ m.time := by
  obtain ⟨between, rest, rfl⟩ := List.append_of_mem hm
  rw [List.append_assoc, List.cons_append] at h
  obtain ⟨run, htime⟩ := h.before_append
  exact ⟨rest, fun _ hother => List.mem_append_right _ (List.mem_cons_of_mem _ hother), run, htime⟩

/-- A lookup took the time when it started, so no later than anything that follows the run. -/
theorem clock_le (h : Run moves s) {time : Nat} (htime : ∀ m ∈ moves, m.time ≤ time)
    {id : LookupId} {l : Lookup} (hl : s.lookups.find? id = some l) : l.clock ≤ time := by
  induction h generalizing l with
  | start => cases hl
  | move m _ _ ih =>
    obtain ⟨hm, hmoves⟩ := List.forall_mem_cons.mp htime
    rcases m.lookup_before hl with ⟨phase, hbefore⟩ | hclock
    · exact ih (l := { l with phase }) hmoves hbefore
    · exact hclock ▸ hm

/-- So a lookup that has read is one that started before. -/
theorem clock_le_of_read (h : Run moves s) {r : Move} (hr : r ∈ moves) {id : LookupId}
    (hread : r.touch = .read id) : ∃ l, s.lookups.find? id = some l ∧ l.clock ≤ r.time := by
  induction h with
  | start => cases hr
  | move m run htime ih =>
    have hstays {l : Lookup} (hl : m.before.lookups.find? id = some l) (hle : l.clock ≤ r.time) :
        ∃ l, m.after.lookups.find? id = some l ∧ l.clock ≤ r.time := by
      obtain ⟨phase, hafter⟩ := m.lookup_after hl
      exact ⟨_, hafter, hle⟩
    rcases List.mem_cons.mp hr with rfl | hr
    · obtain ⟨l, hl, -⟩ := r.exists_lookup_of_read hread
      exact hstays hl (run.clock_le htime hl)
    · obtain ⟨l, hl, hle⟩ := ih hr
      exact hstays hl hle

/-- **What is dropped does not hold any more.** -/
theorem expired_of_dropped (h : Run moves s) (hm : m ∈ moves)
    (hbefore : m.before.entries.find? key = some e) (hafter : m.after.entries.find? key = none) :
    e.expiresAt ≤ m.time := by
  obtain ⟨later, earlier, rfl⟩ := List.append_of_mem hm
  obtain ⟨run, htime⟩ := h.before_append
  rcases m.entry_after hbefore with hstays | ⟨id, l, -, hl, -, hended⟩ | ⟨e', hputs⟩
  · rw [hafter] at hstays
    cases hstays
  · exact Nat.le_trans hended (run.clock_le htime hl)
  · have hfound := hputs.find?
    rw [hafter] at hfound
    cases hfound

/-- **What holds stays** as long as nothing takes its place. -/
theorem stays {stored : Move} (h : Run (later ++ stored :: earlier) s) (hputs : stored.Puts key e)
    (hkept : ∀ m ∈ later, ∀ e', ¬ m.Puts key e') (hlive : ∀ m ∈ later, m.time < e.expiresAt) :
    s.entries.find? key = some e := by
  induction later generalizing s with
  | nil =>
    cases h with
    | move => exact hputs.find?
  | cons m later ih =>
    cases h with
    | move _ run htime =>
      obtain ⟨hkeptNow, hkept⟩ := List.forall_mem_cons.mp hkept
      obtain ⟨hliveNow, hlive⟩ := List.forall_mem_cons.mp hlive
      rcases m.entry_after (ih run hkept hlive) with hstays | ⟨id, l, -, hl, -, hended⟩ | ⟨e', hp⟩
      · exact hstays
      · exact absurd (Nat.le_trans hended (run.clock_le htime hl)) (Nat.not_le.mpr hliveNow)
      · exact absurd hp (hkeptNow e')

/-- So it is there before and after every move at a time at which it holds. -/
theorem stays_around {stored : Move} (h : Run (later ++ stored :: earlier) s)
    (hputs : stored.Puts key e) (hkept : ∀ m ∈ later, ∀ e', ¬ m.Puts key e') (hm : m ∈ later)
    (hlive : m.time < e.expiresAt) :
    m.before.entries.find? key = some e ∧ m.after.entries.find? key = some e := by
  obtain ⟨rest, hsubset, run, htime⟩ := h.exists_part hm
  have hkeptRest : ∀ n ∈ rest, ∀ e', ¬ n.Puts key e' := fun n hn => hkept n (hsubset hn)
  have hliveRest : ∀ n ∈ rest, n.time < e.expiresAt := fun n hn =>
    Nat.lt_of_le_of_lt (htime n (List.mem_append_left _ hn)) hlive
  have runAfter : Run ((m :: rest) ++ stored :: earlier) m.after := .move m run htime
  exact ⟨run.stays hputs hkeptRest hliveRest, runAfter.stays hputs
    (List.forall_mem_cons.mpr ⟨hkept m hm, hkeptRest⟩)
    (List.forall_mem_cons.mpr ⟨hlive, hliveRest⟩)⟩

/-- A lookup that read before something was stored that holds then does not drop it. -/
theorem stays_of_read {stored : Move} (h : Run (later ++ stored :: earlier) s)
    (hlive : stored.time < e.expiresAt) (hm : m ∈ later) {id : LookupId}
    (hdrop : m.touch = .drop id) {r : Move} (hr : r ∈ earlier) (hread : r.touch = .read id)
    (he : m.before.entries.find? key = some e) : m.after.entries.find? key = some e := by
  obtain ⟨rest, -, run, -⟩ := h.exists_part hm
  obtain ⟨-, htime⟩ := run.before_append
  obtain ⟨l, hl, hle⟩ :=
    run.clock_le_of_read (List.mem_append_right _ (List.mem_cons_of_mem _ hr)) hread
  rcases m.entry_after he with hstays | ⟨i, k, hi, hk, -, hended⟩ | ⟨e', hputs⟩
  · exact hstays
  · obtain rfl : id = i := Touch.drop.inj (hdrop.symm.trans hi)
    obtain rfl := Option.some.inj (hl.symm.trans hk)
    exact absurd (Nat.le_trans hended (Nat.le_trans hle (htime r hr))) (Nat.not_le.mpr hlive)
  · rw [hputs.1] at hdrop
    cases hdrop

end Run

end Store

end DohRelay.Cache
