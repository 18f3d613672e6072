import DohRelay.Proofs.Service.Run
import Mathlib.Data.List.Count

/-!
# What is counted

Whenever a client gets octets as reply, or nothing in their place, the counters count the query once
and for its resolution, and nothing else changes them.  The counters may be read at any time, and
start over then; what was read and what they tell now, taken together, is how many queries were
replied to in each way, but for the counters that have wrapped around.

## Main definitions

* `Table.count` — how many values in a table are of some kind.
* `State.returned`, `State.replies`, `State.waiting` — how many clients have their replies, or wait.
* `Change` — what an event does to a client and to the counters.
* `Observed` — runs of the service during which the counters are read.
* `total` — what a counter tells now and what was read of it.

## Main results

* `Effect.change` — **an event that gives a client its reply counts it, and no other counts.**
* `State.replies_eq` — the queries with a reply are those with each resolution.
* `Observed.tallied` — **the counters count the replies.**
-/

namespace DohRelay

/-! ### Counting in tables -/

namespace Table

variable {κ α : Type}

/-- How many values in a table are of some kind. -/
def count (t : Table κ α) (p : α → Bool) : Nat :=
  t.entries.countP fun entry => p entry.2

variable [DecidableEq κ]

/-- A removal takes away the value under a key, if there is one. -/
theorem count_erase {t : Table κ α} (h : t.Distinct) (k : κ) (p : α → Bool) :
    (t.erase k).count p + (t.find? k).elim 0 (fun a => (p a).toNat) = t.count p := by
  obtain ⟨entries⟩ := t
  induction entries with
  | nil => rfl
  | cons entry rest ih =>
    obtain ⟨key, a⟩ := entry
    obtain ⟨hnew, hrest⟩ := List.nodup_cons.mp h
    have ih : (erase ⟨rest⟩ k).count p + (find? ⟨rest⟩ k).elim 0 (fun a => (p a).toNat) =
        count ⟨rest⟩ p := ih hrest
    have hhead : (if p a = true then 1 else 0) = (p a).toNat := by cases p a <;> rfl
    by_cases hk : key = k
    · -- the key stands at the head, and so nowhere behind it
      subst hk
      have hkeep : rest.filter (fun entry => entry.1 ≠ key) = rest := by
        refine List.filter_eq_self.mpr fun entry hentry => ?_
        exact decide_eq_true fun hkey => hnew (List.mem_map.mpr ⟨entry, hentry, hkey⟩)
      have hfilter : ((key, a) :: rest).filter (fun entry => entry.1 ≠ key) = rest := by
        rw [List.filter_cons, if_neg (by simp), hkeep]
      have hfind : ((key, a) :: rest).lookup key = some a := List.lookup_cons_self
      simp only [count, erase, find?, hfilter, hfind, Option.elim_some, List.countP_cons, hhead]
    · have hne : (k == key) = false := by simp [Ne.symm hk]
      have hfilter : ((key, a) :: rest).filter (fun entry => entry.1 ≠ k) =
          (key, a) :: rest.filter fun entry => entry.1 ≠ k := by
        rw [List.filter_cons, if_pos (by simpa using hk)]
      have hfind : ((key, a) :: rest).lookup k = rest.lookup k := by rw [List.lookup_cons, hne]
      simp only [count, erase, find?, hfilter, hfind, List.countP_cons] at ih ⊢
      omega

/-- An insertion puts one value in the place of another, if there is one. -/
theorem count_insert {t : Table κ α} (h : t.Distinct) (k : κ) (a : α) (p : α → Bool) :
    (t.insert k a).count p + (t.find? k).elim 0 (fun a => (p a).toNat) =
      t.count p + (p a).toNat := by
  have hcount : (t.insert k a).count p = (t.erase k).count p + (p a).toNat := by
    simp only [count, insert, List.countP_cons]
    cases p a <;> rfl
  rw [hcount, ← count_erase h k p]
  omega

end Table

/-! ### Counters -/

namespace Stats

/-- The counter for a resolution. -/
def counter (r : Resolution) (s : Stats) : UInt64 :=
  match r with
  | .cached => s.cached
  | .forwarded => s.forwarded
  | .shared => s.shared
  | .synthesized => s.synthesized
  | .failed => s.failed

/-- One more query is counted for its resolution, and for no other. -/
theorem counter_record (s : Stats) (r r' : Resolution) (nanos : Nat) :
    (s.record r nanos).counter r' = if r = r' then s.counter r' + 1 else s.counter r' := by
  cases r <;> cases r' <;> rfl

end Stats

/-- A count is told by the sum of what a counter has told, but for its having wrapped around. -/
def CountedBy (n sum : Nat) : Prop :=
  ∃ wraps, n = sum + wraps * UInt64.size

namespace CountedBy

/-- Fewer than a counter can tell are told. -/
theorem eq_of_lt {n sum : Nat} (h : CountedBy n sum) (hlt : n < UInt64.size) : n = sum := by
  obtain ⟨wraps, rfl⟩ := h
  cases wraps with
  | zero => simp
  | succ wraps =>
    rw [Nat.succ_mul] at hlt
    omega

/-- One more is counted. -/
theorem succ {n rest : Nat} {x : UInt64} (h : CountedBy n (x.toNat + rest)) :
    CountedBy (n + 1) ((x + 1).toNat + rest) := by
  obtain ⟨wraps, rfl⟩ := h
  have hx : x.toNat < UInt64.size := x.toNat_lt
  have hsum : (x + 1).toNat = (x.toNat + 1) % UInt64.size := UInt64.toNat_add x 1
  by_cases hwrap : x.toNat + 1 < UInt64.size
  · refine ⟨wraps, ?_⟩
    rw [hsum, Nat.mod_eq_of_lt hwrap]
    omega
  · refine ⟨wraps + 1, ?_⟩
    obtain hfull : x.toNat + 1 = UInt64.size := by omega
    rw [hsum, hfull, Nat.mod_self, Nat.succ_mul]
    omega

end CountedBy

namespace Service

open Cache (CallerId)

/-! ### Clients with replies -/

/-- How a client was replied to that has octets as reply, or nothing in their place. -/
def Stage.reported? : Stage → Option Resolution
  | .replied _ resolution => some resolution
  | _ => none

theorem Stage.reported?_of_not_isOver {stage : Stage} (h : stage.isOver = false) :
    stage.reported? = none := by
  cases stage <;> first | rfl | cases h

namespace State

/-- How many clients have a reply with some resolution. -/
def returned (s : State) (r : Resolution) : Nat :=
  s.clients.count fun c => c.stage.reported? = some r

/-- How many clients have a reply. -/
def replies (s : State) : Nat :=
  s.clients.count fun c => c.stage.reported?.isSome

/-- How many clients have not come to an end. -/
def waiting (s : State) : Nat :=
  s.clients.count fun c => !c.stage.isOver

/-- The queries with a reply are those with each resolution. -/
theorem replies_eq (s : State) : s.replies = s.returned .cached + s.returned .forwarded +
    s.returned .shared + s.returned .synthesized + s.returned .failed := by
  unfold replies returned Table.count
  induction s.clients.entries with
  | nil => rfl
  | cons entry rest ih =>
    simp only [List.countP_cons, ih]
    cases entry.2.stage.reported? with
    | none => simp
    | some r => cases r <;> simp <;> omega

end State

/-! ### What events change -/

/-- What an event does to a client, who comes or gets on, and to the counters. -/
structure Change (s : State) (e : Event) (s' : State) (id : CallerId) (c : Client) : Prop where
  /-- The client is the only one who is another afterwards. -/
  clients : s'.clients = s.clients.insert id c
  /-- The client has just come, or was there and had not come to an end. -/
  came : (s.clients.find? id = none ∧
      ∃ input, e.input? = some (id, input) ∧ c.carrier = input.carrier?) ∨
    e.input? = none ∧ ∃ before, s.clients.find? id = some before ∧
      before.stage.isOver = false ∧ c.carrier = before.carrier
  /-- The counters change if the client has a reply. -/
  counted : c.stage.reported? = none ∧ s'.stats = s.stats ∨
    ∃ r nanos, c.stage.reported? = some r ∧ s'.stats = s.stats.record r nanos
  /-- A client comes to another end if it goes away or has handed in no octets. -/
  ended : c.stage.isOver = true → c.stage.reported? = none → e = .leave id ∨ c.carrier = none

/-- **An event that gives a client its reply counts it, and no other counts.** -/
theorem Effect.change {s s' : State} {e : Event} (h : Effect s e s') :
    e.input? = none ∧ s'.clients = s.clients ∧ s'.stats = s.stats ∨
      ∃ id c, Change s e s' id c := by
  have hgo {id : CallerId} {c : Client} {stage : Stage} {t : State}
      (hc : s.clients.find? id = some c) (hbefore : c.stage.isOver = false)
      (hafter : stage.isOver = false) (hinput : e.input? = none) (ht : t.clients = s.clients)
      (hstats : t.stats = s.stats) :
      Change s e (t.setClient id c stage) id { c with stage } := by
    refine ⟨by rw [← ht]; rfl, .inr ⟨hinput, c, hc, hbefore, rfl⟩,
      .inl ⟨Stage.reported?_of_not_isOver hafter, hstats⟩, fun hover => ?_⟩
    rw [hafter] at hover
    cases hover
  cases h with
  | @malformed id carrier bytes fault fresh =>
    refine .inr ⟨id, _, rfl, .inl ⟨fresh, .octets carrier bytes, rfl, rfl⟩,
      .inr ⟨.failed, _, rfl, rfl⟩, nofun⟩
  | @enroll _ id input query _ hinput hquery fresh =>
    have hwaits : (s.firstStage query).isOver = false := by
      unfold State.firstStage
      split
      case h_1 => rfl
      case h_2 => split <;> rfl
    refine .inr ⟨id, _, rfl, .inl ⟨fresh, input, hinput, rfl⟩,
      .inl ⟨Stage.reported?_of_not_isOver hwaits, rfl⟩, fun hover => ?_⟩
    rw [hwaits] at hover
    cases hover
  | ask hc hstage => exact .inr ⟨_, _, hgo hc (by rw [hstage]; rfl) rfl rfl rfl rfl⟩
  | decideAnswer hc hstage | decideError hc hstage | giveUp hc hstage =>
    exact .inr ⟨_, _, hgo hc (by rw [hstage]; rfl) rfl rfl rfl rfl⟩
  | reply hc hstage =>
    exact .inr ⟨_, _, rfl, .inr ⟨rfl, _, hc, by rw [hstage]; rfl, rfl⟩,
      .inr ⟨_, _, rfl, rfl⟩, nofun⟩
  | tell hc hstage hcarrier =>
    exact .inr ⟨_, _, rfl, .inr ⟨rfl, _, hc, by rw [hstage]; rfl, rfl⟩, .inl ⟨rfl, rfl⟩,
      fun _ _ => .inr hcarrier⟩
  | leave hc hover =>
    exact .inr ⟨_, _, rfl, .inr ⟨rfl, _, hc, hover, rfl⟩, .inl ⟨rfl, rfl⟩, fun _ _ => .inl rfl⟩
  | finish _ hfinishes => cases hfinishes <;> exact .inl ⟨rfl, rfl, rfl⟩
  | _ => exact .inl ⟨rfl, rfl, rfl⟩

namespace Change

variable {s s' : State} {e : Event} {id : CallerId} {c : Client}

/-- Clients stand in the books once. -/
theorem distinct (h : Change s e s' id c) (hs : s.clients.Distinct) : s'.clients.Distinct := by
  rw [h.clients]
  exact hs.insert id c

/-- Of a kind that no client is of who waits, there is one more if the client is of it. -/
theorem count_eq (h : Change s e s' id c) (hs : s.clients.Distinct) {p : Client → Bool}
    (hp : ∀ c, c.stage.isOver = false → p c = false) :
    s'.clients.count p = s.clients.count p + (p c).toNat := by
  have hbefore : ((s.clients.find? id).elim 0 fun c => (p c).toNat) = 0 := by
    rcases h.came with ⟨hnone, -⟩ | ⟨-, before, hfind, hwaits, -⟩
    · rw [hnone]
      rfl
    · rw [hfind, Option.elim_some, hp before hwaits]
      rfl
  rw [h.clients, ← Table.count_insert hs id c p, hbefore, Nat.add_zero]

/-- A reply is counted among those with its resolution. -/
theorem returned_eq (h : Change s e s' id c) (hs : s.clients.Distinct) (r : Resolution) :
    s'.returned r = s.returned r + (decide (c.stage.reported? = some r)).toNat :=
  h.count_eq hs fun c hwaits => by simp [Stage.reported?_of_not_isOver hwaits]

/-- A reply is counted among all of them. -/
theorem replies_eq (h : Change s e s' id c) (hs : s.clients.Distinct) :
    s'.replies = s.replies + c.stage.reported?.isSome.toNat :=
  h.count_eq hs fun c hwaits => by simp [Stage.reported?_of_not_isOver hwaits]

/-- Who has come waits until it comes to an end. -/
theorem waiting_eq (h : Change s e s' id c) (hs : s.clients.Distinct) :
    s'.waiting + (if e.input? = none then 1 else 0) = s.waiting + (!c.stage.isOver).toNat := by
  have hcount := Table.count_insert hs id c fun c => !c.stage.isOver
  rw [← h.clients] at hcount
  rw [State.waiting, State.waiting, ← hcount]
  rcases h.came with ⟨hnone, input, hinput, -⟩ | ⟨hinput, before, hfind, hwaits, -⟩
  · rw [hnone, hinput]
    rfl
  · rw [hfind, hinput, Option.elim_some, hwaits]
    rfl

end Change

/-! ### Runs with readings -/

/-- The moves of a run of the service during which the counters are read, the latest first, what was
read, and the service they lead to. -/
inductive Observed (config : Config) (fetchTimeout : Nat) : List Move → List Stats → State → Prop
  /-- Nothing has happened. -/
  | start : Observed config fetchTimeout [] [] (.start config fetchTimeout)
  /-- One more event happened. -/
  | move {moves : List Move} {readings : List Stats} (m : Move)
      (run : Observed config fetchTimeout moves readings m.before) :
      Observed config fetchTimeout (m :: moves) readings m.after
  /-- The counters were read. -/
  | read {moves : List Move} {readings : List Stats} {s : State}
      (run : Observed config fetchTimeout moves readings s) :
      Observed config fetchTimeout moves (s.takeSnapshot.1 :: readings) s.takeSnapshot.2

/-- What a counter tells now, and what was read of it before. -/
def total (counter : Stats → UInt64) (readings : List Stats) (s : State) : Nat :=
  (s.stats :: readings).foldr (fun stats n => (counter stats).toNat + n) 0

/-- The counters count the replies. -/
structure Tallied (readings : List Stats) (s : State) : Prop where
  /-- Clients stand in the books once. -/
  distinct : s.clients.Distinct
  /-- One counter counts them all. -/
  requests : CountedBy s.replies (total Stats.requests readings s)
  /-- The others count those with each resolution. -/
  resolutions : ∀ r, CountedBy (s.returned r) (total (Stats.counter r) readings s)

theorem total_eq (counter : Stats → UInt64) (readings : List Stats) (s : State) :
    total counter readings s = (counter s.stats).toNat +
      readings.foldr (fun stats n => (counter stats).toNat + n) 0 :=
  List.foldr_cons

/-- Readings take nothing away. -/
theorem total_takeSnapshot {counter : Stats → UInt64} (hzero : counter .zero = 0)
    (readings : List Stats) (s : State) :
    total counter (s.takeSnapshot.1 :: readings) s.takeSnapshot.2 = total counter readings s := by
  have hnow : (counter s.takeSnapshot.2.stats).toNat = 0 := congrArg UInt64.toNat hzero
  rw [total_eq, total_eq, hnow, Nat.zero_add]
  exact List.foldr_cons

namespace Tallied

variable {readings : List Stats} {s s' : State}

/-- **Whatever happens, the counters count the replies.** -/
theorem effect (h : Tallied readings s) {e : Event} (he : Effect s e s') : Tallied readings s' := by
  rcases he.change with ⟨-, hclients, hstats⟩ | ⟨id, c, hchange⟩
  · have htotal (counter : Stats → UInt64) :
        total counter readings s' = total counter readings s := by
      rw [total_eq, total_eq, hstats]
    refine ⟨hclients ▸ h.distinct, ?_, fun r => ?_⟩
    · rw [htotal, State.replies, hclients]
      exact h.requests
    · rw [htotal, State.returned, hclients]
      exact h.resolutions r
  · have hdistinct := hchange.distinct h.distinct
    have hrequests := h.requests
    have hresolutions := h.resolutions
    simp only [total_eq] at hrequests hresolutions
    rcases hchange.counted with ⟨hnone, hstats⟩ | ⟨r, nanos, hreported, hstats⟩
    · refine ⟨hdistinct, ?_, fun r => ?_⟩
      · rw [total_eq, hstats, hchange.replies_eq h.distinct, hnone]
        exact hrequests
      · rw [total_eq, hstats, hchange.returned_eq h.distinct, hnone]
        exact hresolutions r
    · refine ⟨hdistinct, ?_, fun r' => ?_⟩
      · rw [total_eq, hstats, hchange.replies_eq h.distinct, hreported, Stats.requests_record]
        exact hrequests.succ
      · rw [total_eq, hstats, hchange.returned_eq h.distinct, hreported, Stats.counter_record]
        by_cases hsame : r = r'
        · subst hsame
          simpa using (hresolutions r).succ
        · simpa [hsame] using hresolutions r'

/-- Nor do readings change that. -/
theorem takeSnapshot (h : Tallied readings s) :
    Tallied (s.takeSnapshot.1 :: readings) s.takeSnapshot.2 where
  distinct := h.distinct
  requests := by
    rw [total_takeSnapshot rfl]
    exact h.requests
  resolutions r := by
    rw [total_takeSnapshot (by cases r <;> rfl)]
    exact h.resolutions r

end Tallied

namespace Observed

variable {config : Config} {fetchTimeout : Nat} {moves : List Move} {readings : List Stats}
  {s : State}

/-- What holds at the start, is kept by every effect and has nothing to do with the counters holds
at the end of a run. -/
theorem invariant {P : State → Prop} (h : Observed config fetchTimeout moves readings s)
    (hstart : P (.start config fetchTimeout)) (hkeep : ∀ {s e s'}, P s → Effect s e s' → P s')
    (hread : ∀ {s}, P s → P s.takeSnapshot.2) : P s := by
  induction h with
  | start => exact hstart
  | move m _ ih => exact hkeep ih m.effect
  | read _ ih => exact hread ih

/-- **The counters count the replies**, whenever they are read. -/
theorem tallied (h : Observed config fetchTimeout moves readings s) : Tallied readings s := by
  induction h with
  | start => exact ⟨Table.distinct_empty, ⟨0, rfl⟩, fun r => ⟨0, by cases r <;> rfl⟩⟩
  | move m _ ih => exact ih.effect m.effect
  | read _ ih => exact ih.takeSnapshot

end Observed

/-- A run is one during which the counters are not read. -/
theorem Run.observed {config : Config} {fetchTimeout : Nat} {moves : List Move} {s : State}
    (h : Run config fetchTimeout moves s) : Observed config fetchTimeout moves [] s := by
  induction h with
  | start => exact .start
  | move m _ ih => exact .move m ih

/-- The queries of a run are counted where they are replied to. -/
theorem Run.tallied {config : Config} {fetchTimeout : Nat} {moves : List Move} {s : State}
    (h : Run config fetchTimeout moves s) :
    CountedBy s.replies s.stats.requests.toNat ∧
      ∀ r, CountedBy (s.returned r) (s.stats.counter r).toNat := by
  have htallied := h.observed.tallied
  exact ⟨by simpa [total] using htallied.requests, fun r => by
    simpa [total] using htallied.resolutions r⟩

end Service

end DohRelay
