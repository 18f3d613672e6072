import DohRelay.Cache.Fingerprint
import DohRelay.Table

/-!
# Stored answers

Answers are stored under the fingerprints of their questions.  An answer that is looked up after its
time is dropped then.  Times are in milliseconds.

## Main definitions

* `Entry` — a stored answer.
* `Entries`, `Entries.look`, `Entries.drop`, `Entries.store` — the store and its operations.

## Main results

* `Entries.look_of_live`, `Entries.look_of_expired` — what is found.
* `Entries.find?_drop`, `Entries.drop_of_not_stale` — what is dropped.
-/

namespace DohRelay.Cache

/-- A stored answer. -/
structure Entry where
  /-- The answer. -/
  answer : Dns.Message
  /-- When it was stored. -/
  storedAt : Nat
  /-- How many seconds it holds. -/
  ttl : UInt32
  deriving DecidableEq, Repr

/-- When a stored answer does not hold any more. -/
def Entry.expiresAt (e : Entry) : Nat :=
  e.storedAt + e.ttl.toNat * 1000

/-- Whether a stored answer does not hold any more. -/
def Entry.isExpired (e : Entry) (now : Nat) : Bool :=
  e.expiresAt ≤ now

/-- The store. -/
abbrev Entries := Table Fingerprint Entry

/-- What is found in the store. -/
inductive Finding
  /-- An answer that holds. -/
  | fresh (answer : Dns.Message)
  /-- An answer that holds no more. -/
  | stale
  /-- Nothing. -/
  | absent
  deriving DecidableEq, Repr

namespace Entries

/-- Looks for an answer. -/
def look (es : Entries) (key : Fingerprint) (now : Nat) : Finding :=
  match es.find? key with
  | none => .absent
  | some e => if e.isExpired now then .stale else .fresh e.answer

/-- Drops an answer if it does not hold any more. -/
def drop (es : Entries) (key : Fingerprint) (now : Nat) : Entries :=
  if (es.find? key).any (·.isExpired now) then es.erase key else es

/-- Stores an answer if it may be kept. -/
def store (es : Entries) (key : Fingerprint) (now : Nat) (answer : Dns.Message) : Entries :=
  match cacheTtl answer with
  | none => es
  | some ttl => es.insert key ⟨answer, now, ttl⟩

variable {es : Entries} {key : Fingerprint} {now : Nat} {e : Entry}

/-- What holds is found. -/
theorem look_of_live (he : es.find? key = some e) (hlive : now < e.expiresAt) :
    es.look key now = .fresh e.answer := by
  have hfresh : e.isExpired now = false := decide_eq_false (Nat.not_le.mpr hlive)
  simp only [look, he, hfresh, Bool.false_eq_true, if_false]

/-- What holds no more is found to be stale. -/
theorem look_of_expired (he : es.find? key = some e) (hended : e.expiresAt ≤ now) :
    es.look key now = .stale := by
  have hexpired : e.isExpired now = true := decide_eq_true hended
  simp only [look, he, hexpired, if_true]

/-- What a drop leaves under a key depends on what was there. -/
theorem find?_drop (es : Entries) (key k : Fingerprint) (now : Nat) :
    (es.drop key now).find? k =
      if k = key ∧ (es.find? key).any (·.isExpired now) = true then none else es.find? k := by
  unfold drop
  by_cases hexpired : (es.find? key).any (·.isExpired now) = true
  · simp [hexpired, Table.find?_erase]
  · simp [hexpired]

/-- Nothing is dropped but what is found to hold no more. -/
theorem drop_of_not_stale (h : es.look key now ≠ .stale) : es.drop key now = es := by
  unfold drop
  split
  case isFalse => rfl
  case isTrue hexpired =>
    obtain ⟨e, he, hexpired⟩ := (Option.any_eq_true _ _).mp hexpired
    exact absurd (look_of_expired he (of_decide_eq_true hexpired)) h

end Entries

end DohRelay.Cache
