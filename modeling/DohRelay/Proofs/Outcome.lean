import Mathlib.Data.List.Forall2

/-!
# Outcomes

Most of what the relay does may fail, and a fault ends whatever it is part of.  So what is made of
several steps succeeds only if each of them does.

## Main results

* `exists_of_bind_eq_ok` — a step that comes after another succeeds only if that one does.
* `mapM_eq_ok_iff` — **steps succeed in a row just if they succeed one by one.**
-/

namespace DohRelay

variable {ε α β : Type}

/-- What comes after another outcome succeeds only if that one does. -/
theorem exists_of_bind_eq_ok {outcome : Except ε α} {k : α → Except ε β} {b : β}
    (h : (outcome >>= k) = .ok b) : ∃ a, outcome = .ok a ∧ k a = .ok b := by
  cases outcome with
  | error e => cases h
  | ok a => exact ⟨a, rfl, h⟩

theorem eq_ok_of_toOption {outcome : Except ε α} {a : α} (h : outcome.toOption = some a) :
    outcome = .ok a := by
  cases outcome with
  | error e => cases h
  | ok b => exact congrArg Except.ok (Option.some.inj h)

section

variable {f : α → Except ε β} {as : List α} {bs : List β}

/-- **Steps succeed in a row just if they succeed one by one.** -/
theorem mapM_eq_ok_iff : as.mapM f = .ok bs ↔ List.Forall₂ (fun a b => f a = .ok b) as bs := by
  constructor
  · intro h
    induction as generalizing bs with
    | nil =>
      cases h
      exact .nil
    | cons a as ih =>
      rw [List.mapM_cons] at h
      obtain ⟨b, hb, h⟩ := exists_of_bind_eq_ok h
      obtain ⟨bs', hbs', h⟩ := exists_of_bind_eq_ok h
      cases h
      exact .cons hb (ih hbs')
  · intro h
    induction h with
    | nil => rfl
    | cons hb _ ih =>
      rw [List.mapM_cons, hb, ih]
      rfl

/-- A list of steps that succeeds has an outcome of each, -/
theorem exists_of_mapM (h : as.mapM f = .ok bs) {a : α} (ha : a ∈ as) : ∃ b ∈ bs, f a = .ok b := by
  have hsteps := mapM_eq_ok_iff.mp h
  obtain ⟨i, hi, rfl⟩ := List.mem_iff_getElem.mp ha
  have hi' : i < bs.length := hsteps.length_eq ▸ hi
  exact ⟨bs[i], List.getElem_mem hi', hsteps.get hi hi'⟩

/-- and each outcome is that of one of them. -/
theorem exists_of_mem_mapM (h : as.mapM f = .ok bs) {b : β} (hb : b ∈ bs) :
    ∃ a ∈ as, f a = .ok b := by
  have hsteps := mapM_eq_ok_iff.mp h
  obtain ⟨i, hi, rfl⟩ := List.mem_iff_getElem.mp hb
  have hi' : i < as.length := hsteps.length_eq ▸ hi
  exact ⟨as[i], List.getElem_mem hi', hsteps.get hi' hi⟩

end

end DohRelay
