/-!
# Tables

Values under keys, at most one under each.

## Main definitions

* `Table` — the type.
* `Table.find?`, `Table.insert`, `Table.erase`, `Table.size` — its operations.
* `Table.Distinct` — no key stands in a table twice.

## Main results

* `find?_insert`, `find?_insert_self`, `find?_insert_of_ne` — what an insertion changes.
* `find?_erase`, `find?_erase_self`, `find?_erase_of_ne` — what a removal changes.
* `Distinct.find?_eq_some_iff` — what is found is what stands there.
-/

namespace DohRelay

/-- Values under keys, the latest first. -/
structure Table (κ α : Type) where
  /-- The keys with their values. -/
  entries : List (κ × α)
  deriving Repr

namespace Table

variable {κ α : Type}

/-- The table with nothing in it. -/
def empty : Table κ α := ⟨[]⟩

/-- How many keys have a value. -/
def size (t : Table κ α) : Nat :=
  t.entries.length

/-- The values, those of later keys first. -/
def values (t : Table κ α) : List α :=
  t.entries.map Prod.snd

/-- No key stands in a table twice. -/
def Distinct (t : Table κ α) : Prop :=
  (t.entries.map Prod.fst).Nodup

theorem distinct_empty : (empty : Table κ α).Distinct :=
  .nil

variable [DecidableEq κ]

/-- The value under a key. -/
def find? (t : Table κ α) (k : κ) : Option α :=
  t.entries.lookup k

/-- The table without a key. -/
def erase (t : Table κ α) (k : κ) : Table κ α :=
  ⟨t.entries.filter fun entry => entry.1 ≠ k⟩

/-- The table with a value under a key, in the place of any that was there. -/
def insert (t : Table κ α) (k : κ) (a : α) : Table κ α :=
  ⟨(k, a) :: (t.erase k).entries⟩

/-- The table with the value under a key changed, if there is one. -/
def modify (t : Table κ α) (k : κ) (f : α → α) : Table κ α :=
  ⟨t.entries.map fun entry => if entry.1 = k then (entry.1, f entry.2) else entry⟩

@[simp] theorem find?_empty (k : κ) : (empty : Table κ α).find? k = none := rfl

private theorem lookup_filter_ne {l : List (κ × α)} {k k' : κ} :
    (l.filter fun entry => entry.1 ≠ k).lookup k' = if k' = k then none else l.lookup k' := by
  induction l with
  | nil => simp
  | cons entry rest ih =>
    obtain ⟨key, a⟩ := entry
    by_cases h : key = k
    · by_cases h' : k' = k
      · simpa [List.filter_cons, h, h'] using ih
      · have hk : (k' == k) = false := by simp [h']
        simpa [List.filter_cons, List.lookup_cons, h, h', hk] using ih
    · by_cases h' : k' = key
      · have hk : k' ≠ k := h' ▸ h
        simp [h, h']
      · have hk : (k' == key) = false := by simp [h']
        simpa [List.filter_cons, List.lookup_cons, h, hk] using ih

@[simp] theorem find?_erase_self (t : Table κ α) (k : κ) : (t.erase k).find? k = none := by
  simp only [find?, erase, lookup_filter_ne, if_true]

theorem find?_erase_of_ne (t : Table κ α) {k k' : κ} (h : k' ≠ k) :
    (t.erase k).find? k' = t.find? k' := by
  simp only [find?, erase, lookup_filter_ne, h, if_false]

@[simp] theorem find?_insert_self (t : Table κ α) (k : κ) (a : α) :
    (t.insert k a).find? k = some a := by
  simp [find?, insert]

theorem find?_insert_of_ne (t : Table κ α) {k k' : κ} (h : k' ≠ k) (a : α) :
    (t.insert k a).find? k' = t.find? k' := by
  have hk : (k' == k) = false := by simp [h]
  simpa [find?, insert, List.lookup_cons, hk] using find?_erase_of_ne t h

/-- What is found in a table after an insertion. -/
theorem find?_insert (t : Table κ α) (k k' : κ) (a : α) :
    (t.insert k a).find? k' = if k' = k then some a else t.find? k' := by
  by_cases h : k' = k
  · subst h
    rw [find?_insert_self, if_pos rfl]
  · rw [find?_insert_of_ne t h, if_neg h]

/-- What is found in a table after a removal. -/
theorem find?_erase (t : Table κ α) (k k' : κ) :
    (t.erase k).find? k' = if k' = k then none else t.find? k' := by
  by_cases h : k' = k
  · subst h
    rw [find?_erase_self, if_pos rfl]
  · rw [find?_erase_of_ne t h, if_neg h]

/-- A value in a table after an insertion is the one that was put in, or was there. -/
theorem find?_insert_eq_some {t : Table κ α} {k k' : κ} {a b : α} :
    (t.insert k a).find? k' = some b ↔ k' = k ∧ a = b ∨ k' ≠ k ∧ t.find? k' = some b := by
  rw [find?_insert]
  split <;> simp_all

/-- A value in a table after a removal was there. -/
theorem find?_erase_eq_some {t : Table κ α} {k k' : κ} {b : α} :
    (t.erase k).find? k' = some b ↔ k' ≠ k ∧ t.find? k' = some b := by
  rw [find?_erase]
  split <;> simp_all

/-! ### Keys -/

theorem Distinct.erase {t : Table κ α} (h : t.Distinct) (k : κ) : (t.erase k).Distinct :=
  h.sublist (List.filter_sublist.map Prod.fst)

theorem Distinct.insert {t : Table κ α} (h : t.Distinct) (k : κ) (a : α) :
    (t.insert k a).Distinct := by
  refine List.nodup_cons.mpr ⟨?_, h.erase k⟩
  simp [Table.erase]

/-- What is found in a table is what stands there. -/
theorem Distinct.find?_eq_some_iff {t : Table κ α} (h : t.Distinct) {k : κ} {a : α} :
    t.find? k = some a ↔ (k, a) ∈ t.entries := by
  obtain ⟨entries⟩ := t
  induction entries with
  | nil => simp [find?]
  | cons entry rest ih =>
    obtain ⟨key, b⟩ := entry
    obtain ⟨hnew, hrest⟩ := List.nodup_cons.mp h
    have htail : rest.lookup k = some a ↔ (k, a) ∈ rest := ih hrest
    by_cases hk : k = key
    · -- the key stands at the head, and so nowhere behind it
      subst hk
      have hnone : (k, a) ∉ rest := fun hmem => hnew (List.mem_map.mpr ⟨_, hmem, rfl⟩)
      simp [find?, hnone, eq_comm]
    · have hne : (k == key) = false := by simp [hk]
      simp [find?, List.lookup_cons, hne, hk, htail]

end Table

end DohRelay
