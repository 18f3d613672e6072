/-!
# Domain names

A domain name is a sequence of labels, most specific first; every name here is complete, that is,
it ends at the root.  A label is one to sixty-three octets of any value.  Names keep the letter case
they were written with and are compared without it.

## Main definitions

* `Label`, `Name` — the types.
* `Name.root` — the name without labels.
* `Name.fold` — the name in lower case.
* `Name.sameAs` — equality up to letter case.
* `Name.length` — the length that the limits on names speak of.
-/

namespace DohRelay.Dns

/-- The longest label, in octets. -/
def Label.maxLength : Nat := 63

/-- One part of a domain name. -/
structure Label where
  /-- The octets of the label. -/
  bytes : List UInt8
  /-- No label is empty. -/
  nonempty : bytes ≠ []
  /-- No label is longer than its length octet can say. -/
  short : bytes.length ≤ Label.maxLength
  deriving DecidableEq, Repr

/-- A complete domain name. -/
structure Name where
  /-- The labels, most specific first. -/
  labels : List Label
  deriving DecidableEq, Repr

/-- Lower case for the octet of an ASCII letter; every other octet stays as it is. -/
def foldByte (b : UInt8) : UInt8 :=
  if 0x41 ≤ b ∧ b ≤ 0x5a then b + 0x20 else b

namespace Label

/-- The label of some octets, if they can be one. -/
def ofBytes? (bytes : List UInt8) : Option Label :=
  if nonempty : bytes ≠ [] then
    if short : bytes.length ≤ maxLength then some ⟨bytes, nonempty, short⟩ else none
  else none

/-- The number of octets in a label. -/
def length (l : Label) : Nat :=
  l.bytes.length

/-- The label in lower case. -/
def fold (l : Label) : Label where
  bytes := l.bytes.map foldByte
  nonempty := by simpa using l.nonempty
  short := by simpa using l.short

@[simp] theorem ofBytes?_bytes (l : Label) : ofBytes? l.bytes = some l := by
  simp [ofBytes?, l.nonempty, l.short]

theorem bytes_of_ofBytes? {bytes : List UInt8} {l : Label} (h : ofBytes? bytes = some l) :
    l.bytes = bytes := by
  unfold ofBytes? at h
  split at h
  · split at h
    · cases h; rfl
    · cases h
  · cases h

@[simp] theorem length_fold (l : Label) : l.fold.length = l.length := by
  simp [length, fold]

theorem length_pos (l : Label) : 0 < l.length :=
  List.length_pos_iff.2 l.nonempty

end Label

namespace Name

/-- The name without labels. -/
def root : Name := ⟨[]⟩

/-- Whether a name is the root. -/
def isRoot (n : Name) : Bool :=
  n.labels.isEmpty

/-- The name in lower case. -/
def fold (n : Name) : Name :=
  ⟨n.labels.map Label.fold⟩

/-- Whether two names are equal up to letter case. -/
def sameAs (n m : Name) : Bool :=
  n.fold == m.fold

/-- The octets that some labels take with a length octet before each. -/
def sizeOfLabels : List Label → Nat
  | [] => 0
  | l :: ls => l.length + 1 + sizeOfLabels ls

/-- The length of a name without its end: one octet for the length of each label, and its octets.
The root counts as one. -/
def length (n : Name) : Nat :=
  if n.isRoot then 1 else sizeOfLabels n.labels

/-- The greatest length of a name. -/
def maxLength : Nat := 255

@[simp] theorem sizeOfLabels_nil : sizeOfLabels [] = 0 := rfl

@[simp] theorem sizeOfLabels_cons (l : Label) (ls : List Label) :
    sizeOfLabels (l :: ls) = l.length + 1 + sizeOfLabels ls := rfl

@[simp] theorem sizeOfLabels_append (ls ms : List Label) :
    sizeOfLabels (ls ++ ms) = sizeOfLabels ls + sizeOfLabels ms := by
  induction ls with
  | nil => simp
  | cons l ls ih => simp [ih, Nat.add_assoc]

@[simp] theorem sameAs_self (n : Name) : n.sameAs n = true := by
  simp [sameAs]

theorem sameAs_iff {n m : Name} : n.sameAs m = true ↔ n.fold = m.fold := by
  simp [sameAs]

end Name

/-- What is true of the octets that the numbers below 256 are is true of every octet. -/
theorem forall_octet {p : UInt8 → Prop} (h : ∀ n : Fin 256, p (.ofNat n)) (b : UInt8) : p b := by
  have hb := h ⟨b.toNat, b.toNat_lt⟩
  rwa [UInt8.ofNat_toNat] at hb

/-- Folding an octet twice is folding it once. -/
theorem foldByte_foldByte (b : UInt8) : foldByte (foldByte b) = foldByte b := by
  by_cases h : 0x41 ≤ b ∧ b ≤ 0x5a
  · have : ¬ (0x41 ≤ b + 0x20 ∧ b + 0x20 ≤ 0x5a) := by
      simp only [UInt8.le_iff_toNat_le, UInt8.toNat_add, UInt8.reduceToNat] at h ⊢
      omega
    simp [foldByte, h, this]
  · simp [foldByte, h]

@[simp] theorem Label.fold_fold (l : Label) : l.fold.fold = l.fold := by
  simp [fold, Function.comp_def, foldByte_foldByte]

@[simp] theorem Name.fold_fold (n : Name) : n.fold.fold = n.fold := by
  simp [fold, Function.comp_def]

end DohRelay.Dns
