import DohRelay.Text.Blank

/-!
# Texts that are taken apart at their blanks

A text may be made of parts, with blanks between them and around.  If the parts have no blanks and
at least one stands between any two, then these are the fields of the text.  In any case a text
without the blanks around it is what stands between them, provided that the parts begin and end with
something else.

## Main definitions

* `Blank` — a text of nothing but blanks.
* `Solid` — a field.
* `BeginsFirmly`, `Firm` — a text that does not begin with a blank, and does not end with one
  either.
* `Joined`, `Spaced` — parts with blanks between them, and with blanks around as well.

## Main results

* `fields_of_spaced` — **the fields of a text are the parts that it was made of.**
* `joined_trim` — **a text is trimmed to what was between the blanks around it.**
-/

namespace DohRelay.Text

/-- A text of nothing but blanks. -/
def Blank (s : List Char) : Prop :=
  ∀ c ∈ s, isBlank c = true

instance (s : List Char) : Decidable (Blank s) :=
  decidable_of_iff (s.all isBlank = true) List.all_eq_true

/-- A text that can be a field: it has characters, and no blank among them. -/
structure Solid (s : List Char) : Prop where
  /-- It is not empty. -/
  nonempty : s ≠ []
  /-- It has no blanks. -/
  noBlank : ∀ c ∈ s, isBlank c = false

/-- A text begins with something that is no blank. -/
def BeginsFirmly (s : List Char) : Prop :=
  ∃ c ∈ s.head?, isBlank c = false

/-- A text that neither begins nor ends with a blank. -/
structure Firm (s : List Char) : Prop where
  /-- Its first character is no blank. -/
  first : BeginsFirmly s
  /-- Neither is its last. -/
  last : BeginsFirmly s.reverse

/-- Parts with blanks between them, of which there is a least number. -/
inductive Joined (least : Nat) : List (List Char) → List Char → Prop
  /-- There is one part. -/
  | one (part : List Char) : Joined least [part] part
  /-- Another part stands before. -/
  | cons {part gap text : List Char} {parts : List (List Char)} (hgap : Blank gap)
      (hleast : least ≤ gap.length) (htext : Joined least parts text) :
      Joined least (part :: parts) (part ++ (gap ++ text))

/-- Parts with blanks between them, and maybe around. -/
def Spaced (least : Nat) (parts : List (List Char)) (text : List Char) : Prop :=
  ∃ before inner after, Blank before ∧ Blank after ∧ Joined least parts inner ∧
    text = before ++ (inner ++ after)

/-- A visible ASCII character is no blank. -/
theorem isBlank_of_visible {c : Char} (hlo : 0x20 < c.toNat) (hhi : c.toNat < 0x7f) :
    isBlank c = false := by
  simp only [isBlank, Bool.or_eq_false_iff, Bool.and_eq_false_iff, decide_eq_false_iff_not,
    beq_eq_false_iff_ne]
  omega

/-! ### Fields -/

section

variable {s gap : List Char}

/-- At a blank, fields are found on both sides. -/
theorem fields_append_cons {c : Char} (hc : isBlank c = true) (x y : List Char) :
    fields (x ++ c :: y) = fields x ++ fields y := by
  rw [fields, List.splitOnP_append_cons x y hc, List.filter_append]
  rfl

theorem fields_of_solid (h : Solid s) : fields s = [s] := by
  rw [fields, List.splitOnP_eq_singleton h.noBlank]
  exact List.filter_cons_of_pos (by simpa using h.nonempty)

/-- Blanks before a text make no difference. -/
theorem fields_blank_append (hgap : Blank gap) (s : List Char) : fields (gap ++ s) = fields s := by
  induction gap with
  | nil => rfl
  | cons c gap ih =>
    obtain ⟨hc, hgap⟩ := List.forall_mem_cons.mp hgap
    exact (fields_append_cons hc [] (gap ++ s)).trans (ih hgap)

/-- So at some blanks, fields are found on both sides. -/
theorem fields_append_of_blank (hgap : Blank gap) (hone : gap ≠ []) (x y : List Char) :
    fields (x ++ (gap ++ y)) = fields x ++ fields y := by
  obtain ⟨c, gap, rfl⟩ := List.exists_cons_of_ne_nil hone
  obtain ⟨hc, hgap⟩ := List.forall_mem_cons.mp hgap
  rw [List.cons_append, fields_append_cons hc, fields_blank_append hgap]

/-- Blanks behind a text make no difference. -/
theorem fields_append_blank (hgap : Blank gap) (s : List Char) : fields (s ++ gap) = fields s := by
  cases gap with
  | nil => rw [List.append_nil]
  | cons c gap =>
    have h := fields_append_of_blank hgap (List.cons_ne_nil c gap) s []
    rwa [List.append_nil, show fields [] = [] from rfl, List.append_nil] at h

/-- **The fields of a text are the parts that it was made of.** -/
theorem fields_of_spaced {parts : List (List Char)} {text : List Char} (h : Spaced 1 parts text)
    (hparts : ∀ part ∈ parts, Solid part) : fields text = parts := by
  obtain ⟨before, inner, after, hbefore, hafter, hinner, rfl⟩ := h
  rw [fields_blank_append hbefore, fields_append_blank hafter]
  induction hinner with
  | one part => exact fields_of_solid (List.forall_mem_singleton.mp hparts)
  | cons hgap hleast _ ih =>
    obtain ⟨hpart, hparts⟩ := List.forall_mem_cons.mp hparts
    rw [fields_append_of_blank hgap (List.length_pos_iff.mp hleast), fields_of_solid hpart,
      ih hparts]
    rfl

end

/-! ### Ends of a text -/

section

variable {s x y before after : List Char}

theorem BeginsFirmly.append (h : BeginsFirmly s) (rest : List Char) : BeginsFirmly (s ++ rest) := by
  obtain ⟨c, hc, hblank⟩ := h
  refine ⟨c, ?_, hblank⟩
  rw [List.head?_append, Option.mem_def.mp hc]
  rfl

/-- Firm texts with anything between them are firm. -/
theorem Firm.append (hx : Firm x) (gap : List Char) (hy : Firm y) : Firm (x ++ (gap ++ y)) := by
  refine ⟨hx.first.append (gap ++ y), ?_⟩
  rw [List.reverse_append, List.reverse_append, List.append_assoc]
  exact hy.last.append (gap.reverse ++ x.reverse)

theorem Solid.firm (h : Solid s) : Firm s := by
  have hfirst {s : List Char} (hs : s ≠ []) (h : ∀ c ∈ s, isBlank c = false) :
      BeginsFirmly s := by
    obtain ⟨c, rest, rfl⟩ := List.exists_cons_of_ne_nil hs
    exact ⟨c, rfl, h c List.mem_cons_self⟩
  constructor
  · exact hfirst h.nonempty h.noBlank
  · apply hfirst
    · simpa using h.nonempty
    · intro c hc
      exact h.noBlank c (List.mem_reverse.mp hc)

theorem dropWhile_isBlank_append (hbefore : Blank before) (h : BeginsFirmly s) :
    (before ++ s).dropWhile isBlank = s := by
  rw [List.dropWhile_append_of_pos hbefore]
  obtain ⟨c, hc, hblank⟩ := h
  cases s with
  | nil => cases hc
  | cons d s =>
    cases hc
    simp [hblank]

/-- **A firm text is what is left without the blanks around it.** -/
theorem trim_of_firm (hbefore : Blank before) (hafter : Blank after) (h : Firm s) :
    trim (before ++ (s ++ after)) = s := by
  have hreverse : Blank after.reverse := by
    intro c hc
    exact hafter c (List.mem_reverse.mp hc)
  rw [trim, dropWhile_isBlank_append hbefore (h.first.append after), trimEnd, List.reverse_append,
    dropWhile_isBlank_append hreverse h.last, List.reverse_reverse]

theorem Joined.firm {least : Nat} {parts : List (List Char)} {text : List Char}
    (h : Joined least parts text) (hparts : ∀ part ∈ parts, Firm part) : Firm text := by
  induction h with
  | one part => exact List.forall_mem_singleton.mp hparts
  | @cons part gap text parts _ _ _ ih =>
    obtain ⟨hpart, hparts⟩ := List.forall_mem_cons.mp hparts
    exact hpart.append gap (ih hparts)

/-- **A text is trimmed to what was between the blanks around it.** -/
theorem joined_trim {least : Nat} {parts : List (List Char)} {text : List Char}
    (h : Spaced least parts text) (hparts : ∀ part ∈ parts, Firm part) :
    Joined least parts (trim text) := by
  obtain ⟨before, inner, after, hbefore, hafter, hinner, rfl⟩ := h
  rwa [trim_of_firm hbefore hafter (hinner.firm hparts)]

/-- A single part is all of a text. -/
theorem Joined.eq_of_singleton {least : Nat} {part text : List Char}
    (h : Joined least [part] text) : text = part := by
  cases h with
  | one => rfl
  | cons _ _ hnone => cases hnone

/-- So it is all that is left without the blanks around it. -/
theorem trim_of_spaced {least : Nat} {part text : List Char} (h : Spaced least [part] text)
    (hpart : Firm part) : trim text = part :=
  (joined_trim h (List.forall_mem_singleton.mpr hpart)).eq_of_singleton

end

end DohRelay.Text
