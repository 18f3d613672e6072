import DohRelay.Dns.Name.Text

/-!
# Names are told apart by their text

The octets of a label are escaped one by one, and the written form of an octet shows where it ends.
A dot that ends a label is never taken for one within it, so the labels can be told from the text,
and names in lower case have one text exactly if they are equal up to letter case.

## Main definitions

* `unescapeByte` — the octet at the start of a text.

## Main results

* `unescapeByte_escapeByte` — an octet is told from its written form and what follows.
* `Name.text_inj` — **the text of a name tells the name.**
* `Name.text_fold_inj` — the text in lower case tells the name up to letter case.
-/

namespace DohRelay.Dns

/-! ### Octets -/

/-- The octet that a text begins with, and what follows its written form.  No octet is written as a
dot alone. -/
def unescapeByte : List Char → Option (UInt8 × List Char)
  | [] | '.' :: _ => none
  | '\\' :: c :: rest =>
    if c.isDigit then
      some (.ofNat (Nat.ofDigitChars 8 (c :: rest.take 2) 0), rest.drop 2)
    else some (.ofNat c.toNat, rest)
  | c :: rest => some (.ofNat c.toNat, rest)

/-- An octet that is written alone is told from its character, which has no other meaning. -/
theorem of_isPlainByte {first : Bool} {b : UInt8} (h : isPlainByte first b = true) :
    Char.ofNat b.toNat ≠ '.' ∧ Char.ofNat b.toNat ≠ '\\' ∧
      UInt8.ofNat (Char.ofNat b.toNat).toNat = b := by
  have hall : ∀ b, isPlainByte first b = true →
      Char.ofNat b.toNat ≠ '.' ∧ Char.ofNat b.toNat ≠ '\\' ∧
        UInt8.ofNat (Char.ofNat b.toNat).toNat = b :=
    forall_octet (by cases first <;> decide +kernel)
  exact hall b h

/-- A visible octet that is escaped is told from its character, which is no digit. -/
theorem of_not_isPlainByte {first : Bool} {b : UInt8} (hplain : ¬isPlainByte first b = true)
    (hvisible : 0x20 < b ∧ b < 0x7f) :
    (Char.ofNat b.toNat).isDigit = false ∧ UInt8.ofNat (Char.ofNat b.toNat).toNat = b := by
  have hall : ∀ b, ¬isPlainByte first b = true → 0x20 < b ∧ b < 0x7f →
      (Char.ofNat b.toNat).isDigit = false ∧ UInt8.ofNat (Char.ofNat b.toNat).toNat = b :=
    forall_octet (by cases first <;> decide +kernel)
  exact hall b hplain hvisible

/-- Any octet is told from its octal digits. -/
theorem ofDigitChars_octalDigits (b : UInt8) :
    (octalDigit (b.toNat / 64)).isDigit = true ∧
      UInt8.ofNat (Nat.ofDigitChars 8 [octalDigit (b.toNat / 64), octalDigit (b.toNat / 8 % 8),
        octalDigit (b.toNat % 8)] 0) = b := by
  have hall : ∀ n : Fin 256, (octalDigit (n.val / 64)).isDigit = true ∧
      Nat.ofDigitChars 8 [octalDigit (n.val / 64), octalDigit (n.val / 8 % 8),
        octalDigit (n.val % 8)] 0 = n.val := by decide +kernel
  obtain ⟨hdigit, hvalue⟩ := hall ⟨b.toNat, b.toNat_lt⟩
  exact ⟨hdigit, by rw [hvalue, UInt8.ofNat_toNat]⟩

/-- **An octet is told from its written form and what follows.** -/
theorem unescapeByte_escapeByte (first : Bool) (b : UInt8) (rest : List Char) :
    unescapeByte (escapeByte first b ++ rest) = some (b, rest) := by
  rw [escapeByte]
  split
  case isTrue hplain =>
    obtain ⟨hdot, hslash, hvalue⟩ := of_isPlainByte hplain
    rw [List.singleton_append, unescapeByte, hvalue]
    · exact fun h => hdot h
    · exact fun _ _ h => absurd h hslash
  case isFalse hplain =>
    split
    case isTrue hvisible =>
      obtain ⟨hdigit, hvalue⟩ := of_not_isPlainByte hplain hvisible
      simp only [List.cons_append, List.nil_append, unescapeByte, hdigit, hvalue,
        Bool.false_eq_true, if_false]
    case isFalse =>
      obtain ⟨hdigit, hvalue⟩ := ofDigitChars_octalDigits b
      simp only [List.cons_append, List.nil_append, unescapeByte, hdigit, if_true,
        List.take_succ_cons, List.take_zero, List.drop_succ_cons, List.drop_zero, hvalue]

/-! ### Labels and names -/

/-- The octets before a dot that ends a label are told from their written form. -/
theorem escapeBytes_append_dot_inj {first : Bool} {bytes bytes' : List UInt8} {s s' : List Char}
    (h : escapeBytes first bytes ++ '.' :: s = escapeBytes first bytes' ++ '.' :: s') :
    bytes = bytes' ∧ s = s' := by
  induction bytes generalizing first bytes' with
  | nil =>
    cases bytes' with
    | nil => exact ⟨rfl, List.tail_eq_of_cons_eq h⟩
    | cons c bytes' =>
      -- a written octet does not begin with a dot
      have hread := congrArg unescapeByte h
      rw [escapeBytes, escapeBytes, List.append_assoc, unescapeByte_escapeByte] at hread
      cases hread
  | cons b bytes ih =>
    cases bytes' with
    | nil =>
      have hread := congrArg unescapeByte h
      rw [escapeBytes, escapeBytes, List.append_assoc, unescapeByte_escapeByte] at hread
      cases hread
    | cons c bytes' =>
      have hread := congrArg unescapeByte h
      rw [escapeBytes, escapeBytes, List.append_assoc, List.append_assoc, unescapeByte_escapeByte,
        unescapeByte_escapeByte] at hread
      obtain ⟨rfl, hrest⟩ := Prod.mk.inj (Option.some.inj hread)
      obtain ⟨rfl, hs⟩ := ih hrest
      exact ⟨rfl, hs⟩

/-- The written form of a label with the dot behind it has an octet at its start. -/
theorem unescapeByte_text (l : Label) (rest : List Char) :
    unescapeByte (l.text ++ rest) ≠ none := by
  obtain ⟨b, bytes, hbytes⟩ := List.exists_cons_of_ne_nil l.nonempty
  rw [Label.text, hbytes, escapeBytes, List.append_assoc, unescapeByte_escapeByte]
  exact Option.some_ne_none _

/-- Labels are told from their written forms with a dot after each. -/
theorem flatMap_text_inj {ls ms : List Label}
    (h : (ls.flatMap fun l => l.text ++ ['.']) = ms.flatMap fun l => l.text ++ ['.']) :
    ls = ms := by
  induction ls generalizing ms with
  | nil =>
    cases ms with
    | nil => rfl
    | cons m ms => simp at h
  | cons l ls ih =>
    cases ms with
    | nil => simp at h
    | cons m ms =>
      simp only [List.flatMap_cons, List.append_assoc, List.singleton_append] at h
      obtain ⟨hbytes, hrest⟩ := escapeBytes_append_dot_inj h
      obtain rfl : l = m := by
        cases l
        cases m
        cases hbytes
        rfl
      rw [ih hrest]

/-- **The text of a name tells the name.** -/
theorem Name.text_inj {n m : Name} : n.text = m.text ↔ n = m := by
  refine ⟨fun h => ?_, congrArg text⟩
  obtain ⟨ls⟩ := n
  obtain ⟨ms⟩ := m
  cases ls with
  | nil =>
    cases ms with
    | nil => rfl
    | cons m ms =>
      have hread := congrArg unescapeByte h
      simp only [text, isRoot, List.isEmpty_cons, Bool.false_eq_true, if_false, List.flatMap_cons,
        List.append_assoc] at hread
      exact absurd hread.symm (unescapeByte_text m _)
  | cons l ls =>
    cases ms with
    | nil =>
      have hread := congrArg unescapeByte h
      simp only [text, isRoot, List.isEmpty_cons, Bool.false_eq_true, if_false, List.flatMap_cons,
        List.append_assoc] at hread
      exact absurd hread (unescapeByte_text l _)
    | cons m ms => exact congrArg Name.mk (flatMap_text_inj h)

/-- The text in lower case tells the name up to letter case. -/
theorem Name.text_fold_inj {n m : Name} : n.fold.text = m.fold.text ↔ n.sameAs m = true := by
  rw [text_inj, sameAs_iff]

end DohRelay.Dns
