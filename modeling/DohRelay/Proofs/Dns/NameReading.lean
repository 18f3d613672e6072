import DohRelay.Proofs.Dns.NameText
import DohRelay.Proofs.Dns.Questions

/-!
# Names that are read from texts

A text stands for a name if its characters, with escapes undone, are the octets of the labels
between the dots.  In this sense the written form of a name stands for the name, with its final dot
or without.  The reader of names asks for more: it refuses a label with any octet that is not a
letter, a digit or one of four marks, whether the octet is escaped or not.  So it reads just the
names that have no such label, and many names are not read from their own written form.

## Main definitions

* `Label.Literal`, `Name.Literal` — labels and names that the reader takes.
* `Label.ofChars` — the label whose octets some characters are.
* `Name.Spells` — a text stands for a name.

## Main results

* `Name.spells_text` — **the written form of a name stands for it**, with its final dot or without.
* `Name.ofText_eq_ok_iff` — **a name is read from a text just if the text stands for it and the name
  is literal.**
-/

namespace DohRelay.Dns

/-! ### Labels -/

/-- The characters that the octets of a label are. -/
def Label.chars (l : Label) : List Char :=
  l.bytes.map fun b => Char.ofNat b.toNat

/-- A label of letters, digits, underscores, dots, dashes that are not first and asterisks that
are. -/
def Label.Literal (l : Label) : Prop :=
  isLabelText l.chars = true

/-- A name of such labels. -/
def Name.Literal (n : Name) : Prop :=
  ∀ l ∈ n.labels, l.Literal

instance (l : Label) : Decidable l.Literal :=
  inferInstanceAs (Decidable (_ = true))

instance (n : Name) : Decidable n.Literal :=
  inferInstanceAs (Decidable (∀ l ∈ n.labels, l.Literal))

/-- The label whose octets some characters are. -/
def Label.ofChars (s : List Char) : Except Name.TextFault Label :=
  match ofBytes? (s.map fun c => .ofNat c.toNat) with
  | some label => if label.chars = s then .ok label else .error (.malformed s)
  | none => .error (.malformed s)

/-- A text stands for a name: with escapes undone, its characters are the octets of the labels. -/
def Name.Spells (s : List Char) (n : Name) : Prop :=
  (Name.read Label.ofChars s).map Prod.fst = .ok n

/-- The characters of labels are ASCII. -/
theorem lt_of_isLabelChar {first : Bool} {c : Char} (h : isLabelChar first c = true) :
    c.toNat < 0x80 := by
  have hdigit (h : c.isDigit = true) : c.toNat ≤ 57 :=
    of_decide_eq_true (Bool.and_eq_true_iff.mp h).2
  have hletter (h : c.isAlpha = true) : c.toNat ≤ 122 := by
    rcases Bool.or_eq_true_iff.mp h with h | h
    · exact Nat.le_trans (of_decide_eq_true h).2 (by decide : 90 ≤ 122)
    · exact of_decide_eq_true (Bool.and_eq_true_iff.mp h).2
  simp only [isLabelChar, Bool.or_eq_true, Bool.and_eq_true, beq_iff_eq] at h
  rcases h with (((h | rfl) | rfl) | ⟨rfl, -⟩) | ⟨rfl, -⟩
  · rcases Bool.or_eq_true_iff.mp h with h | h
    · exact Nat.lt_of_le_of_lt (hletter h) (by decide)
    · exact Nat.lt_of_le_of_lt (hdigit h) (by decide)
  all_goals decide

theorem lt_of_mem_of_isLabelText {s : List Char} (h : isLabelText s = true) :
    ∀ c ∈ s, c.toNat < 0x80 := by
  cases s with
  | nil => exact List.forall_mem_nil _
  | cons c rest =>
    obtain ⟨hfirst, hrest⟩ := Bool.and_eq_true_iff.mp h
    exact List.forall_mem_cons.mpr
      ⟨lt_of_isLabelChar hfirst, fun c hc => lt_of_isLabelChar (List.all_eq_true.mp hrest c hc)⟩

/-- Each ASCII character is one octet. -/
theorem utf8_of_ascii {s : List Char} (h : ∀ c ∈ s, c.toNat < 0x80) :
    Text.utf8 s = s.map fun c => .ofNat c.toNat := by
  induction s with
  | nil => rfl
  | cons c s ih =>
    obtain ⟨hc, hs⟩ := List.forall_mem_cons.mp h
    have hone : String.utf8EncodeChar c = [.ofNat c.toNat] := by
      rw [String.utf8EncodeChar]
      exact if_pos (Nat.le_of_lt_succ hc)
    rw [Text.utf8, List.flatMap_cons, hone, List.map_cons, List.singleton_append]
    exact congrArg _ (ih hs)

namespace Label

theorem map_chars (l : Label) : (l.chars.map fun c => UInt8.ofNat c.toNat) = l.bytes := by
  have hall : ∀ b : UInt8, (Char.ofNat b.toNat).toNat = b.toNat :=
    forall_octet (by decide +kernel)
  rw [chars, List.map_map]
  refine (List.map_congr_left fun b _ => ?_).trans (List.map_id _)
  exact (congrArg UInt8.ofNat (hall b)).trans UInt8.ofNat_toNat

/-- A label is told by its characters. -/
theorem ofChars_eq_ok_iff {s : List Char} {l : Label} : ofChars s = .ok l ↔ s = l.chars := by
  constructor
  · intro h
    unfold ofChars at h
    split at h
    case h_1 label hlabel =>
      split at h
      case isTrue hchars =>
        cases h
        exact hchars.symm
      case isFalse => cases h
    case h_2 => cases h
  · rintro rfl
    rw [ofChars, map_chars, ofBytes?_bytes]
    exact if_pos rfl

/-- A label has the ASCII characters that its octets were made of. -/
theorem chars_of_bytes {l : Label} {s : List Char} (h : ∀ c ∈ s, c.toNat < 0x80)
    (hbytes : l.bytes = s.map fun c => .ofNat c.toNat) : l.chars = s := by
  rw [chars, hbytes, List.map_map]
  refine (List.map_congr_left fun c hc => ?_).trans (List.map_id s)
  have hsmall : c.toNat < 256 := Nat.lt_trans (h c hc) (by decide)
  change Char.ofNat (UInt8.ofNat c.toNat).toNat = c
  rw [UInt8.toNat_ofNat_of_lt' hsmall, Char.ofNat_toNat]

/-- **A label is read from its characters, and just if it is literal.** -/
theorem ofText_eq_ok_iff {s : List Char} {l : Label} :
    ofText s = .ok l ↔ ofChars s = .ok l ∧ l.Literal := by
  rw [ofChars_eq_ok_iff]
  unfold ofText Literal
  constructor
  · intro h
    dsimp only at h
    rcases ite_eq_iff.mp h with ⟨-, h⟩ | ⟨-, h⟩
    · cases h
    rcases ite_eq_iff.mp h with ⟨htext, h⟩ | ⟨-, h⟩
    · split at h
      case h_1 label hlabel =>
        cases h
        have hascii := lt_of_mem_of_isLabelText htext
        have hbytes := (bytes_of_ofBytes? hlabel).trans (utf8_of_ascii hascii)
        have hchars := chars_of_bytes hascii hbytes
        exact ⟨hchars.symm, hchars ▸ htext⟩
      case h_2 => cases h
    · cases h
  · rintro ⟨rfl, htext⟩
    have hbytes : Text.utf8 l.chars = l.bytes :=
      (utf8_of_ascii (lt_of_mem_of_isLabelText htext)).trans l.map_chars
    have hshort : ¬ l.bytes.length > maxLength := Nat.not_lt_of_le l.short
    dsimp only
    rw [hbytes, if_neg hshort, if_pos htext, ofBytes?_bytes]

end Label

namespace Name

/-! ### Literal names -/

/-- What is read is put behind the labels there were. -/
theorem append_eq_ok {ls ls' : List Label} {l : Label} (h : append ls l = .ok ls') :
    ls' = ls ++ [l] := by
  unfold append at h
  rcases ite_eq_iff.mp h with ⟨-, h⟩ | ⟨-, h⟩
  · cases h
  · exact (Except.ok.inj h).symm

theorem append_of_le {ls : List Label} {l : Label} (h : sizeOfLabels (ls ++ [l]) ≤ maxLength) :
    append ls l = .ok (ls ++ [l]) :=
  if_neg (Nat.not_lt_of_le h)

section

variable {ls ls' : List Label} {pending pending' s : List Char}

/-- A label that is read is put behind others as its characters are, and is literal. -/
theorem appendText_of_ofText (h : appendText Label.ofText ls s = .ok ls') :
    appendText Label.ofChars ls s = .ok ls' ∧ ∀ l ∈ ls', l ∈ ls ∨ l.Literal := by
  unfold appendText at h ⊢
  split at h
  case h_1 => cases h
  case h_2 l hl =>
    obtain ⟨hchars, hliteral⟩ := Label.ofText_eq_ok_iff.mp hl
    rw [hchars]
    refine ⟨h, fun l' hl' => ?_⟩
    rw [append_eq_ok h, List.mem_append, List.mem_singleton] at hl'
    exact hl'.imp_right fun (heq : l' = l) => heq ▸ hliteral

/-- If it is literal, then it is read. -/
theorem appendText_of_ofChars (h : appendText Label.ofChars ls s = .ok ls')
    (hliteral : ∀ l ∈ ls', l.Literal) : appendText Label.ofText ls s = .ok ls' := by
  unfold appendText at h ⊢
  split at h
  case h_1 => cases h
  case h_2 l hl =>
    have hmem : l ∈ ls' := by
      rw [append_eq_ok h]
      exact List.mem_append_right _ List.mem_cons_self
    rw [Label.ofText_eq_ok_iff.mpr ⟨hl, hliteral l hmem⟩]
    exact h

theorem prefix_of_appendText {read : LabelReader} (h : appendText read ls s = .ok ls') :
    ls <+: ls' := by
  unfold appendText at h
  split at h
  case h_1 => cases h
  case h_2 => exact append_eq_ok h ▸ List.prefix_append ..

/-- Labels that were read stay. -/
theorem prefix_of_readLabels {read : LabelReader}
    (h : readLabels read ls pending s = .ok (ls', pending')) : ls <+: ls' := by
  fun_induction readLabels read ls pending s with
  | case1 =>
    cases h
    exact List.prefix_rfl
  | case2 | case4 | case7 => cases h
  | case3 _ _ _ _ happend ih => exact (prefix_of_appendText happend).trans (ih h)
  | case5 =>
    cases h
    exact List.prefix_rfl
  | case6 _ _ _ _ _ _ ih | case8 _ _ _ _ _ _ _ ih => exact ih h

/-- Labels that are read are those that the characters make, and literal. -/
theorem readLabels_of_ofText (h : readLabels Label.ofText ls pending s = .ok (ls', pending'))
    (hls : ∀ l ∈ ls, l.Literal) :
    readLabels Label.ofChars ls pending s = .ok (ls', pending') ∧ ∀ l ∈ ls', l.Literal := by
  fun_induction readLabels Label.ofText ls pending s with
  | case1 =>
    cases h
    exact ⟨by rw [readLabels], hls⟩
  | case2 | case4 | case7 => cases h
  | case3 ls pending rest labels happend ih =>
    obtain ⟨hchars, hliteral⟩ := appendText_of_ofText happend
    rw [readLabels, hchars]
    exact ih h fun l hl => (hliteral l hl).elim (hls l) id
  | case5 ls pending rest hescape =>
    cases h
    exact ⟨by rw [readLabels, hescape], hls⟩
  | case6 ls pending rest c taken hescape ih =>
    rw [readLabels, hescape]
    exact ih h hls
  | case8 ls pending c rest hdot hslash hplain ih =>
    rw [readLabels, if_neg hplain]
    · exact ih h hls
    · exact hdot
    · exact hslash

/-- Literal labels that the characters make are read. -/
theorem readLabels_of_ofChars (h : readLabels Label.ofChars ls pending s = .ok (ls', pending'))
    (hls' : ∀ l ∈ ls', l.Literal) :
    readLabels Label.ofText ls pending s = .ok (ls', pending') := by
  fun_induction readLabels Label.ofChars ls pending s with
  | case1 =>
    cases h
    rw [readLabels]
  | case2 | case4 | case7 => cases h
  | case3 ls pending rest labels happend ih =>
    have hlabels := (prefix_of_readLabels h).subset
    rw [readLabels, appendText_of_ofChars happend fun l hl => hls' l (hlabels hl)]
    exact ih h
  | case5 ls pending rest hescape =>
    cases h
    rw [readLabels, hescape]
  | case6 ls pending rest c taken hescape ih =>
    rw [readLabels, hescape]
    exact ih h
  | case8 ls pending c rest hdot hslash hplain ih =>
    rw [readLabels, if_neg hplain]
    · exact ih h
    · exact hdot
    · exact hslash

end

/-- How a name is read: its last label may come without a dot. -/
theorem read_eq_ok_iff {read : LabelReader} {s : List Char} {n : Name} :
    (Name.read read s).map Prod.fst = .ok n ↔ s = ['.'] ∧ n = root ∨
      s ≠ ['.'] ∧ ∃ ls pending, readLabels read [] [] s = .ok (ls, pending) ∧
        (pending = [] ∧ n.labels = ls ∨
          pending ≠ [] ∧ appendText read ls pending = .ok n.labels) := by
  unfold Name.read
  by_cases hroot : s = ['.']
  · rw [if_pos hroot]
    simp [hroot, Except.map, eq_comm]
  rw [if_neg hroot]
  cases hlabels : readLabels read [] [] s with
  | error fault => simp [hroot, Except.map]
  | ok found =>
    obtain ⟨ls, pending⟩ := found
    obtain ⟨labels⟩ := n
    cases pending with
    | nil => simp [hroot, Except.map, eq_comm]
    | cons c pending =>
      cases happend : appendText read ls (c :: pending) <;>
        simp [hroot, Except.map, happend, eq_comm]

/-- **A name is read from a text just if the text stands for it and the name is literal.** -/
theorem ofText_eq_ok_iff {s : List Char} {n : Name} :
    ofText s = .ok n ↔ Spells s n ∧ n.Literal := by
  unfold ofText Spells
  rw [read_eq_ok_iff, read_eq_ok_iff]
  constructor
  · rintro (⟨hs, rfl⟩ | ⟨hs, ls, pending, hlabels, hlast⟩)
    · exact ⟨.inl ⟨hs, rfl⟩, List.forall_mem_nil _⟩
    · obtain ⟨hchars, hliteral⟩ := readLabels_of_ofText hlabels (List.forall_mem_nil _)
      rcases hlast with ⟨hpending, hn⟩ | ⟨hpending, happend⟩
      · exact ⟨.inr ⟨hs, ls, pending, hchars, .inl ⟨hpending, hn⟩⟩, by rwa [Literal, hn]⟩
      · obtain ⟨hlast, hliteral'⟩ := appendText_of_ofText happend
        exact ⟨.inr ⟨hs, ls, pending, hchars, .inr ⟨hpending, hlast⟩⟩,
          fun l hl => (hliteral' l hl).elim (hliteral l) id⟩
  · rintro ⟨⟨hs, rfl⟩ | ⟨hs, ls, pending, hlabels, hlast⟩, hn⟩
    · exact .inl ⟨hs, rfl⟩
    · refine .inr ⟨hs, ls, pending, ?_⟩
      rcases hlast with ⟨hpending, hls⟩ | ⟨hpending, happend⟩
      · exact ⟨readLabels_of_ofChars hlabels (hls ▸ hn), .inl ⟨hpending, hls⟩⟩
      · have hls := (prefix_of_appendText happend).subset
        exact ⟨readLabels_of_ofChars hlabels fun l hl => hn l (hls hl),
          .inr ⟨hpending, appendText_of_ofChars happend hn⟩⟩

end Name

/-! ### Written names -/

/-- An octet that is written alone is read as its character. -/
theorem not_blank_of_isPlainByte {first : Bool} {b : UInt8} (h : isPlainByte first b = true) :
    (Text.isControl (Char.ofNat b.toNat) || Text.isBlank (Char.ofNat b.toNat)) = false := by
  have hall : ∀ b, isPlainByte first b = true →
      (Text.isControl (Char.ofNat b.toNat) || Text.isBlank (Char.ofNat b.toNat)) = false :=
    forall_octet (by cases first <;> decide +kernel)
  exact hall b h

/-- An escape of a character that is no digit stands for it. -/
theorem unescape_visible {first : Bool} {b : UInt8} (hplain : ¬isPlainByte first b = true)
    (hvisible : 0x20 < b ∧ b < 0x7f) (rest : List Char) :
    unescape (Char.ofNat b.toNat :: rest) = .ok (some (Char.ofNat b.toNat, 1)) := by
  have hnumeral : ∀ b, ¬isPlainByte first b = true → 0x20 < b ∧ b < 0x7f →
      Text.isNumeral (Char.ofNat b.toNat) = false :=
    forall_octet (by cases first <;> decide +kernel)
  simp only [unescape, hnumeral b hplain hvisible, Bool.not_false, if_true]

/-- An escape of three octal digits stands for their octet. -/
theorem unescape_octal (b : UInt8) (rest : List Char) :
    unescape (octalDigit (b.toNat / 64) :: octalDigit (b.toNat / 8 % 8) ::
      octalDigit (b.toNat % 8) :: rest) = .ok (some (Char.ofNat b.toNat, 3)) := by
  have hall : ∀ k : Fin 8, octalValue (octalDigit k) = .ok k.val ∧
      Text.isNumeral (octalDigit k) = true := by decide +kernel
  have hb := b.toNat_lt
  obtain ⟨hhigh, hnumeral⟩ := hall ⟨b.toNat / 64, by omega⟩
  obtain ⟨hmiddle, -⟩ := hall ⟨b.toNat / 8 % 8, by omega⟩
  obtain ⟨hlow, -⟩ := hall ⟨b.toNat % 8, by omega⟩
  have hvalue : b.toNat / 64 * 64 + b.toNat / 8 % 8 * 8 + b.toNat % 8 = b.toNat := by omega
  dsimp only at hhigh hnumeral hmiddle hlow
  simp only [unescape, hnumeral, Bool.not_true, Bool.false_eq_true, if_false, hhigh, hmiddle, hlow]
  exact congrArg (fun value => Except.ok (some (Char.ofNat value, 3))) hvalue

/-- Whatever an octet is, its written form is visible. -/
theorem visible_escapeByte (first : Bool) (b : UInt8) :
    ∀ c ∈ escapeByte first b, 0x20 < c.toNat ∧ c.toNat < 0x7f := by
  have hall : ∀ b, (escapeByte first b).all (fun c => 0x20 < c.toNat && c.toNat < 0x7f) = true :=
    forall_octet (by cases first <;> decide +kernel)
  intro c hc
  simpa using List.all_eq_true.mp (hall b) c hc

theorem visible_escapeBytes (first : Bool) (bytes : List UInt8) :
    ∀ c ∈ escapeBytes first bytes, 0x20 < c.toNat ∧ c.toNat < 0x7f := by
  induction bytes generalizing first with
  | nil => exact List.forall_mem_nil _
  | cons b bytes ih => exact List.forall_mem_append.mpr ⟨visible_escapeByte first b, ih false⟩

namespace Name

/-- The written form of a name is visible. -/
theorem visible_text (n : Name) : ∀ c ∈ n.text, 0x20 < c.toNat ∧ c.toNat < 0x7f := by
  rw [text]
  split
  case isTrue =>
    refine List.forall_mem_singleton.mpr ?_
    decide
  case isFalse =>
    intro c hc
    obtain ⟨l, -, hc⟩ := List.mem_flatMap.mp hc
    rcases List.mem_append.mp hc with hc | hc
    · exact visible_escapeBytes true l.bytes c hc
    · cases List.mem_singleton.mp hc
      decide

variable {read : LabelReader} {ls : List Label} {pending rest : List Char}

/-- A written octet is read as its character. -/
theorem readLabels_escapeByte (first : Bool) (b : UInt8) :
    readLabels read ls pending (escapeByte first b ++ rest) =
      readLabels read ls (pending ++ [Char.ofNat b.toNat]) rest := by
  rw [escapeByte]
  split
  case isTrue hplain =>
    obtain ⟨hdot, hslash, -⟩ := of_isPlainByte hplain
    rw [List.singleton_append, readLabels, not_blank_of_isPlainByte hplain,
      if_neg Bool.false_ne_true]
    · exact hdot
    · exact hslash
  case isFalse hplain =>
    split
    case isTrue hvisible =>
      rw [List.cons_append, List.singleton_append, readLabels, unescape_visible hplain hvisible]
      rfl
    case isFalse =>
      simp only [List.cons_append, List.nil_append]
      rw [readLabels, unescape_octal]
      rfl

/-- Written octets are read as their characters. -/
theorem readLabels_escapeBytes (first : Bool) (bytes : List UInt8) :
    readLabels read ls pending (escapeBytes first bytes ++ rest) =
      readLabels read ls (pending ++ bytes.map fun b => Char.ofNat b.toNat) rest := by
  induction bytes generalizing first pending with
  | nil => rw [escapeBytes, List.nil_append, List.map_nil, List.append_nil]
  | cons b bytes ih =>
    rw [escapeBytes, List.append_assoc, readLabels_escapeByte, ih, List.map_cons, List.append_assoc,
      List.singleton_append]

/-- A written label is read as its characters. -/
theorem readLabels_text (l : Label) :
    readLabels read ls [] (l.text ++ rest) = readLabels read ls l.chars rest := by
  rw [Label.text, readLabels_escapeBytes, List.nil_append]
  rfl

/-- The characters before a dot make a label. -/
theorem readLabels_dot : readLabels Label.ofChars ls pending ('.' :: rest) =
    (appendText Label.ofChars ls pending).bind fun ls => readLabels Label.ofChars ls [] rest := by
  rw [readLabels]
  cases appendText Label.ofChars ls pending <;> rfl

/-- The characters of a label make it, if there is room. -/
theorem appendText_chars {l : Label} (h : sizeOfLabels (ls ++ [l]) ≤ maxLength) :
    appendText Label.ofChars ls l.chars = .ok (ls ++ [l]) := by
  rw [appendText, Label.ofChars_eq_ok_iff.mpr rfl]
  exact append_of_le h

/-- Written labels with a dot after each are read as these. -/
theorem readLabels_flatMap_text {ms : List Label} (h : sizeOfLabels (ls ++ ms) ≤ maxLength) :
    readLabels Label.ofChars ls [] ((ms.flatMap fun l => l.text ++ ['.']) ++ rest) =
      readLabels Label.ofChars (ls ++ ms) [] rest := by
  induction ms generalizing ls with
  | nil => rw [List.flatMap_nil, List.nil_append, List.append_nil]
  | cons m ms ih =>
    rw [List.append_cons] at h
    have hroom : sizeOfLabels (ls ++ [m]) ≤ maxLength := by
      rw [sizeOfLabels_append] at h
      omega
    simp only [List.flatMap_cons, List.append_assoc]
    rw [readLabels_text, List.singleton_append, readLabels_dot, appendText_chars hroom]
    exact (ih h).trans (by rw [List.append_assoc, List.singleton_append])

/-- The text of labels is no single dot. -/
theorem flatMap_text_append_ne (ls : List Label) (l : Label) (rest : List Char) :
    (ls.flatMap fun l => l.text ++ ['.']) ++ (l.text ++ rest) ≠ ['.'] := by
  intro h
  cases ls with
  | nil => exact unescapeByte_text l rest (congrArg unescapeByte h)
  | cons m ms =>
    rw [List.flatMap_cons, List.append_assoc, List.append_assoc] at h
    exact unescapeByte_text m _ (congrArg unescapeByte h)

/-- A name that is not the root is written with its last label at the end. -/
theorem text_append_singleton (ls : List Label) (l : Label) :
    text ⟨ls ++ [l]⟩ = (ls.flatMap fun l => l.text ++ ['.']) ++ (l.text ++ ['.']) := by
  have hne : isRoot ⟨ls ++ [l]⟩ = false := by simp [isRoot]
  rw [text, hne, if_neg Bool.false_ne_true, List.flatMap_append, List.flatMap_singleton]

/-- **The written form of a name stands for it**, with the final dot or without. -/
theorem spells_text {n : Name} (h : sizeOfLabels n.labels ≤ maxLength) {s : List Char}
    (hs : s = n.text ∨ s ++ ['.'] = n.text) : Spells s n := by
  rw [Spells, read_eq_ok_iff]
  obtain ⟨labels⟩ := n
  rcases List.eq_nil_or_concat labels with rfl | ⟨ls, l, rfl⟩
  · rcases hs with rfl | hs
    · exact .inl ⟨rfl, rfl⟩
    · obtain rfl : s = [] := List.append_left_eq_self.mp hs
      exact .inr ⟨nofun, [], [], by rw [readLabels], .inl ⟨rfl, rfl⟩⟩
  · rw [List.concat_eq_append] at h hs ⊢
    rw [text_append_singleton] at hs
    have hroom : sizeOfLabels ls ≤ maxLength := by
      rw [sizeOfLabels_append] at h
      omega
    have happend := appendText_chars h
    -- the last label is made by the dot behind it, or at the end
    have hread (rest : List Char) : readLabels Label.ofChars [] []
        ((ls.flatMap fun l => l.text ++ ['.']) ++ (l.text ++ rest)) =
          readLabels Label.ofChars ls l.chars rest := by
      rw [readLabels_flatMap_text (by exact hroom), List.nil_append, readLabels_text]
    rcases hs with rfl | hs
    · refine .inr ⟨flatMap_text_append_ne ls l _, ls ++ [l], [], ?_, .inl ⟨rfl, rfl⟩⟩
      rw [hread, readLabels_dot, happend]
      exact readLabels.eq_1 ..
    · rw [← List.append_assoc] at hs
      obtain rfl := List.append_cancel_right hs
      have hread := hread []
      rw [List.append_nil] at hread
      have hne := flatMap_text_append_ne ls l []
      rw [List.append_nil] at hne
      have hchars : l.chars ≠ [] := by simpa [Label.chars] using l.nonempty
      exact .inr ⟨hne, ls, l.chars, hread.trans (readLabels.eq_1 ..), .inr ⟨hchars, happend⟩⟩

end Name

end DohRelay.Dns
