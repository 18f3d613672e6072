import DohRelay.Proofs.Dns.NameReading
import DohRelay.Proofs.Net.Addresses
import DohRelay.Proofs.Resolve.Data
import DohRelay.Proofs.Text.Fields

/-!
# Data in presentation form

People write addresses and numbers in the usual way, a name with its final dot or without, and a
text between quotes, with a backslash before each quote and backslash in it.  What data consists of
stands in a row with blanks between; between texts there may be none.  Data that is written like
this is denoted by its text.

## Main definitions

* `Dns.Name.WrittenAs` — a name has a written form.
* `quoted` — a text in quotes.
* `Presents` — a text is the presentation form of some data.

## Main results

* `quotedStrings_quoted` — a text in quotes is read as it was written.
* `textStrings_of_spaced` — texts in quotes are read as they were written, whatever blanks are
  between them.
* `texts_are_read_back` — **texts are read back, in quotes or as one without them.**
* `Presents.denotes` — **data is denoted by its presentation form.**
-/

namespace DohRelay

/-! ### Fields -/

theorem Text.isBlank_of_isDigit {c : Char} (h : c.isDigit = true) : isBlank c = false := by
  obtain ⟨hlo, hhi⟩ := toNat_of_isDigit h
  exact isBlank_of_visible (by omega) (by omega)

theorem Text.isBlank_of_hexValue? {c : Char} {d : Nat} (h : CodeTable.hexValue? c = some d) :
    isBlank c = false := by
  have hletter {lo hi : Char} (hrange : lo ≤ c ∧ c ≤ hi) (hlo : 0x20 < lo.toNat)
      (hhi : hi.toNat < 0x7f) : isBlank c = false :=
    isBlank_of_visible (Nat.lt_of_lt_of_le hlo hrange.1) (Nat.lt_of_le_of_lt hrange.2 hhi)
  unfold CodeTable.hexValue? at h
  rcases ite_eq_iff.mp h with ⟨hdigit, -⟩ | ⟨-, h⟩
  · exact isBlank_of_isDigit hdigit
  rcases ite_eq_iff.mp h with ⟨hrange, -⟩ | ⟨-, h⟩
  · exact hletter hrange (by decide) (by decide)
  rcases ite_eq_iff.mp h with ⟨hrange, -⟩ | ⟨-, h⟩
  · exact hletter hrange (by decide) (by decide)
  · cases h

namespace Net

/-- A character of an address is no blank. -/
theorem isBlank_of_isAddressChar {c : Char} (h : isAddressChar c = true) :
    Text.isBlank c = false := by
  simp only [isAddressChar, Bool.or_eq_true, beq_iff_eq] at h
  rcases h with (h | rfl) | rfl
  · obtain ⟨d, hd⟩ := Option.isSome_iff_exists.mp h
    exact Text.isBlank_of_hexValue? (Option.filter_eq_some_iff.mp hd).1
  · rfl
  · rfl

theorem Ipv4.solid_text (a : Ipv4) : Text.Solid a.text := by
  refine ⟨fun hnil => ?_, fun c hc => isBlank_of_isAddressChar (a.isAddressChar_of_mem_text c hc)⟩
  have hparse := parseIpv4_text a
  rw [hnil] at hparse
  cases hparse

theorem Ipv6.solid_text (a : Ipv6) : Text.Solid a.text := by
  refine ⟨fun hnil => ?_, fun c hc => isBlank_of_isAddressChar (a.isAddressChar_of_mem_text c hc)⟩
  have hparse := parseIpv6_text a
  rw [hnil] at hparse
  cases hparse

end Net

namespace Text

theorem solid_decimal (n : Nat) : Solid (decimal n) := by
  obtain ⟨c, cs, hdecimal, hall, -⟩ := exists_decimal n
  rw [hdecimal]
  exact ⟨List.cons_ne_nil _ _, fun d hd => isBlank_of_isDigit (hall d hd)⟩

theorem solid_signedDecimal (n : Int32) : Solid (signedDecimal n) := by
  have h := solid_decimal n.toInt.natAbs
  unfold signedDecimal
  split
  · exact ⟨List.cons_ne_nil _ _, List.forall_mem_cons.mpr ⟨rfl, h.noBlank⟩⟩
  · exact h

end Text

namespace Dns

/-- A name has a written form: its text, from which the final dot may be left out unless nothing
else is there. -/
structure Name.WrittenAs (n : Name) (s : List Char) : Prop where
  /-- The labels are literal. -/
  literal : n.Literal
  /-- There are not too many of them. -/
  size : sizeOfLabels n.labels ≤ Name.maxLength
  /-- The final dot may be missing. -/
  text : s = n.text ∨ s ++ ['.'] = n.text
  /-- Something is there. -/
  nonempty : s ≠ []

variable {n : Name} {s : List Char}

theorem Name.WrittenAs.ofText (h : n.WrittenAs s) : Name.ofText s = .ok n :=
  ofText_eq_ok_iff.mpr ⟨spells_text h.size h.text, h.literal⟩

theorem Name.WrittenAs.solid (h : n.WrittenAs s) : Text.Solid s := by
  refine ⟨h.nonempty, fun c hc => ?_⟩
  have hmem : c ∈ n.text := by
    rcases h.text with rfl | htext
    · exact hc
    · rw [← htext]
      exact List.mem_append_left _ hc
  obtain ⟨hlo, hhi⟩ := n.visible_text c hmem
  exact Text.isBlank_of_visible hlo hhi

end Dns

namespace Resolve

/-! ### Texts in quotes -/

/-- A text in quotes: a backslash stands before each quote and backslash. -/
def quoted (s : List Char) : List Char :=
  '"' :: (s.flatMap (fun c => if c = '"' ∨ c = '\\' then ['\\', c] else [c]) ++ ['"'])

/-- The rest of a text in quotes is read up to its last quote. -/
theorem quotedStrings_escaped (current s rest : List Char) :
    quotedStrings (some current)
      (s.flatMap (fun c => if c = '"' ∨ c = '\\' then ['\\', c] else [c]) ++ '"' :: rest) =
        (current ++ s) :: quotedStrings none rest := by
  induction s generalizing current with
  | nil => simp [quotedStrings]
  | cons c s ih =>
    have hcons : current ++ c :: s = current ++ [c] ++ s := by simp
    rw [List.flatMap_cons, List.append_assoc, hcons]
    by_cases hc : c = '"' ∨ c = '\\'
    case pos =>
      rw [if_pos hc, List.cons_append, List.singleton_append, quotedStrings]
      exact ih (current ++ [c])
    case neg =>
      obtain ⟨hquote, hslash⟩ := not_or.mp hc
      rw [if_neg hc, List.singleton_append, quotedStrings, if_neg hquote, if_neg hslash]
      · exact ih (current ++ [c])
      · exact fun _ _ h => absurd h hslash

/-- **A text in quotes is read as it was written.** -/
theorem quotedStrings_quoted (s rest : List Char) :
    quotedStrings none (quoted s ++ rest) = s :: quotedStrings none rest := by
  rw [quoted, List.cons_append, List.append_assoc, quotedStrings, if_pos rfl]
  exact quotedStrings_escaped [] s rest

/-- Blanks before texts in quotes make no difference. -/
theorem quotedStrings_blank_append {gap : List Char} (hgap : Text.Blank gap) (rest : List Char) :
    quotedStrings none (gap ++ rest) = quotedStrings none rest := by
  induction gap with
  | nil => rfl
  | cons c gap ih =>
    obtain ⟨hc, hgap⟩ := List.forall_mem_cons.mp hgap
    have hquote : c ≠ '"' := by
      rintro rfl
      cases hc
    rw [List.cons_append, quotedStrings, if_neg hquote]
    exact ih hgap

theorem firm_quoted (s : List Char) : Text.Firm (quoted s) := by
  refine ⟨⟨'"', rfl, rfl⟩, ⟨'"', ?_, rfl⟩⟩
  rw [quoted, ← List.cons_append, List.reverse_append]
  rfl

/-- Texts in quotes are read one after the other. -/
theorem quotedStrings_of_joined {strings : List (List Char)} {text : List Char}
    (h : Text.Joined 0 (strings.map quoted) text) :
    quotedStrings none text = strings ∧ text.head? = some '"' := by
  generalize hparts : strings.map quoted = parts at h
  induction h generalizing strings with
  | one part =>
    obtain ⟨s, rfl, rfl⟩ := List.map_eq_singleton_iff.mp hparts
    have hread := quotedStrings_quoted s []
    rw [List.append_nil] at hread
    exact ⟨hread, rfl⟩
  | cons hgap _ _ ih =>
    obtain ⟨s, others, rfl, rfl, hothers⟩ := List.map_eq_cons_iff.mp hparts
    refine ⟨?_, rfl⟩
    rw [quotedStrings_quoted, quotedStrings_blank_append hgap, (ih hothers).1]

/-- **Texts in quotes are read as they were written**, whatever blanks are between them. -/
theorem textStrings_of_spaced {strings : List (List Char)} {text : List Char}
    (h : Text.Spaced 0 (strings.map quoted) text) : textStrings text = strings := by
  have hfirm : ∀ part ∈ strings.map quoted, Text.Firm part := by
    intro part hpart
    obtain ⟨s, -, rfl⟩ := List.mem_map.mp hpart
    exact firm_quoted s
  obtain ⟨hread, hquote⟩ := quotedStrings_of_joined (Text.joined_trim h hfirm)
  rw [textStrings, if_pos hquote, hread]

/-- A text that does not begin with a quote is read as one, without the blanks around it. -/
theorem textStrings_of_bare {data : List Char} (h : (Text.trim data).head? ≠ some '"') :
    textStrings data = [Text.trim data] := by
  rw [textStrings]
  exact if_neg h

/-- **Texts are read back as they were written.**  They may have any characters, and may be empty;
any blanks, or none, may stand between them in their quotes, and around them.  Data without blanks
around it and without a quote at its start is one text. -/
theorem texts_are_read_back :
    (∀ strings text, Text.Spaced 0 (strings.map quoted) text → textStrings text = strings) ∧
    ∀ data, Text.trim data = data → data.head? ≠ some '"' → textStrings data = [data] := by
  refine ⟨fun strings text => textStrings_of_spaced, fun data htrim hquote => ?_⟩
  have hbare : (Text.trim data).head? ≠ some '"' := by rwa [htrim]
  rw [textStrings_of_bare hbare, htrim]

/-- Four texts, one that ends with a backslash and one that is empty: no blank stands between the
first two, and none of ASCII before the last. -/
theorem texts_are_read_back_four :
    textStrings "\t\"a\\\\\"\"say \\\"hi\\\"\" \"\"\u3000\" b \"\n".toList =
        ["a\\".toList, "say \"hi\"".toList, [], " b ".toList] ∧
      textStrings "v=spf1 \"-all\"".toList = ["v=spf1 \"-all\"".toList] := by
  have htwo : Text.Joined 0 [quoted [], quoted " b ".toList]
      (quoted [] ++ (['\u3000'] ++ quoted " b ".toList)) :=
    .cons (by decide) (Nat.zero_le _) (.one _)
  have hthree : Text.Joined 0 [quoted "say \"hi\"".toList, quoted [], quoted " b ".toList]
      (quoted "say \"hi\"".toList ++ ([' '] ++ (quoted [] ++ (['\u3000'] ++
        quoted " b ".toList)))) :=
    .cons (by decide) (Nat.zero_le _) htwo
  have hfour : Text.Joined 0 (["a\\".toList, "say \"hi\"".toList, [], " b ".toList].map quoted)
      (quoted "a\\".toList ++ ([] ++ (quoted "say \"hi\"".toList ++ ([' '] ++ (quoted [] ++
        (['\u3000'] ++ quoted " b ".toList)))))) :=
    .cons (by decide) (Nat.zero_le _) hthree
  exact ⟨texts_are_read_back.1 _ _ ⟨['\t'], _, ['\n'], by decide, by decide, hfour, by decide⟩,
    texts_are_read_back.2 _ (by decide) (by decide)⟩

/-! ### Data -/

/-- A text is the presentation form of data of some type. -/
inductive Presents (text : List Char) : Dns.RecordType → Dns.RecordData → Prop
  /-- An address of 32 bits. -/
  | a {address : Net.Ipv4} (htext : Text.Spaced 1 [address.text] text) :
      Presents text .a (.a address)
  /-- An address of 128 bits. -/
  | aaaa {address : Net.Ipv6} (htext : Text.Spaced 1 [address.text] text) :
      Presents text .aaaa (.aaaa address)
  /-- One name. -/
  | host {type : Dns.RecordType} {n : Dns.Name} {s : List Char}
      (htype : type = .cname ∨ type = .ns ∨ type = .ptr) (hname : n.WrittenAs s)
      (htext : Text.Spaced 1 [s] text) : Presents text type (.host n)
  /-- A mail exchange. -/
  | mx {preference : UInt16} {exchange : Dns.Name} {s : List Char}
      (hexchange : exchange.WrittenAs s)
      (htext : Text.Spaced 1 [Text.decimal preference.toNat, s] text) :
      Presents text .mx (.mx preference exchange)
  /-- The place of a service. -/
  | srv {priority weight port : UInt16} {target : Dns.Name} {s : List Char}
      (htarget : target.WrittenAs s)
      (htext : Text.Spaced 1 [Text.decimal priority.toNat, Text.decimal weight.toNat,
        Text.decimal port.toNat, s] text) : Presents text .srv (.srv priority weight port target)
  /-- The start of a zone. -/
  | soa {primary mailbox : Dns.Name} {serial : UInt32} {refresh retry expire : Int32}
      {minimum : UInt32} {s s' : List Char} (hprimary : primary.WrittenAs s)
      (hmailbox : mailbox.WrittenAs s')
      (htext : Text.Spaced 1 [s, s', Text.decimal serial.toNat, Text.signedDecimal refresh,
        Text.signedDecimal retry, Text.signedDecimal expire, Text.decimal minimum.toNat] text) :
      Presents text .soa (.soa primary mailbox serial refresh retry expire minimum)
  /-- Texts in quotes. -/
  | txt {strings : List (List Char)} (htext : Text.Spaced 0 (strings.map quoted) text) :
      Presents text .txt (.txt (strings.map Text.utf8))

theorem isWord16_decimal (n : UInt16) : IsWord16 (Text.decimal n.toNat) n :=
  Text.parseNat_decimal (Nat.le_sub_one_of_lt n.toNat_lt)

theorem isWord32_decimal (n : UInt32) : IsWord32 (Text.decimal n.toNat) n :=
  Text.parseNat_decimal (Nat.le_sub_one_of_lt n.toNat_lt)

/-- **Data is denoted by its presentation form.** -/
theorem Presents.denotes {text : List Char} {type : Dns.RecordType} {d : Dns.RecordData}
    (h : Presents text type d) : Denotes text type d := by
  cases h with
  | @a address htext =>
    refine .a ?_
    rw [Text.trim_of_spaced htext address.solid_text.firm]
    exact Net.parseIpv4_text address
  | @aaaa address htext =>
    refine .aaaa ?_
    rw [Text.trim_of_spaced htext address.solid_text.firm]
    exact Net.parseIpv6_text address
  | host htype hname htext =>
    refine .host htype ?_
    rw [Text.trim_of_spaced htext hname.solid.firm]
    exact hname.ofText
  | mx hexchange htext =>
    have hfields := Text.fields_of_spaced htext
      (by simp [Text.solid_decimal, hexchange.solid])
    exact .mx hfields (isWord16_decimal _) hexchange.ofText
  | srv htarget htext =>
    have hfields := Text.fields_of_spaced htext
      (by simp [Text.solid_decimal, htarget.solid])
    exact .srv hfields (isWord16_decimal _) (isWord16_decimal _) (isWord16_decimal _)
      htarget.ofText
  | soa hprimary hmailbox htext =>
    have hfields := Text.fields_of_spaced htext
      (by simp [Text.solid_decimal, Text.solid_signedDecimal, hprimary.solid, hmailbox.solid])
    exact .soa hfields hprimary.ofText hmailbox.ofText (isWord32_decimal _)
      (Text.parseInt32_signedDecimal _) (Text.parseInt32_signedDecimal _)
      (Text.parseInt32_signedDecimal _) (isWord32_decimal _)
  | txt htext =>
    rw [← textStrings_of_spaced htext]
    exact .txt

end Resolve

end DohRelay
