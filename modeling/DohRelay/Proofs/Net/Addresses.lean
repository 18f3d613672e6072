import DohRelay.Net.Network
import Mathlib.Algebra.Group.Nat.Defs

/-!
# Addresses and networks that are read again

The text of an address is read as the address by both grammars, as far as it goes: what follows only
has to begin with none of the characters that could go on with it.  A network ends with the slash
and the number behind its address, so the text of a network tells the network.

## Main definitions

* `NoDigit` — a text does not begin with a digit.
* `EndsGroup`, `EndsGroups` — a text does not go on with a group, or with further groups.
* `ZerosAt` — zeros stand in a list from a place on.
* `isAddressChar` — a character can stand in the text of an address.

## Main results

* `readNumber_toDigits` — a number is read as it was written.
* `readIpv4_text`, `readIpv6_text` — **an address is read as it was written.**
* `parseIpv4_text`, `parseIpv6_text` — the text of an address is the address.
* `Network.parse_text` — **a network is read as it was written.**
* `Network.text_inj` — the text of a network tells the network.
-/

namespace DohRelay.Net

/-! ### Numbers -/

theorem ofDigits_append (base : Nat) (ds : List Nat) (d : Nat) :
    ofDigits base (ds ++ [d]) = ofDigits base ds * base + d := by
  rw [ofDigits, List.foldl_append]
  rfl

/-- The lowest digits write what is left of a number. -/
theorem ofDigits_toDigits (base count n : Nat) :
    ofDigits base (toDigits base count n) = n % base ^ count := by
  induction count generalizing n with
  | zero =>
    rw [Nat.pow_zero, Nat.mod_one]
    rfl
  | succ count ih =>
    rw [toDigits, ofDigits_append, ih, Nat.pow_succ, Nat.mul_comm (base ^ count) base,
      Nat.mod_mul]
    rw [Nat.mul_comm, Nat.add_comm]

theorem lt_of_mem_toDigits {base count n d : Nat} (hbase : 0 < base)
    (h : d ∈ toDigits base count n) : d < base := by
  induction count generalizing n with
  | zero => cases h
  | succ count ih =>
    rw [toDigits, List.mem_append, List.mem_singleton] at h
    obtain h | rfl := h
    · exact ih h
    · exact Nat.mod_lt n hbase

/-- A text does not begin with a digit. -/
def NoDigit (radix : Nat) (s : List Char) : Prop :=
  ∀ c ∈ s.head?, digitIn? radix c = none

theorem noDigit_cons {radix : Nat} {c : Char} {s : List Char} :
    NoDigit radix (c :: s) ↔ digitIn? radix c = none := by
  simp [NoDigit]

theorem noDigit_nil (radix : Nat) : NoDigit radix [] := by
  simp [NoDigit]

/-- A digit of a smaller base is one of the greatest. -/
theorem isSome_of_le {radix : Nat} (hle : radix ≤ 16) {c : Char}
    (h : (digitIn? radix c).isSome = true) : (digitIn? 16 c).isSome = true := by
  obtain ⟨d, hd⟩ := Option.isSome_iff_exists.mp h
  obtain ⟨hvalue, hlt⟩ := Option.filter_eq_some_iff.mp hd
  refine Option.isSome_iff_exists.mpr ⟨d, Option.filter_eq_some_iff.mpr ⟨hvalue, ?_⟩⟩
  simp only [decide_eq_true_eq] at hlt ⊢
  omega

/-- So where no digit of the greater base stands, there is none of the smaller. -/
theorem NoDigit.decimal {s : List Char} (h : NoDigit 16 s) : NoDigit 10 s := by
  intro c hc
  rw [← Option.not_isSome_iff_eq_none]
  intro hsome
  have hhex := isSome_of_le (by decide) hsome
  rw [h c hc] at hhex
  cases hhex

section Number

variable {radix : Nat}

/-- A digit is read as its number. -/
theorem digitIn?_digitChar (hle : radix ≤ 16) {d : Nat} (h : d < radix) :
    digitIn? radix d.digitChar = some d := by
  have hall : ∀ n : Fin 16, Text.CodeTable.hexValue? n.val.digitChar = some n.val := by decide
  rw [digitIn?, hall ⟨d, Nat.lt_of_lt_of_le h hle⟩, Option.filter_some, if_pos]
  exact decide_eq_true h

/-- A written number has digits only. -/
theorem isSome_of_mem_toDigits (hlt : 1 < radix) (hle : radix ≤ 16) {n : Nat} {c : Char}
    (h : c ∈ Nat.toDigits radix n) : (digitIn? radix c).isSome = true := by
  induction n using Nat.base_induction radix hlt with
  | single m hm =>
    rw [Nat.toDigits_of_lt_base hm, List.mem_singleton] at h
    rw [h, digitIn?_digitChar hle hm]
    rfl
  | digit m k hk hm ih =>
    rw [← Nat.toDigits_append_toDigits hlt hm hk, Nat.toDigits_of_lt_base hk, List.mem_append,
      List.mem_singleton] at h
    obtain h | rfl := h
    · exact ih h
    · rw [digitIn?_digitChar hle hk]
      rfl

/-- The digits of a number write it. -/
theorem numberIn_toDigits (hlt : 1 < radix) (hle : radix ≤ 16) (n : Nat) :
    numberIn radix (Nat.toDigits radix n) = n := by
  induction n using Nat.base_induction radix hlt with
  | single m hm =>
    rw [Nat.toDigits_of_lt_base hm, numberIn, List.foldl_cons, List.foldl_nil,
      digitIn?_digitChar hle hm, Nat.zero_mul, Nat.zero_add]
    rfl
  | digit m k hk hm ih =>
    rw [← Nat.toDigits_append_toDigits hlt hm hk, Nat.toDigits_of_lt_base hk, numberIn,
      List.foldl_append, ← numberIn, ih, List.foldl_cons, List.foldl_nil,
      digitIn?_digitChar hle hk, Nat.mul_comm]
    rfl

/-- Only zero is written with a zero at its start. -/
theorem head?_toDigits (hlt : 1 < radix) {n : Nat} (hn : 0 < n) :
    (Nat.toDigits radix n).head? ≠ some '0' := by
  induction n using Nat.base_induction radix hlt with
  | single m hm =>
    rw [Nat.toDigits_of_lt_base hm, List.head?_cons]
    intro h
    have hzero := Nat.digitChar_eq_zero.mp (Option.some.inj h)
    omega
  | digit m k hk hm ih =>
    rw [← Nat.toDigits_append_toDigits hlt hm hk]
    obtain ⟨c, cs, hcs⟩ := List.exists_cons_of_ne_nil (Nat.toDigits_ne_nil (n := m) (b := radix))
    rw [hcs] at ih ⊢
    exact ih hm

/-- Digits are read up to the first character that is none. -/
theorem takeWhile_digits {ds rest : List Char}
    (hds : ∀ c ∈ ds, (digitIn? radix c).isSome = true) (hrest : NoDigit radix rest) :
    (ds ++ rest).takeWhile (fun c => (digitIn? radix c).isSome) = ds ∧
      (ds ++ rest).dropWhile (fun c => (digitIn? radix c).isSome) = rest := by
  rw [List.takeWhile_append_of_pos hds, List.dropWhile_append_of_pos hds]
  cases rest with
  | nil => exact ⟨List.append_nil ds, rfl⟩
  | cons c rest =>
    have hc : (digitIn? radix c).isSome = false := by
      rw [noDigit_cons.mp hrest]
      rfl
    simp only [List.takeWhile_cons, List.dropWhile_cons, hc, Bool.false_eq_true, if_false,
      List.append_nil, and_self]

/-- **A number is read as it was written.** -/
theorem readNumber_toDigits (hlt : 1 < radix) (hle : radix ≤ 16) {n bound k : Nat}
    (hbound : n < bound) (hk : 0 < k) (hdigits : n < radix ^ k) (zeros : Bool) {rest : List Char}
    (hrest : NoDigit radix rest) :
    readNumber radix (some k) bound zeros (Nat.toDigits radix n ++ rest) = some (n, rest) := by
  obtain ⟨htake, hdrop⟩ := takeWhile_digits
    (fun _ => isSome_of_mem_toDigits hlt hle (n := n)) hrest
  have hlength := (Nat.length_toDigits_le_iff hlt hk).mpr hdigits
  have hempty : (Nat.toDigits radix n).isEmpty = false :=
    List.isEmpty_eq_false_iff.mpr Nat.toDigits_ne_nil
  have hzeros : ((Nat.toDigits radix n).head? == some '0' &&
      decide (1 < (Nat.toDigits radix n).length)) = false := by
    cases n with
    | zero => simp
    | succ n => simp [head?_toDigits hlt]
  simp only [readNumber, htake, hdrop, numberIn_toDigits hlt hle, hempty, Option.any_some,
    decide_eq_false (Nat.not_lt.mpr hlength), decide_eq_false (Nat.not_le.mpr hbound),
    Bool.and_assoc, hzeros, Bool.and_false, Bool.or_false, Bool.false_eq_true, if_false]

/-- Where no digit stands there is no number. -/
theorem readNumber_eq_none {maxDigits : Option Nat} {bound : Nat} {zeros : Bool} {s : List Char}
    (h : NoDigit radix s) : readNumber radix maxDigits bound zeros s = none := by
  obtain ⟨htake, -⟩ := takeWhile_digits (fun _ hc => absurd hc List.not_mem_nil) h
  rw [List.nil_append] at htake
  simp [readNumber, htake]

end Number

/-- A list with a mark between its parts, part by part. -/
theorem intercalate_cons (mark : Char) (part : List Char) (parts : List (List Char)) :
    List.intercalate [mark] (part :: parts) = part ++ parts.flatMap (mark :: ·) := by
  induction parts generalizing part with
  | nil => rw [List.intercalate_singleton, List.flatMap_nil, List.append_nil]
  | cons other parts ih =>
    rw [List.intercalate_cons_cons, ih, List.flatMap_cons, List.append_assoc]
    rfl

/-! ### The older family -/

section

variable {g : Grammar}

/-- Octets with a dot before each are read as they were written. -/
theorem readOctets_toDigits {octets : List Nat} (h : ∀ o ∈ octets, o < 256) {rest : List Char}
    (hrest : NoDigit 10 rest) :
    readOctets g octets.length (octets.flatMap (fun o => '.' :: Nat.toDigits 10 o) ++ rest) =
      some (octets, rest) := by
  induction octets with
  | nil => rfl
  | cons o octets ih =>
    obtain ⟨ho, hoctets⟩ := List.forall_mem_cons.mp h
    have hnext : NoDigit 10 (octets.flatMap (fun o => '.' :: Nat.toDigits 10 o) ++ rest) := by
      cases octets with
      | nil => exact hrest
      | cons => exact noDigit_cons.mpr rfl
    have hread := readNumber_toDigits (by decide) (by decide) ho (by decide : 0 < 3)
      (Nat.lt_trans ho (by decide)) g.leadingZeros hnext
    simp only [List.length_cons, List.flatMap_cons, List.cons_append, List.append_assoc,
      readOctets, readChar, if_true, Option.bind_eq_bind, Option.bind_some, hread, ih hoctets]
    rfl

/-- The octets of an address as numbers. -/
theorem Ipv4.text_eq (a : Ipv4) :
    a.text = List.intercalate ['.'] ((toDigits 256 4 a.bits.toNat).map (Nat.toDigits 10)) := by
  have hmap : (a.bytes.map fun b => Nat.toDigits 10 b.toNat) =
      (toDigits 256 4 a.bits.toNat).map (Nat.toDigits 10) := by
    rw [bytes, List.map_map]
    refine List.map_congr_left fun d hd => ?_
    have hlt : d < 256 := lt_of_mem_toDigits (by decide) hd
    exact congrArg (Nat.toDigits 10) (UInt8.toNat_ofNat_of_lt' hlt)
  rw [text, hmap]

/-- **An address of the older family is read as it was written.** -/
theorem readIpv4_text (a : Ipv4) {rest : List Char} (hrest : NoDigit 10 rest) :
    readIpv4 g (a.text ++ rest) = some (a, rest) := by
  have hlt : ∀ d ∈ toDigits 256 4 a.bits.toNat, d < 256 := fun _ => lt_of_mem_toDigits (by decide)
  have hvalue : ofDigits 256 (toDigits 256 4 a.bits.toNat) = a.bits.toNat := by
    rw [ofDigits_toDigits]
    exact Nat.mod_eq_of_lt a.bits.isLt
  rw [Ipv4.text_eq]
  obtain ⟨first, octets, hoctets⟩ : ∃ first octets, toDigits 256 4 a.bits.toNat = first :: octets :=
    ⟨_, _, rfl⟩
  have hlength : octets.length = 3 := by
    have hfour := congrArg List.length hoctets
    rw [length_toDigits, List.length_cons] at hfour
    omega
  rw [hoctets] at hlt hvalue ⊢
  obtain ⟨hfirst, hrestOctets⟩ := List.forall_mem_cons.mp hlt
  have htext : List.intercalate ['.'] ((first :: octets).map (Nat.toDigits 10)) ++ rest =
      Nat.toDigits 10 first ++ (octets.flatMap (fun o => '.' :: Nat.toDigits 10 o) ++ rest) := by
    rw [List.map_cons, intercalate_cons, List.flatMap_map, List.append_assoc]
  have hnext : NoDigit 10 (octets.flatMap (fun o => '.' :: Nat.toDigits 10 o) ++ rest) := by
    cases octets with
    | nil => exact hrest
    | cons => exact noDigit_cons.mpr rfl
  have hnumber := readNumber_toDigits (by decide) (by decide) hfirst (by decide : 0 < 3)
    (Nat.lt_trans hfirst (by decide)) g.leadingZeros hnext
  have hread := readOctets_toDigits (g := g) hrestOctets hrest
  rw [hlength] at hread
  rw [htext, readIpv4]
  simp only [Option.bind_eq_bind, hnumber, Option.bind_some, hread, hvalue, BitVec.ofNat_toNat,
    BitVec.setWidth_eq]
  rfl

theorem readChar_eq_some {c : Char} {s s' : List Char} (h : readChar c s = some s') :
    s = c :: s' := by
  cases s with
  | nil => cases h
  | cons d s =>
    simp only [readChar, Option.ite_none_right_eq_some, Option.some.injEq] at h
    rw [h.1, h.2]

/-- What is read as a number stood before what follows. -/
theorem exists_of_readNumber {radix bound n : Nat} {maxDigits : Option Nat} {zeros : Bool}
    {s rest : List Char} (h : readNumber radix maxDigits bound zeros s = some (n, rest)) :
    ∃ ds, s = ds ++ rest ∧ ∀ c ∈ ds, (digitIn? radix c).isSome = true := by
  simp only [readNumber, Option.ite_none_left_eq_some, Option.some.injEq, Prod.mk.injEq] at h
  obtain ⟨-, -, rfl⟩ := h
  exact ⟨_, (List.takeWhile_append_dropWhile).symm, List.all_eq_true.mp List.all_takeWhile⟩

/-- No address of the older family begins with digits of the greater base that no dot follows. -/
theorem readIpv4_eq_none {ds rest : List Char} (hds : ∀ c ∈ ds, (digitIn? 16 c).isSome = true)
    (hrest : NoDigit 16 rest) (hdot : rest.head? ≠ some '.') : readIpv4 g (ds ++ rest) = none := by
  cases hread : readIpv4 g (ds ++ rest) with
  | none => rfl
  | some result =>
    exfalso
    simp only [readIpv4, readOctets, Option.bind_eq_bind, Option.bind_eq_some_iff, Prod.exists]
      at hread
    obtain ⟨n, s, hnumber, _, _, ⟨s', hs', -⟩, -⟩ := hread
    -- a dot follows the decimal digits that were read, so it follows those of the greater base
    obtain rfl := readChar_eq_some hs'
    obtain ⟨ds', hsplit, hds'⟩ := exists_of_readNumber hnumber
    have hdrop := (takeWhile_digits hds hrest).2
    rw [hsplit, (takeWhile_digits (fun c hc => isSome_of_le (by decide) (hds' c hc))
      (noDigit_cons.mpr rfl)).2] at hdrop
    exact hdot (hdrop ▸ rfl)

end

/-! ### The newer family -/

section

variable {g : Grammar}

/-- A text does not go on with a group, nor with an address of the older family. -/
structure EndsGroup (s : List Char) : Prop where
  /-- No digit comes first, -/
  noDigit : NoDigit 16 s
  /-- and no dot. -/
  noDot : s.head? ≠ some '.'

/-- A text does not go on with further groups either. -/
structure EndsGroups (s : List Char) : Prop extends EndsGroup s where
  /-- What follows a colon at its start does not. -/
  afterColon : ∀ s', s = ':' :: s' → EndsGroup s'

/-- Groups with a colon before each. -/
def moreGroupsText (groups : List Nat) : List Char :=
  groups.flatMap fun group => ':' :: Nat.toDigits 16 group

theorem groupsText_cons (group : Nat) (groups : List Nat) :
    groupsText (group :: groups) = Nat.toDigits 16 group ++ moreGroupsText groups := by
  rw [groupsText, List.map_cons, intercalate_cons, List.flatMap_map]
  rfl

theorem endsGroup_colon (s : List Char) : EndsGroup (':' :: s) :=
  ⟨noDigit_cons.mpr rfl, by simp⟩

theorem EndsGroups.moreGroupsText_append {rest : List Char} (h : EndsGroups rest)
    (groups : List Nat) : EndsGroup (moreGroupsText groups ++ rest) := by
  cases groups with
  | nil => exact h.toEndsGroup
  | cons group groups => exact endsGroup_colon _

/-- One group more is read as it was written. -/
theorem readGroups_cons {first : Bool} {limit group : Nat} {s rest : List Char}
    (hstart : (if first then some s else readChar ':' s) = some (Nat.toDigits 16 group ++ rest))
    (hgroup : group < 0x10000) (hrest : EndsGroup rest) :
    readGroups g first (limit + 1) s =
      (group :: (readGroups g false limit rest).1, (readGroups g false limit rest).2) := by
  have hnone : readIpv4 g (Nat.toDigits 16 group ++ rest) = none :=
    readIpv4_eq_none (fun _ => isSome_of_mem_toDigits (by decide) (by decide)) hrest.noDigit
      hrest.noDot
  have hnumber := readNumber_toDigits (by decide) (by decide) hgroup (by decide : 0 < 4)
    hgroup true hrest.noDigit
  rw [readGroups]
  simp only [hstart, Option.bind_some, hnone, hnumber, ite_self]

/-- Where groups end, none is read. -/
theorem readGroups_eq_nil {first : Bool} {limit : Nat} {s : List Char}
    (h : ∀ s', (if first then some s else readChar ':' s) = some s' → EndsGroup s') :
    readGroups g first limit s = ([], false, s) := by
  cases limit with
  | zero => rfl
  | succ limit =>
    rw [readGroups]
    cases hstart : if first then some s else readChar ':' s with
    | none => simp only [Option.bind_none, ite_self]
    | some s' =>
      obtain ⟨hdigit, hdot⟩ := h s' hstart
      have hnone : readIpv4 g ([] ++ s') = none :=
        readIpv4_eq_none (fun _ hc => absurd hc List.not_mem_nil) hdigit hdot
      rw [List.nil_append] at hnone
      simp only [Option.bind_some, hnone, readNumber_eq_none hdigit, ite_self]

/-- Groups with a colon before each are read as they were written. -/
theorem readGroups_moreGroupsText {limit : Nat} {groups : List Nat} {rest : List Char}
    (hlength : groups.length ≤ limit) (hgroups : ∀ group ∈ groups, group < 0x10000)
    (hrest : EndsGroups rest) :
    readGroups g false limit (moreGroupsText groups ++ rest) = (groups, false, rest) := by
  induction groups generalizing limit with
  | nil => exact readGroups_eq_nil fun s' hs' => hrest.afterColon s' (readChar_eq_some hs')
  | cons group groups ih =>
    obtain ⟨hgroup, hgroups⟩ := List.forall_mem_cons.mp hgroups
    cases limit with
    | zero => cases hlength
    | succ limit =>
      have hmore := ih (Nat.le_of_succ_le_succ hlength) hgroups
      rw [readGroups_cons _ hgroup (hrest.moreGroupsText_append groups), hmore]
      rw [moreGroupsText, List.flatMap_cons, List.cons_append, List.cons_append, List.append_assoc]
      rfl

/-- Groups are read as they were written. -/
theorem readGroups_groupsText {limit : Nat} {groups : List Nat} {rest : List Char}
    (hlength : groups.length ≤ limit) (hgroups : ∀ group ∈ groups, group < 0x10000)
    (hrest : EndsGroups rest) :
    readGroups g true limit (groupsText groups ++ rest) = (groups, false, rest) := by
  cases groups with
  | nil =>
    refine readGroups_eq_nil fun s' hs' => ?_
    obtain rfl := Option.some.inj hs'
    exact hrest.toEndsGroup
  | cons group groups =>
    obtain ⟨hgroup, hgroups⟩ := List.forall_mem_cons.mp hgroups
    cases limit with
    | zero => cases hlength
    | succ limit =>
      have hmore := readGroups_moreGroupsText (g := g) (Nat.le_of_succ_le_succ hlength) hgroups
        hrest
      rw [groupsText_cons, List.append_assoc,
        readGroups_cons rfl hgroup (hrest.moreGroupsText_append groups), hmore]

end

/-! ### Runs of zeros -/

/-- Zeros stand in a list from a place on, as many as the second number tells. -/
def ZerosAt (groups : List Nat) (run : Nat × Nat) : Prop :=
  ∀ i, run.1 ≤ i → i < run.1 + run.2 → groups[i]? = some 0

/-- Where the longest run is found there are zeros.  The induction is on what is left of the list,
with the zeros of the run at hand ending where it begins. -/
theorem zerosAt_longestZeros {all groups : List Nat} {best : Nat × Nat} {position run : Nat}
    (hgroups : all.drop position = groups) (hbest : ZerosAt all best) (hrun : run ≤ position)
    (hzeros : ZerosAt all (position - run, run)) :
    ZerosAt all (longestZeros best position run groups) := by
  induction groups generalizing best position run with
  | nil => exact hbest
  | cons group groups ih =>
    have hrest : all.drop (position + 1) = groups := by
      rw [← List.drop_drop, hgroups]
      rfl
    rw [longestZeros]
    split
    case isTrue hgroup =>
      have hnext : ZerosAt all (position + 1 - (run + 1), run + 1) := by
        intro i hi hi'
        obtain hlt | rfl : i < position ∨ i = position := by omega
        · exact hzeros i (by omega) (by omega)
        · rw [← hgroup, ← Nat.add_zero i, ← List.getElem?_drop, hgroups]
          rfl
      refine ih hrest ?_ (by omega) hnext
      split
      · exact hnext
      · exact hbest
    case isFalse =>
      refine ih hrest hbest (Nat.zero_le _) fun i hi hi' => ?_
      exact absurd hi' (Nat.not_lt.mpr hi)

/-- Zeros are what stands between that which is before them and that which is behind. -/
theorem ZerosAt.eq_append {groups : List Nat} {start count : Nat}
    (h : ZerosAt groups (start, count)) :
    groups = groups.take start ++ List.replicate count 0 ++ groups.drop (start + count) := by
  have hmiddle : (groups.drop start).take count = List.replicate count 0 := by
    refine List.ext_getElem? fun i => ?_
    rw [List.getElem?_take, List.getElem?_replicate, List.getElem?_drop]
    split
    · exact h (start + i) (Nat.le_add_right _ _) (by simpa using ‹i < count›)
    · rfl
  rw [← hmiddle, ← List.drop_drop, List.append_assoc, List.take_append_drop,
    List.take_append_drop]

/-- The last of some zeros is in the list. -/
theorem ZerosAt.le_length {groups : List Nat} {start count : Nat}
    (h : ZerosAt groups (start, count)) (hcount : 0 < count) : start + count ≤ groups.length := by
  have hlast := h (start + count - 1) (by simp only; omega) (by simp only; omega)
  obtain ⟨hlt, -⟩ := List.getElem?_eq_some_iff.mp hlast
  omega

/-! ### Texts of the newer family -/

section

variable {g : Grammar} (a : Ipv6)

theorem Ipv6.lt_of_mem_groups {a : Ipv6} {group : Nat} (h : group ∈ a.groups) :
    group < 0x10000 :=
  lt_of_mem_toDigits (by decide) h

theorem Ipv6.length_groups : a.groups.length = 8 :=
  length_toDigits _ _ _

theorem Ipv6.ofGroups_groups : ofGroups a.groups = a := by
  have hvalue : ofDigits 0x10000 a.groups = a.bits.toNat := by
    rw [groups, ofDigits_toDigits]
    exact Nat.mod_eq_of_lt a.bits.isLt
  rw [ofGroups, hvalue, BitVec.ofNat_toNat, BitVec.setWidth_eq]

/-- Two colons end groups. -/
theorem endsGroups_colons (s : List Char) : EndsGroups (':' :: ':' :: s) := by
  refine ⟨endsGroup_colon _, fun s' hs' => ?_⟩
  obtain rfl := List.tail_eq_of_cons_eq hs'
  exact endsGroup_colon s

/-- An address whose text shows groups only is read as it was written. -/
theorem readIpv6_hexText (hgap : g.leastGap ≤ 2) {rest : List Char} (hrest : EndsGroups rest) :
    readIpv6 g (a.hexText ++ rest) = some (a, rest) := by
  have hlength := a.length_groups
  obtain ⟨start, count, hrun⟩ : ∃ start count, longestZeros (0, 0) 0 0 a.groups = (start, count) :=
    ⟨_, _, rfl⟩
  rw [Ipv6.hexText, hrun]
  dsimp only
  split
  case isTrue hcount =>
    have hzeros : ZerosAt a.groups (start, count) := by
      rw [← hrun]
      exact zerosAt_longestZeros rfl (fun i _ hi => absurd hi (Nat.not_lt_zero i)) (Nat.le_refl 0)
        fun i _ hi => absurd hi (Nat.not_lt_zero i)
    have hle := hzeros.le_length (Nat.lt_of_succ_lt hcount)
    have hstart : (a.groups.take start).length = start := by
      rw [List.length_take]
      omega
    have hend : (a.groups.drop (start + count)).length = 8 - start - count := by
      rw [List.length_drop]
      omega
    have hhead (s : List Char) : readGroups g true 8 (groupsText (a.groups.take start) ++
        ':' :: ':' :: s) = (a.groups.take start, false, ':' :: ':' :: s) :=
      readGroups_groupsText (by omega)
        (fun _ h => Ipv6.lt_of_mem_groups (List.mem_of_mem_take h)) (endsGroups_colons s)
    have htail : readGroups g true (8 - (start + g.leastGap))
        (groupsText (a.groups.drop (start + count)) ++ rest) =
          (a.groups.drop (start + count), false, rest) :=
      readGroups_groupsText (by omega)
        (fun _ h => Ipv6.lt_of_mem_groups (List.mem_of_mem_drop h)) hrest
    have hgroups : a.groups.take start ++ List.replicate (8 - start - (8 - start - count)) 0 ++
        a.groups.drop (start + count) = a.groups := by
      rw [show 8 - start - (8 - start - count) = count by omega]
      exact hzeros.eq_append.symm
    have hne : ¬start = 8 := by omega
    simp only [List.append_assoc, List.cons_append, List.nil_append, readIpv6, hhead, hstart,
      if_neg hne, Bool.false_eq_true, if_false, readChar, if_true, Option.bind_eq_bind,
      Option.bind_some, htail, hend]
    rw [← List.append_assoc, hgroups, a.ofGroups_groups]
    rfl
  case isFalse =>
    have hread : readGroups g true 8 (groupsText a.groups ++ rest) = (a.groups, false, rest) :=
      readGroups_groupsText (by omega) (fun _ => Ipv6.lt_of_mem_groups) hrest
    simp only [readIpv6, hread, hlength, if_true, a.ofGroups_groups]

/-- Behind two colons and one group, an address of the older family stands for the last two groups.
-/
theorem readIpv6_mappedText (hgap : g.leastGap ≤ 1) (b : Ipv4) {rest : List Char}
    (hrest : NoDigit 10 rest) :
    readIpv6 g ([':', ':', 'f', 'f', 'f', 'f', ':'] ++ b.text ++ rest) =
      some (.ofGroups [0, 0, 0, 0, 0, 0xffff, b.bits.toNat / 0x10000, b.bits.toNat % 0x10000],
        rest) := by
  have hhead (s : List Char) :
      readGroups g true 8 (':' :: ':' :: s) = ([], false, ':' :: ':' :: s) :=
    readGroups_groupsText (Nat.zero_le 8) (fun _ h => absurd h List.not_mem_nil)
      (endsGroups_colons s)
  obtain ⟨limit, hlimit⟩ : ∃ limit, 8 - (0 + g.leastGap) = limit + 3 :=
    ⟨5 - g.leastGap, by omega⟩
  have hgroup : ['f', 'f', 'f', 'f'] = Nat.toDigits 16 0xffff := by decide
  have hread : readGroups g true (limit + 3) ('f' :: 'f' :: 'f' :: 'f' :: ':' :: (b.text ++ rest)) =
      (0xffff :: (readGroups g false (limit + 2) (':' :: (b.text ++ rest))).1,
        (readGroups g false (limit + 2) (':' :: (b.text ++ rest))).2) := by
    refine readGroups_cons ?_ (by decide) (endsGroup_colon (b.text ++ rest))
    rw [← hgroup]
    rfl
  have hembedded : readGroups g false (limit + 2) (':' :: (b.text ++ rest)) =
      ([b.bits.toNat / 0x10000, b.bits.toNat % 0x10000], true, rest) := by
    simp only [readGroups, Bool.false_eq_true, if_false, readChar, if_true, Nat.add_eq_zero_iff,
      Nat.one_ne_zero, and_false, Option.bind_some, readIpv4_text b hrest]
  rw [hembedded] at hread
  simp only [List.nil_append, List.cons_append, readIpv6, hhead, List.length_nil,
    (by decide : ¬0 = 8), if_false, Bool.false_eq_true, readChar, if_true, Option.bind_eq_bind,
    Option.bind_some, hlimit, hread]
  rfl

/-- **An address of the newer family is read as it was written.** -/
theorem readIpv6_text (hgap : g.leastGap ≤ 1) {rest : List Char} (hrest : EndsGroups rest) :
    readIpv6 g (a.text ++ rest) = some (a, rest) := by
  rw [Ipv6.text]
  split
  case isFalse => exact readIpv6_hexText a (Nat.le_succ_of_le hgap) hrest
  case isTrue hmapped =>
    have hvalue : ofDigits 0x10000 [0, 0, 0, 0, 0, 0xffff, a.bits.toNat % 2 ^ 32 / 0x10000,
        a.bits.toNat % 2 ^ 32 % 0x10000] = a.bits.toNat := by
      simp only [ofDigits, List.foldl_cons, List.foldl_nil]
      omega
    rw [readIpv6_mappedText hgap _ hrest.noDigit.decimal, BitVec.toNat_ofNat, Ipv6.ofGroups, hvalue,
      BitVec.ofNat_toNat, BitVec.setWidth_eq]

/-- A colon comes before anything but digits in the text of an address of the newer family. -/
theorem Ipv6.exists_text :
    ∃ ds more, a.text = ds ++ ':' :: more ∧ ∀ c ∈ ds, (digitIn? 16 c).isSome = true := by
  have hgroups (groups : List Nat) (s : List Char) :
      ∃ ds more, groupsText groups ++ ':' :: s = ds ++ ':' :: more ∧
        ∀ c ∈ ds, (digitIn? 16 c).isSome = true := by
    match groups with
    | [] => exact ⟨[], s, rfl, fun _ h => absurd h List.not_mem_nil⟩
    | [group] =>
      refine ⟨Nat.toDigits 16 group, s, ?_, fun _ => isSome_of_mem_toDigits (by decide) (by decide)⟩
      rw [groupsText_cons, List.append_assoc]
      rfl
    | group :: next :: groups =>
      refine ⟨Nat.toDigits 16 group, Nat.toDigits 16 next ++ moreGroupsText groups ++ ':' :: s, ?_,
        fun _ => isSome_of_mem_toDigits (by decide) (by decide)⟩
      rw [groupsText_cons, List.append_assoc]
      rfl
  rw [text]
  split
  case isTrue => exact ⟨[], _, rfl, fun _ h => absurd h List.not_mem_nil⟩
  case isFalse =>
    rw [hexText]
    dsimp only
    split
    case isTrue =>
      rw [List.append_assoc]
      exact hgroups _ _
    case isFalse =>
      have hlength := a.length_groups
      match hall : a.groups with
      | [] | [_] => rw [hall] at hlength; cases hlength
      | group :: next :: groups =>
        refine ⟨Nat.toDigits 16 group, Nat.toDigits 16 next ++ moreGroupsText groups, ?_,
          fun _ => isSome_of_mem_toDigits (by decide) (by decide)⟩
        rw [groupsText_cons]
        rfl

/-- So it is not read as one of the older family. -/
theorem readIpv4_ipv6Text (rest : List Char) : readIpv4 g (a.text ++ rest) = none := by
  obtain ⟨ds, more, htext, hds⟩ := a.exists_text
  rw [htext, List.append_assoc]
  exact readIpv4_eq_none hds (endsGroup_colon _).noDigit (endsGroup_colon _).noDot

end

/-! ### Whole texts -/

/-- Nothing goes on at the end of a text. -/
theorem endsGroups_nil : EndsGroups [] :=
  ⟨⟨noDigit_nil 16, nofun⟩, nofun⟩

/-- **The text of an address is the address.** -/
theorem parseIpv4_text (a : Ipv4) : parseIpv4 a.text = some a := by
  have hread := readIpv4_text (g := .strict) a (noDigit_nil 10)
  rw [List.append_nil] at hread
  rw [parseIpv4, hread]
  rfl

theorem parseIpv6_text (a : Ipv6) : parseIpv6 a.text = some a := by
  have hread := readIpv6_text (g := .strict) a (Nat.le_refl 1) endsGroups_nil
  rw [List.append_nil] at hread
  rw [parseIpv6, hread]
  rfl

/-- A character is a digit, or a mark between digits. -/
def isAddressChar (c : Char) : Bool :=
  (digitIn? 16 c).isSome || c == '.' || c == ':'

/-- Numbers with a mark between them have no other characters. -/
theorem isAddressChar_of_mem_intercalate {radix : Nat} (hlt : 1 < radix) (hle : radix ≤ 16)
    {mark : Char} (hmark : mark = '.' ∨ mark = ':') (numbers : List Nat) :
    ∀ c ∈ List.intercalate [mark] (numbers.map (Nat.toDigits radix)), isAddressChar c = true := by
  have hdigit {n : Nat} {c : Char} (h : c ∈ Nat.toDigits radix n) : isAddressChar c = true := by
    rw [isAddressChar, isSome_of_le hle (isSome_of_mem_toDigits hlt hle h)]
    rfl
  cases numbers with
  | nil => exact List.forall_mem_nil _
  | cons n numbers =>
    rw [List.map_cons, intercalate_cons]
    refine List.forall_mem_append.mpr ⟨fun c => hdigit, fun c hc => ?_⟩
    obtain ⟨part, hpart, hc⟩ := List.mem_flatMap.mp hc
    obtain ⟨m, -, rfl⟩ := List.mem_map.mp hpart
    rcases List.mem_cons.mp hc with rfl | hc
    · rcases hmark with rfl | rfl <;> rfl
    · exact hdigit hc

theorem Ipv4.isAddressChar_of_mem_text (a : Ipv4) : ∀ c ∈ a.text, isAddressChar c = true := by
  rw [a.text_eq]
  exact isAddressChar_of_mem_intercalate (by decide) (by decide) (.inl rfl) _

theorem Ipv6.isAddressChar_of_mem_text (a : Ipv6) : ∀ c ∈ a.text, isAddressChar c = true := by
  have hgroups (groups : List Nat) : ∀ c ∈ groupsText groups, isAddressChar c = true :=
    isAddressChar_of_mem_intercalate (by decide) (by decide) (.inr rfl) groups
  rw [text]
  split
  case isTrue =>
    exact List.forall_mem_append.mpr
      ⟨List.all_eq_true.mp (by decide), Ipv4.isAddressChar_of_mem_text _⟩
  case isFalse =>
    rw [hexText]
    dsimp only
    split
    case isTrue =>
      exact List.forall_mem_append.mpr
        ⟨List.forall_mem_append.mpr ⟨hgroups _, List.all_eq_true.mp (by decide)⟩, hgroups _⟩
    case isFalse => exact hgroups _

/-! ### Networks -/

namespace Network

/-- A slash ends groups. -/
theorem endsGroups_slash (s : List Char) : EndsGroups ('/' :: s) :=
  ⟨⟨noDigit_cons.mpr rfl, by simp⟩, fun _ h => absurd (List.head_eq_of_cons_eq h) (by decide)⟩

/-- The length of a network is read as it was written. -/
theorem readNumber_length (net : Network) {bound k : Nat} (hbound : net.length < bound)
    (hk : 0 < k) (hdigits : net.length < 10 ^ k) :
    readNumber 10 (some k) bound true (Nat.toDigits 10 net.length) = some (net.length, []) := by
  have hread := readNumber_toDigits (by decide) (by decide) hbound hk hdigits true (noDigit_nil 10)
  rwa [List.append_nil] at hread

/-- **A network is read as it was written.** -/
theorem parse_text (net : Network) : parse net.text = some net := by
  obtain ⟨address, length, hlength⟩ := net
  cases address with
  | v4 a =>
    have haddress := readIpv4_text (g := .lenient) a
      (endsGroups_slash (Nat.toDigits 10 length)).noDigit.decimal
    have hle : length ≤ 32 := hlength
    have hnumber := readNumber_length ⟨.v4 a, length, hlength⟩ (k := 2) (Nat.lt_succ_of_le hle)
      (by decide) (Nat.lt_of_le_of_lt hle (by decide))
    have hread : readV4 (text ⟨.v4 a, length, hlength⟩) = some (⟨.v4 a, length, hlength⟩, []) := by
      simp only [text, Ip.text, readV4, haddress, Option.bind_eq_bind, Option.bind_some, readChar,
        if_true, hnumber, of?, dif_pos hlength]
      rfl
    rw [parse, hread]
    rfl
  | v6 a =>
    have hnone : readV4 (text ⟨.v6 a, length, hlength⟩) = none := by
      simp only [text, Ip.text, readV4, readIpv4_ipv6Text, Option.bind_eq_bind, Option.bind_none]
    have haddress := readIpv6_text (g := .lenient) a (Nat.zero_le 1)
      (endsGroups_slash (Nat.toDigits 10 length))
    have hle : length ≤ 128 := hlength
    have hnumber := readNumber_length ⟨.v6 a, length, hlength⟩ (k := 3) (Nat.lt_succ_of_le hle)
      (by decide) (Nat.lt_of_le_of_lt hle (by decide))
    have hread : readV6 (text ⟨.v6 a, length, hlength⟩) = some (⟨.v6 a, length, hlength⟩, []) := by
      simp only [text, Ip.text, readV6, haddress, Option.bind_eq_bind, Option.bind_some, readChar,
        if_true, hnumber, of?, dif_pos hlength]
      rfl
    rw [parse, hnone, hread]
    rfl

/-- **The text of a network tells the network.** -/
theorem text_inj {net other : Network} : net.text = other.text ↔ net = other := by
  refine ⟨fun h => ?_, congrArg text⟩
  have hparse := net.parse_text
  rw [h, other.parse_text] at hparse
  exact (Option.some.inj hparse).symm

end Network

end DohRelay.Net
