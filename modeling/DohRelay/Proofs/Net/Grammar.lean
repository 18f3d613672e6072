import DohRelay.Proofs.Net.Addresses

/-!
# Where addresses and networks end

The readers of addresses take what they can from the start of a text and hand on the rest.  Where a
mark stands that cannot be part of an address, they stop at the latest, and nothing behind it makes
a difference.  So the text of a network, in which a slash stands between an address and a number, is
read as just these two.

## Main definitions

* `Stops` — a reader stops at a mark.
* `Writes` — a text is a number.
* `Names` — a text is an address.
* `Network.Literal` — a text is an address and a number of bits with a slash between them.

## Main results

* `stops_readIpv4`, `stops_readIpv6` — addresses stop at a mark.
* `readNumber_eq_some_nil` — a text is read as a number just if it is one.
* `Network.parse_eq_some_iff` — **a text is read as a network just if it is one.**
-/

namespace DohRelay.Net

/-! ### Readers that stop -/

/-- A reader hands on an end of the text, and stops at a mark at the latest. -/
structure Stops {α : Type} (mark : Char) (read : List Char → Option (α × List Char)) : Prop where
  /-- What is handed on is an end of the text. -/
  suffix : ∀ {s a rest}, read s = some (a, rest) → rest <:+ s
  /-- Before a mark it does what it does at the end; the mark and all behind it are handed on. -/
  append : ∀ s t, read (s ++ mark :: t) = (read s).map fun (a, rest) => (a, rest ++ mark :: t)

namespace Stops

variable {α β : Type} {mark : Char} {read : List Char → Option (α × List Char)}

/-- What stands before a mark is read as a whole text. -/
theorem eq_some_iff (h : Stops mark read) {s t : List Char} {a : α} :
    read s = some (a, mark :: t) ↔ ∃ used, s = used ++ mark :: t ∧ read used = some (a, []) := by
  constructor
  · intro hread
    obtain ⟨used, rfl⟩ := h.suffix hread
    rw [h.append, Option.map_eq_some_iff] at hread
    obtain ⟨⟨b, rest⟩, hused, hrest⟩ := hread
    simp only [Prod.mk.injEq] at hrest
    obtain ⟨rfl, hrest⟩ := hrest
    obtain rfl := List.append_left_eq_self.mp hrest
    exact ⟨used, rfl, hused⟩
  · rintro ⟨used, rfl, hused⟩
    rw [h.append, hused]
    rfl

/-- One reader after the other. -/
theorem bind (h : Stops mark read) {next : α → List Char → Option (β × List Char)}
    (hnext : ∀ a, Stops mark (next a)) :
    Stops mark fun s => (read s).bind fun r => next r.1 r.2 where
  suffix hread := by
    obtain ⟨⟨a, rest⟩, hfirst, hsecond⟩ := Option.bind_eq_some_iff.mp hread
    exact ((hnext a).suffix hsecond).trans (h.suffix hfirst)
  append s t := by
    simp only [h.append]
    cases read s with
    | none => rfl
    | some result => exact (hnext result.1).append _ _

/-- A reader that takes nothing. -/
theorem pure (a : α) : Stops mark fun s => some (a, s) where
  suffix hread := by
    obtain ⟨-, rfl⟩ := Prod.mk.inj (Option.some.inj hread)
    exact List.suffix_refl _
  append _ _ := rfl

/-- A reader whose value is put to use. -/
theorem map (h : Stops mark read) (f : α → β) :
    Stops mark fun s => (read s).map fun r => (f r.1, r.2) where
  suffix hread := by
    obtain ⟨⟨a, rest⟩, hfirst, hsecond⟩ := Option.map_eq_some_iff.mp hread
    obtain ⟨-, rfl⟩ := Prod.mk.inj hsecond
    exact h.suffix hfirst
  append s t := by
    simp only [h.append, Option.map_map]
    rfl

/-- A reader that never succeeds. -/
theorem fail : Stops mark fun _ => (none : Option (α × List Char)) where
  suffix hread := nomatch hread
  append _ _ := rfl

/-- A reader where another does not succeed. -/
theorem orElse (h : Stops mark read) {other : List Char → Option (α × List Char)}
    (hother : Stops mark other) : Stops mark fun s => (read s).or (other s) where
  suffix hread := by
    obtain hfirst | ⟨-, hsecond⟩ := Option.or_eq_some_iff.mp hread
    · exact h.suffix hfirst
    · exact hother.suffix hsecond
  append s t := by
    simp only [h.append, hother.append]
    cases read s <;> rfl

/-- A reader behind some character. -/
theorem afterChar (h : Stops mark read) {c : Char} (hc : c ≠ mark) :
    Stops mark fun s => (readChar c s).bind read where
  suffix hread := by
    obtain ⟨rest, hchar, hrest⟩ := Option.bind_eq_some_iff.mp hread
    rw [readChar_eq_some hchar]
    exact (h.suffix hrest).trans (List.suffix_cons _ _)
  append s t := by
    cases s with
    | nil => simp [readChar, hc]
    | cons d s =>
      by_cases hd : c = d
      · simp [readChar, hd, h.append]
      · simp [readChar, hd]

end Stops

/-! ### Numbers and addresses -/

section

variable {mark : Char} {g : Grammar}

/-- Numbers stop at a mark that is no digit. -/
theorem stops_readNumber {radix : Nat} (hmark : digitIn? radix mark = none) (k : Option Nat)
    (bound : Nat) (zeros : Bool) : Stops mark (readNumber radix k bound zeros) where
  suffix hread := by
    obtain ⟨ds, rfl, -⟩ := exists_of_readNumber hread
    exact List.suffix_append _ _
  append s t := by
    have hno : (digitIn? radix mark).isSome = false := by
      rw [hmark]
      rfl
    have htake : (s ++ mark :: t).takeWhile (fun c => (digitIn? radix c).isSome) =
        s.takeWhile (fun c => (digitIn? radix c).isSome) := by
      rw [List.takeWhile_append, List.takeWhile_cons, hno]
      split
      case isTrue hall =>
        rw [if_neg Bool.false_ne_true, List.append_nil]
        exact ((List.takeWhile_prefix _).eq_of_length hall).symm
      case isFalse => rfl
    have hdrop : (s ++ mark :: t).dropWhile (fun c => (digitIn? radix c).isSome) =
        s.dropWhile (fun c => (digitIn? radix c).isSome) ++ mark :: t := by
      rw [List.dropWhile_append, List.dropWhile_cons, hno, if_neg Bool.false_ne_true]
      split
      case isTrue hall => rw [List.isEmpty_iff.mp hall, List.nil_append]
      case isFalse => rfl
    simp only [readNumber, htake, hdrop]
    split <;> rfl

/-- Octets stop at a mark that is no digit and no dot. -/
theorem stops_readOctets (hdigit : digitIn? 10 mark = none) (hdot : '.' ≠ mark) (n : Nat) :
    Stops mark (readOctets g n) := by
  induction n with
  | zero => exact .pure []
  | succ n ih =>
    have hread : readOctets g (n + 1) = fun s =>
        ((readChar '.' s).bind (readNumber 10 (some 3) 256 g.leadingZeros)).bind fun octet =>
          (readOctets g n octet.2).map fun octets => (octet.1 :: octets.1, octets.2) := by
      funext s
      simp only [readOctets, Option.bind_eq_bind, Option.map_eq_bind, Option.bind_assoc]
      rfl
    rw [hread]
    exact (Stops.afterChar (stops_readNumber hdigit (some 3) 256 g.leadingZeros) hdot).bind
      fun octet => ih.map (octet :: ·)

/-- So do addresses of the older family. -/
theorem stops_readIpv4 (hdigit : digitIn? 10 mark = none) (hdot : '.' ≠ mark) :
    Stops mark (readIpv4 g) := by
  have hread : readIpv4 g = fun s =>
      (readNumber 10 (some 3) 256 g.leadingZeros s).bind fun first =>
        (readOctets g 3 first.2).map fun octets =>
          (⟨BitVec.ofNat 32 (ofDigits 256 (first.1 :: octets.1))⟩, octets.2) := by
    funext s
    simp only [readIpv4, Option.bind_eq_bind, Option.map_eq_bind]
    rfl
  rw [hread]
  exact (stops_readNumber hdigit (some 3) 256 g.leadingZeros).bind fun first =>
    (stops_readOctets hdigit hdot 3).map fun octets =>
      (⟨BitVec.ofNat 32 (ofDigits 256 (first :: octets))⟩ : Ipv4)

/-- A mark that is no digit of the greater base is none of the smaller. -/
theorem digitIn?_decimal (hdigit : digitIn? 16 mark = none) : digitIn? 10 mark = none :=
  noDigit_cons.mp (NoDigit.decimal (noDigit_cons (s := []).mpr hdigit))

/-- The groups at the start of a text, of which there may be none. -/
def groupsAt (g : Grammar) (first : Bool) (limit : Nat) (s : List Char) :
    Option ((List Nat × Bool) × List Char) :=
  let (groups, isEmbedded, rest) := readGroups g first limit s
  some ((groups, isEmbedded), rest)

/-- Groups stop at a mark that is no digit, no dot and no colon. -/
theorem stops_groupsAt (hdigit : digitIn? 16 mark = none) (hdot : '.' ≠ mark)
    (hcolon : ':' ≠ mark) (first : Bool) (limit : Nat) : Stops mark (groupsAt g first limit) := by
  induction limit generalizing first with
  | zero => exact .pure ([], false)
  | succ limit ih =>
    have hstart {α : Type} {read : List Char → Option (α × List Char)} (h : Stops mark read) :
        Stops mark fun s => (if first then some s else readChar ':' s).bind read := by
      cases first with
      | false => exact h.afterChar hcolon
      | true => exact h
    have hembedded : Stops mark fun s =>
        if limit = 0 then none else
          (if first then some s else readChar ':' s).bind (readIpv4 g) := by
      split
      case isTrue => exact .fail
      case isFalse => exact hstart (stops_readIpv4 (digitIn?_decimal hdigit) hdot)
    have hgroup := hstart (stops_readNumber hdigit (some 4) 0x10000 true)
    have hread : groupsAt g first (limit + 1) = fun s =>
        ((if limit = 0 then none else
          (if first then some s else readChar ':' s).bind (readIpv4 g)).map fun a =>
            (([a.1.bits.toNat / 0x10000, a.1.bits.toNat % 0x10000], true), a.2)).or
        ((((if first then some s else readChar ':' s).bind
            (readNumber 16 (some 4) 0x10000 true)).bind fun group =>
          (groupsAt g false limit group.2).map fun more =>
            ((group.1 :: more.1.1, more.1.2), more.2)).or (some (([], false), s))) := by
      funext s
      simp only [groupsAt, readGroups]
      split
      case h_1 => simp only [Option.map_some, Option.some_or, *]
      case h_2 =>
        split <;> simp only [Option.map_some, Option.map_none, Option.none_or, Option.some_or,
          Option.bind_some, Option.bind_none, *]
    rw [hread]
    exact (hembedded.map fun a => ([a.bits.toNat / 0x10000, a.bits.toNat % 0x10000], true)).orElse
      ((hgroup.bind fun group => (ih false).map fun more => (group :: more.1, more.2)).orElse
        (.pure ([], false)))

/-- What comes of an address of the newer family behind its first groups. -/
def behindGroups (g : Grammar) (head : List Nat × Bool) (s : List Char) :
    Option (Ipv6 × List Char) :=
  if head.1.length = 8 then some (.ofGroups head.1, s)
  else if head.2 then none
  else (readChar ':' s).bind fun s => (readChar ':' s).bind fun s =>
    (groupsAt g true (8 - (head.1.length + g.leastGap)) s).map fun tail =>
      (.ofGroups (head.1 ++ List.replicate (8 - head.1.length - tail.1.1.length) 0 ++ tail.1.1),
        tail.2)

/-- So do addresses of the newer family. -/
theorem stops_readIpv6 (hdigit : digitIn? 16 mark = none) (hdot : '.' ≠ mark)
    (hcolon : ':' ≠ mark) : Stops mark (readIpv6 g) := by
  have hread : readIpv6 g = fun s =>
      (groupsAt g true 8 s).bind fun head => behindGroups g head.1 head.2 := by
    funext s
    simp only [readIpv6, behindGroups, groupsAt, Option.bind_eq_bind, Option.bind_some,
      Option.map_some]
    rfl
  rw [hread]
  refine (stops_groupsAt hdigit hdot hcolon true 8).bind fun head => ?_
  unfold behindGroups
  split
  case isTrue => exact .pure _
  case isFalse =>
    split
    case isTrue => exact .fail
    case isFalse =>
      have htail := stops_groupsAt (g := g) hdigit hdot hcolon true
        (8 - (head.1.length + g.leastGap))
      exact ((htail.map fun tail => Ipv6.ofGroups
        (head.1 ++ List.replicate (8 - head.1.length - tail.1.length) 0 ++ tail.1)).afterChar
          hcolon).afterChar hcolon

/-- A text that begins with an address of the older family does not begin with one of the newer:
nothing can follow the two groups that it stands for. -/
theorem readIpv6_eq_none {s : List Char} {a : Ipv4} {rest : List Char}
    (h : readIpv4 g s = some (a, rest)) : readIpv6 g s = none := by
  have hgroups : readGroups g true 8 s =
      ([a.bits.toNat / 0x10000, a.bits.toNat % 0x10000], true, rest) := by
    simp [readGroups, h]
  simp [readIpv6, hgroups]

end

/-! ### Whole texts -/

/-- A text is a number, written by digits of which there are no more than a limit. -/
structure Writes (radix : Nat) (maxDigits : Option Nat) (s : List Char) (n : Nat) : Prop where
  /-- There is a digit, -/
  ne_nil : s ≠ []
  /-- nothing stands there but digits, -/
  digits : ∀ c ∈ s, (digitIn? radix c).isSome = true
  /-- there are not too many, -/
  length_le : ∀ k ∈ maxDigits, s.length ≤ k
  /-- and this is what they make. -/
  value : numberIn radix s = n

/-- Digits are read as a number just if they write one that is below the bound. -/
theorem readNumber_digits {radix bound n : Nat} {maxDigits : Option Nat} {s : List Char}
    (hdigits : ∀ c ∈ s, (digitIn? radix c).isSome = true) :
    readNumber radix maxDigits bound true s = some (n, []) ↔
      Writes radix maxDigits s n ∧ n < bound := by
  obtain ⟨htake, hdrop⟩ := takeWhile_digits hdigits (noDigit_nil radix)
  rw [List.append_nil] at htake hdrop
  simp only [readNumber, htake, hdrop, Bool.not_true, Bool.false_and, Bool.or_false,
    Option.ite_none_left_eq_some, Bool.or_eq_true, List.isEmpty_iff, Option.any_eq_true,
    decide_eq_true_eq, not_or, not_exists, not_and, Nat.not_lt, Nat.not_le, Option.some.injEq,
    Prod.mk.injEq, and_true]
  constructor
  · rintro ⟨⟨⟨hne, hlength⟩, hlt⟩, rfl⟩
    exact ⟨⟨hne, hdigits, hlength, rfl⟩, hlt⟩
  · rintro ⟨⟨hne, -, hlength, rfl⟩, hlt⟩
    exact ⟨⟨⟨hne, hlength⟩, hlt⟩, rfl⟩

/-- A text is read as a number just if it is one that is below the bound. -/
theorem readNumber_eq_some_nil {radix bound n : Nat} {maxDigits : Option Nat} {s : List Char} :
    readNumber radix maxDigits bound true s = some (n, []) ↔
      Writes radix maxDigits s n ∧ n < bound := by
  constructor
  · intro h
    obtain ⟨ds, hs, hdigits⟩ := exists_of_readNumber h
    rw [List.append_nil] at hs
    exact (readNumber_digits (hs ▸ hdigits)).mp h
  · intro h
    exact (readNumber_digits h.1.digits).mpr h

/-- A reader used up the text. -/
theorem whole_eq_some_iff {α : Type} {result : Option (α × List Char)} {a : α} :
    whole result = some a ↔ result = some (a, []) := by
  unfold whole
  split <;> simp_all

/-- A text is an address. -/
inductive Names (g : Grammar) : List Char → Ip → Prop
  /-- It is one of the older family. -/
  | v4 {s : List Char} {a : Ipv4} (h : readIpv4 g s = some (a, [])) : Names g s (.v4 a)
  /-- It is one of the newer family. -/
  | v6 {s : List Char} {a : Ipv6} (h : readIpv6 g s = some (a, [])) : Names g s (.v6 a)

namespace Network

/-- How many digits the number of bits may have behind an address. -/
def maxDigits : Ip → Nat
  | .v4 _ => 2
  | .v6 _ => 3

/-- A text is an address and a number of bits, with a slash between them. -/
def Literal (s : List Char) (net : Network) : Prop :=
  ∃ address digits, s = address ++ '/' :: digits ∧ Names .lenient address net.address ∧
    Writes 10 (some (maxDigits net.address)) digits net.length

/-- There are as many bits as the length tells. -/
theorem of?_eq_some_iff {a : Ip} {length : Nat} {net : Network} :
    of? a length = some net ↔ a = net.address ∧ length = net.length := by
  rw [of?, Option.dite_none_right_eq_some]
  constructor
  · rintro ⟨h, hnet⟩
    obtain rfl := Option.some.inj hnet
    exact ⟨rfl, rfl⟩
  · rintro ⟨rfl, rfl⟩
    exact ⟨net.length_le, rfl⟩

/-- An address and a number of bits are read one after the other. -/
theorem read_eq_some_iff {α : Type} {read : List Char → Option (α × List Char)}
    (hread : Stops '/' read) (ip : α → Ip) (k bound : Nat) {s : List Char} {net : Network} :
    ((read s).bind fun a => (readChar '/' a.2).bind fun s =>
      (readNumber 10 (some k) bound true s).bind fun n =>
        (of? (ip a.1) n.1).map fun net => (net, n.2)) = some (net, []) ↔
    ∃ address digits, s = address ++ '/' :: digits ∧
      (∃ a, read address = some (a, []) ∧ ip a = net.address) ∧
      Writes 10 (some k) digits net.length ∧ net.length < bound := by
  simp only [Option.bind_eq_some_iff, Option.map_eq_some_iff, Prod.exists, Prod.mk.injEq,
    of?_eq_some_iff]
  constructor
  · rintro ⟨a, rest, haddress, digits, hslash, n, rest', hnumber, net', ⟨hip, rfl⟩, rfl, rfl⟩
    rw [readChar_eq_some hslash] at haddress
    obtain ⟨address, rfl, hused⟩ := hread.eq_some_iff.mp haddress
    exact ⟨address, digits, rfl, ⟨a, hused, hip⟩, readNumber_eq_some_nil.mp hnumber⟩
  · rintro ⟨address, digits, rfl, ⟨a, haddress, hip⟩, hnumber⟩
    exact ⟨a, '/' :: digits, hread.eq_some_iff.mpr ⟨address, rfl, haddress⟩, digits, rfl,
      net.length, [], readNumber_eq_some_nil.mpr hnumber, net, ⟨hip, rfl⟩, rfl, rfl⟩

theorem readV4_eq_some_nil {s : List Char} {net : Network} :
    readV4 s = some (net, []) ↔ ∃ address digits, s = address ++ '/' :: digits ∧
      (∃ a, readIpv4 .lenient address = some (a, []) ∧ .v4 a = net.address) ∧
      Writes 10 (some 2) digits net.length ∧ net.length < 33 := by
  rw [← read_eq_some_iff (stops_readIpv4 rfl (by decide))]
  simp only [readV4, Option.bind_eq_bind, Option.map_eq_bind]
  rfl

theorem readV6_eq_some_nil {s : List Char} {net : Network} :
    readV6 s = some (net, []) ↔ ∃ address digits, s = address ++ '/' :: digits ∧
      (∃ a, readIpv6 .lenient address = some (a, []) ∧ .v6 a = net.address) ∧
      Writes 10 (some 3) digits net.length ∧ net.length < 129 := by
  rw [← read_eq_some_iff (stops_readIpv6 rfl (by decide) (by decide))]
  simp only [readV6, Option.bind_eq_bind, Option.map_eq_bind]
  rfl

/-- A text that begins with an address of the newer family is no network of the older. -/
theorem readV4_eq_none {address digits : List Char} {a : Ipv6}
    (h : readIpv6 .lenient address = some (a, [])) :
    readV4 (address ++ '/' :: digits) = none := by
  have hread : readIpv4 .lenient (address ++ '/' :: digits) = none := by
    cases hread : readIpv4 .lenient (address ++ '/' :: digits) with
    | none => rfl
    | some result =>
      have hnone := readIpv6_eq_none hread
      rw [(stops_readIpv6 rfl (by decide) (by decide)).append, h] at hnone
      cases hnone
  rw [readV4, hread]
  rfl

/-- **A text is read as a network just if it is one.** -/
theorem parse_eq_some_iff {s : List Char} {net : Network} : parse s = some net ↔ Literal s net := by
  rw [parse, whole_eq_some_iff, Option.orElse_eq_orElse, Option.orElse_eq_or, Option.or_eq_some_iff]
  constructor
  · rintro (h | ⟨-, h⟩)
    · obtain ⟨address, digits, rfl, ⟨a, haddress, hip⟩, hwrites, -⟩ := readV4_eq_some_nil.mp h
      exact ⟨address, digits, rfl, hip ▸ .v4 haddress, hip ▸ hwrites⟩
    · obtain ⟨address, digits, rfl, ⟨a, haddress, hip⟩, hwrites, -⟩ := readV6_eq_some_nil.mp h
      exact ⟨address, digits, rfl, hip ▸ .v6 haddress, hip ▸ hwrites⟩
  · obtain ⟨address, length, hlength⟩ := net
    rintro ⟨address, digits, rfl, haddress, hwrites⟩
    cases haddress with
    | v4 haddress =>
      exact .inl (readV4_eq_some_nil.mpr
        ⟨address, digits, rfl, ⟨_, haddress, rfl⟩, hwrites, Nat.lt_succ_of_le hlength⟩)
    | v6 haddress =>
      exact .inr ⟨readV4_eq_none haddress, readV6_eq_some_nil.mpr
        ⟨address, digits, rfl, ⟨_, haddress, rfl⟩, hwrites, Nat.lt_succ_of_le hlength⟩⟩

end Network

end DohRelay.Net
