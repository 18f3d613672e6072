import DohRelay.Proofs.Net.Grammar

/-!
# Addresses in brackets

An address of the newer family is put in brackets where a colon may follow it.  Whoever takes
brackets away takes all that open at the start of a text and all that close at its end, be they one
pair, many or none, and be there as many of one kind as of the other.  No address has a bracket, so
just the address is left.

## Main definitions

* `Bracketed` — a text is an address with any brackets around it.

## Main results

* `Names.not_mem` — no address has a bracket.
* `parseIp_withoutBrackets` — **an address is left without the brackets just if there is one between
  them.**
-/

namespace DohRelay.Net

/-! ### Addresses and brackets -/

/-- A text of which all is used up has no mark. -/
theorem Stops.not_mem {α : Type} {mark : Char} {read : List Char → Option (α × List Char)}
    (h : Stops mark read) {s : List Char} {a : α} (hread : read s = some (a, [])) : mark ∉ s := by
  intro hmem
  obtain ⟨before, after, rfl⟩ := List.append_of_mem hmem
  rw [h.append, Option.map_eq_some_iff] at hread
  obtain ⟨⟨_, rest⟩, -, hrest⟩ := hread
  exact List.append_ne_nil_of_right_ne_nil rest (List.cons_ne_nil mark after)
    (congrArg Prod.snd hrest)

/-- No address has a character that cannot be part of one. -/
theorem Names.not_mem {g : Grammar} {s : List Char} {ip : Ip} (h : Names g s ip) {mark : Char}
    (hdigit : digitIn? 16 mark = none) (hdot : '.' ≠ mark) (hcolon : ':' ≠ mark) : mark ∉ s := by
  cases h with
  | v4 h => exact (stops_readIpv4 (digitIn?_decimal hdigit) hdot).not_mem h
  | v6 h => exact (stops_readIpv6 hdigit hdot hcolon).not_mem h

/-- **A text is read as an address just if it is one.** -/
theorem parseIp_eq_some_iff {s : List Char} {ip : Ip} :
    parseIp s = some ip ↔ Names .strict s ip := by
  simp only [parseIp, whole_eq_some_iff, Option.orElse_eq_orElse, Option.orElse_eq_or,
    Option.or_eq_some_iff, Option.map_eq_some_iff, Option.map_eq_none_iff, Prod.exists,
    Prod.mk.injEq]
  constructor
  · rintro (⟨a, _, h, rfl, rfl⟩ | ⟨-, a, _, h, rfl, rfl⟩)
    · exact .v4 h
    · exact .v6 h
  · rintro (h | h)
    · exact .inl ⟨_, _, h, rfl, rfl⟩
    · refine .inr ⟨?_, _, _, h, rfl, rfl⟩
      -- nothing that begins with an address of the older family is one of the newer
      rw [Option.eq_none_iff_forall_ne_some]
      intro result hresult
      rw [readIpv6_eq_none hresult] at h
      cases h

/-! ### Brackets -/

/-- A text is an address with any brackets around it: some that open before it, and some that close
behind it. -/
def Bracketed (s : List Char) (ip : Ip) : Prop :=
  ∃ opening closing address,
    s = List.replicate opening '[' ++ (address ++ List.replicate closing ']') ∧
    Names .strict address ip

/-- Any number of a character may stand before what is left without it. -/
theorem exists_replicate_append (c : Char) (s : List Char) :
    ∃ n, s = List.replicate n c ++ s.dropWhile (· == c) := by
  refine ⟨(s.takeWhile (· == c)).length, ?_⟩
  have hall : s.takeWhile (· == c) = List.replicate (s.takeWhile (· == c)).length c :=
    List.eq_replicate_of_mem fun d hd => eq_of_beq (List.all_eq_true.mp List.all_takeWhile d hd)
  rw [← hall, List.takeWhile_append_dropWhile]

theorem dropWhile_replicate_append {c : Char} {s : List Char} (hs : s.head? ≠ some c) (n : Nat) :
    (List.replicate n c ++ s).dropWhile (· == c) = s := by
  rw [List.dropWhile_append_of_pos (by simp)]
  cases s with
  | nil => rfl
  | cons d s =>
    have hd : (d == c) = false := by simpa using hs
    simp only [List.dropWhile_cons, hd, Bool.false_eq_true, if_false]

/-- **An address is left without the brackets just if there is one between them.** -/
theorem parseIp_withoutBrackets {s : List Char} {ip : Ip} :
    parseIp (withoutBrackets s) = some ip ↔ Bracketed s ip := by
  rw [parseIp_eq_some_iff]
  constructor
  · intro h
    obtain ⟨opening, hopening⟩ := exists_replicate_append '[' s
    obtain ⟨closing, hclosing⟩ :=
      exists_replicate_append ']' (s.dropWhile (· == '[')).reverse
    refine ⟨opening, closing, withoutBrackets s, ?_, h⟩
    have hreverse := congrArg List.reverse hclosing
    rw [List.reverse_reverse, List.reverse_append, List.reverse_replicate] at hreverse
    rw [withoutBrackets, ← hreverse]
    exact hopening
  · rintro ⟨opening, closing, address, rfl, h⟩
    have hno : '[' ∉ address ++ List.replicate closing ']' := by
      rw [List.mem_append, List.mem_replicate]
      rintro (hmem | ⟨-, hmem⟩)
      · exact h.not_mem rfl (by decide) (by decide) hmem
      · exact absurd hmem (by decide)
    have hno' : ']' ∉ address := h.not_mem rfl (by decide) (by decide)
    rw [withoutBrackets, dropWhile_replicate_append (fun hhead => hno (List.mem_of_head? hhead)),
      List.reverse_append, List.reverse_replicate,
      dropWhile_replicate_append fun hhead => hno' (List.mem_reverse.mp (List.mem_of_head? hhead)),
      List.reverse_reverse]
    exact h

end DohRelay.Net
