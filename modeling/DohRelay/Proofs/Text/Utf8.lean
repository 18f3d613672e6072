import DohRelay.Text.Utf8

/-!
# Texts and their octets

The octets of a text are read as that text, whatever is to be done about broken pieces: each
character begins with an octet that tells how many follow, and the octets that follow it are in the
range that this one allows.

## Main results

* `utf8Char?_append` — the octets of a character are read as that character.
* `utf8DecodeLossy_utf8` — **the octets of a text are read as that text.**
-/

namespace DohRelay.Text

/-! ### Octets of characters -/

/-- An octet that continues a character carries six bits. -/
theorem payload_ofNat {n : Nat} (h : n < 64) : payload (.ofNat (n + 128)) = n := by
  have hall : ∀ n : Fin 64, payload (.ofNat (n + 128)) = n := by decide
  exact hall ⟨n, h⟩

theorem isContinuation_ofNat {n : Nat} (h : n < 64) : isContinuation (.ofNat (n + 128)) = true := by
  have hall : ∀ n : Fin 64, isContinuation (.ofNat (n + 128)) = true := by decide
  exact hall ⟨n, h⟩

/-- One octet follows those from 194 to 223, which carry five bits. -/
theorem following_of_two {n : Nat} (h : n < 32) (hlong : 2 ≤ n) :
    following (.ofNat (n + 192)) = some (1, 0x80, 0xbf) ∧
      (UInt8.ofNat (n + 192) &&& 0x1f).toNat = n := by
  have hall : ∀ n : Fin 32, 2 ≤ n.val → following (.ofNat (n + 192)) = some (1, 0x80, 0xbf) ∧
      (UInt8.ofNat (n + 192) &&& 0x1f).toNat = n := by decide
  exact hall ⟨n, h⟩ hlong

/-- Two octets follow those from 224 to 239, which carry four bits.  What could be written shorter,
and what is no character, is not allowed. -/
theorem following_of_three {n : Nat} (h : n < 16) :
    following (.ofNat (n + 224)) =
        some (2, if n = 0 then 0xa0 else 0x80, if n = 13 then 0x9f else 0xbf) ∧
      (UInt8.ofNat (n + 224) &&& 0x0f).toNat = n := by
  have hall : ∀ n : Fin 16, following (.ofNat (n + 224)) =
        some (2, if n.val = 0 then 0xa0 else 0x80, if n.val = 13 then 0x9f else 0xbf) ∧
      (UInt8.ofNat (n + 224) &&& 0x0f).toNat = n := by decide
  exact hall ⟨n, h⟩

/-- Three octets follow those from 240 to 244, which carry three bits.  What could be written
shorter, and what is too large, is not allowed. -/
theorem following_of_four {n : Nat} (h : n < 5) :
    following (.ofNat (n + 240)) =
        some (3, if n = 0 then 0x90 else 0x80, if n = 4 then 0x8f else 0xbf) ∧
      (UInt8.ofNat (n + 240) &&& 0x07).toNat = n := by
  have hall : ∀ n : Fin 5, following (.ofNat (n + 240)) =
        some (3, if n.val = 0 then 0x90 else 0x80, if n.val = 4 then 0x8f else 0xbf) ∧
      (UInt8.ofNat (n + 240) &&& 0x07).toNat = n := by decide
  exact hall ⟨n, h⟩

/-- An octet that continues a character is in a range, as its bits tell. -/
theorem inRange_ofNat {n : Nat} {lo hi : UInt8} (hlo : lo.toNat ≤ n + 128)
    (hhi : n + 128 ≤ hi.toNat) :
    ¬ (decide (UInt8.ofNat (n + 128) < lo) || decide (hi < .ofNat (n + 128))) = true := by
  have hn : (UInt8.ofNat (n + 128)).toNat = n + 128 :=
    UInt8.toNat_ofNat_of_lt' (Nat.lt_of_le_of_lt hhi hi.toNat_lt)
  simp only [UInt8.lt_iff_toNat_lt, hn, Bool.or_eq_true, decide_eq_true_eq]
  omega

section

variable {a b c d : Nat} (hb : b < 64) (hc : c < 64) (hd : d < 64) (rest : List UInt8)

include hb

/-- A character of two octets is read, unless one octet would do for it. -/
theorem utf8Char?_of_two (ha : a < 32) (hlong : 2 ≤ a) :
    utf8Char? (.ofNat (a + 192) :: .ofNat (b + 128) :: rest) =
      .ok (Char.ofNat (a * 64 + b), 2) := by
  obtain ⟨hfollowing, hlead⟩ := following_of_two ha hlong
  have hlo : (0x80 : UInt8).toNat ≤ b + 128 := Nat.le_add_left ..
  have hhi : b + 128 ≤ (0xbf : UInt8).toNat := by
    change b + 128 ≤ 191
    omega
  simp only [utf8Char?, hfollowing, if_neg (inRange_ofNat hlo hhi), hlead, payload_ofNat hb]

include hc

/-- A character of three octets is read, unless two octets would do for it or it is half of a pair.
-/
theorem utf8Char?_of_three (ha : a < 16) (hlong : a = 0 → 32 ≤ b) (hwhole : a = 13 → b ≤ 31) :
    utf8Char? (.ofNat (a + 224) :: .ofNat (b + 128) :: .ofNat (c + 128) :: rest) =
      .ok (Char.ofNat ((a * 64 + b) * 64 + c), 3) := by
  obtain ⟨hfollowing, hlead⟩ := following_of_three ha
  have hlo : (if a = 0 then 0xa0 else 0x80 : UInt8).toNat ≤ b + 128 := by
    split
    case isTrue h => change 160 ≤ b + 128; have := hlong h; omega
    case isFalse => exact Nat.le_add_left ..
  have hhi : b + 128 ≤ (if a = 13 then 0x9f else 0xbf : UInt8).toNat := by
    split
    case isTrue h => change b + 128 ≤ 159; have := hwhole h; omega
    case isFalse => change b + 128 ≤ 191; omega
  simp only [utf8Char?, hfollowing, if_neg (inRange_ofNat hlo hhi), hlead, payload_ofNat hb,
    payload_ofNat hc, isContinuation_ofNat hc, if_true]

include hd

/-- A character of four octets is read, unless three octets would do for it or it is too large. -/
theorem utf8Char?_of_four (ha : a < 5) (hlong : a = 0 → 16 ≤ b) (hvalid : a = 4 → b ≤ 15) :
    utf8Char? (.ofNat (a + 240) :: .ofNat (b + 128) :: .ofNat (c + 128) :: .ofNat (d + 128) ::
        rest) =
      .ok (Char.ofNat (((a * 64 + b) * 64 + c) * 64 + d), 4) := by
  obtain ⟨hfollowing, hlead⟩ := following_of_four ha
  have hlo : (if a = 0 then 0x90 else 0x80 : UInt8).toNat ≤ b + 128 := by
    split
    case isTrue h => change 144 ≤ b + 128; have := hlong h; omega
    case isFalse => exact Nat.le_add_left ..
  have hhi : b + 128 ≤ (if a = 4 then 0x8f else 0xbf : UInt8).toNat := by
    split
    case isTrue h => change b + 128 ≤ 143; have := hvalid h; omega
    case isFalse => change b + 128 ≤ 191; omega
  simp only [utf8Char?, hfollowing, if_neg (inRange_ofNat hlo hhi), hlead, payload_ofNat hb,
    payload_ofNat hc, payload_ofNat hd, isContinuation_ofNat hc, isContinuation_ofNat hd, if_true]

end

/-- **The octets of a character are read as that character.** -/
theorem utf8Char?_append (c : Char) (rest : List UInt8) :
    utf8Char? (String.utf8EncodeChar c ++ rest) = .ok (c, (String.utf8EncodeChar c).length) := by
  have hchar : Char.ofNat c.val.toNat = c := Char.ofNat_toNat c
  have hvalid : c.val.toNat < 0xd800 ∨ 0xdfff < c.val.toNat ∧ c.val.toNat < 0x110000 := c.valid
  rw [String.utf8EncodeChar]
  generalize c.val.toNat = v at hchar hvalid ⊢
  -- the value of the character tells how many octets there are
  by_cases hone : v ≤ 127
  case pos =>
    have hv : (UInt8.ofNat v).toNat = v :=
      UInt8.toNat_ofNat_of_lt' (by simp only [UInt8.size]; omega)
    have hfollowing : following (.ofNat v) = some (0, 0x80, 0xbf) := by
      rw [following, if_pos (UInt8.lt_iff_toNat_lt.mpr (by rw [hv]; exact Nat.lt_succ_of_le hone))]
    simp only [if_pos hone, List.cons_append, utf8Char?, hfollowing, hv, hchar]
    rfl
  case neg =>
    simp only [if_neg hone]
    by_cases htwo : v ≤ 2047
    case pos =>
      have hvalue : v / 64 % 32 * 64 + v % 64 = v := by omega
      have hread := utf8Char?_of_two (a := v / 64 % 32) (b := v % 64) (by omega) rest (by omega)
        (by omega)
      rw [hvalue, hchar] at hread
      simp only [if_pos htwo]
      exact hread
    case neg =>
      simp only [if_neg htwo]
      by_cases hthree : v ≤ 65535
      case pos =>
        have hvalue : (v / 4096 % 16 * 64 + v / 64 % 64) * 64 + v % 64 = v := by omega
        have hread := utf8Char?_of_three (a := v / 4096 % 16) (b := v / 64 % 64) (c := v % 64)
          (by omega) (by omega) rest (by omega) (by omega) (by omega)
        rw [hvalue, hchar] at hread
        simp only [if_pos hthree]
        exact hread
      case neg =>
        have hvalue : ((v / 262144 % 8 * 64 + v / 4096 % 64) * 64 + v / 64 % 64) * 64 + v % 64 =
            v := by
          omega
        have hread := utf8Char?_of_four (a := v / 262144 % 8) (b := v / 4096 % 64)
          (c := v / 64 % 64) (d := v % 64) (by omega) (by omega) (by omega) rest (by omega)
          (by omega) (by omega)
        rw [hvalue, hchar] at hread
        simp only [if_neg hthree]
        exact hread

/-! ### Octets of texts -/

/-- Reading goes through the octets of a text, with nothing broken in between. -/
theorem utf8DecodeWith_utf8 (broken : Option Char) (s : List Char) {fuel : Nat}
    (hfuel : (utf8 s).length ≤ fuel) : utf8DecodeWith broken fuel (utf8 s) = some s := by
  induction s generalizing fuel with
  | nil => cases fuel <;> rfl
  | cons c s ih =>
    have hutf8 : utf8 (c :: s) = String.utf8EncodeChar c ++ utf8 s := List.flatMap_cons
    have hne : String.utf8EncodeChar c ++ utf8 s ≠ [] := by simp [String.utf8EncodeChar_ne_nil]
    have hpos : 0 < (String.utf8EncodeChar c).length :=
      List.length_pos_iff.mpr String.utf8EncodeChar_ne_nil
    rw [hutf8, List.length_append] at hfuel
    obtain ⟨fuel, rfl⟩ : ∃ n, fuel = n + 1 := ⟨fuel - 1, by omega⟩
    have hrest : utf8DecodeWith broken fuel (utf8 s) = some s := ih (by omega)
    rw [hutf8, utf8DecodeWith.eq_3 _ _ _ _ _ hne (utf8Char?_append c (utf8 s)), List.drop_left,
      hrest]
    rfl

/-- **The octets of a text are read as that text.** -/
theorem utf8DecodeLossy_utf8 (s : List Char) : utf8DecodeLossy (utf8 s) = s := by
  rw [utf8DecodeLossy, utf8DecodeWith_utf8 _ s (Nat.le_refl _)]
  rfl

end DohRelay.Text
