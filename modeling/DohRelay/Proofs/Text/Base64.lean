import DohRelay.Text.Base64
import DohRelay.Text.Utf8

/-!
# Octets in base 64

Octets are written by values of six bits, and the characters for these are read as the values and
put together again.

## Main definitions

* `Base64.sextets` — the values of six bits that some octets are written by.

## Main results

* `Base64.unpack_sextets` — the values carry the octets, and no bits are left over.
* `Base64.decode_encode` — **what is written is read.**
-/

namespace DohRelay.Text.Base64

/-- The values of six bits that some octets are written by. -/
def sextets : List UInt8 → List Nat
  | [] => []
  | [a] => [a.toNat / 4, a.toNat % 4 * 16]
  | [a, b] => [a.toNat / 4, a.toNat % 4 * 16 + b.toNat / 16, b.toNat % 16 * 4]
  | a :: b :: c :: rest =>
    (a.toNat / 4) :: (a.toNat % 4 * 16 + b.toNat / 16) :: (b.toNat % 16 * 4 + c.toNat / 64) ::
      (c.toNat % 64) :: sextets rest

theorem encode_eq (bytes : List UInt8) : encode bytes = (sextets bytes).map symbol := by
  induction bytes using encode.induct with
  | case1 | case2 | case3 => rfl
  | case4 a b c rest ih => simp only [encode, sextets, ih, List.map_cons]

/-- The values have six bits. -/
theorem lt_of_mem_sextets {bytes : List UInt8} {v : Nat} (h : v ∈ sextets bytes) : v < 64 := by
  induction bytes using sextets.induct with
  | case1 => cases h
  | case2 a =>
    have ha := a.toNat_lt
    simp only [sextets, List.mem_cons, List.not_mem_nil, or_false] at h
    omega
  | case3 a b =>
    have ha := a.toNat_lt
    have hb := b.toNat_lt
    simp only [sextets, List.mem_cons, List.not_mem_nil, or_false] at h
    omega
  | case4 a b c rest ih =>
    have ha := a.toNat_lt
    have hb := b.toNat_lt
    have hc := c.toNat_lt
    simp only [sextets, List.mem_cons] at h
    rcases h with h | h | h | h | h
    · omega
    · omega
    · omega
    · omega
    · exact ih h

/-- No number of octets takes one value more than full groups. -/
theorem length_sextets_mod (bytes : List UInt8) : (sextets bytes).length % 4 ≠ 1 := by
  induction bytes using sextets.induct with
  | case1 | case2 | case3 => simp [sextets]
  | case4 a b c rest ih =>
    simp only [sextets, List.length_cons]
    omega

/-- **The values carry the octets, and no bits are left over.** -/
theorem unpack_sextets (bytes : List UInt8) : unpack (sextets bytes) = (bytes, 0) := by
  have hoctet {n : Nat} {b : UInt8} (h : n = b.toNat) : UInt8.ofNat n = b := by
    rw [h, UInt8.ofNat_toNat]
  induction bytes using sextets.induct with
  | case1 => rfl
  | case2 a =>
    have ha := a.toNat_lt
    simp only [sextets, unpack]
    rw [hoctet (b := a) (by omega)]
    congr 1
    omega
  | case3 a b =>
    have ha := a.toNat_lt
    have hb := b.toNat_lt
    simp only [sextets, unpack]
    rw [hoctet (b := a) (by omega), hoctet (b := b) (by omega)]
    congr 1
    omega
  | case4 a b c rest ih =>
    have ha := a.toNat_lt
    have hb := b.toNat_lt
    have hc := c.toNat_lt
    simp only [sextets, unpack, ih]
    rw [hoctet (b := a) (by omega), hoctet (b := b) (by omega), hoctet (b := c) (by omega)]

/-! ### Characters -/

/-- The octet of the character for six bits. -/
def symbolByte (n : Nat) : UInt8 := .ofNat (symbol n).toNat

theorem value?_symbolByte {n : Nat} (h : n < 64) :
    value? (symbolByte n) = some n ∧ symbolByte n ≠ 0x3d := by
  have hall : ∀ n : Fin 64, value? (symbolByte n) = some n.val ∧ symbolByte n ≠ 0x3d := by decide
  exact hall ⟨n, h⟩

theorem utf8EncodeChar_symbol {n : Nat} (h : n < 64) :
    String.utf8EncodeChar (symbol n) = [symbolByte n] := by
  have hall : ∀ n : Fin 64, String.utf8EncodeChar (symbol n) = [symbolByte n] := by decide
  exact hall ⟨n, h⟩

theorem utf8_symbols {vs : List Nat} (h : ∀ v ∈ vs, v < 64) :
    utf8 (vs.map symbol) = vs.map symbolByte := by
  induction vs with
  | nil => rfl
  | cons v vs ih =>
    obtain ⟨hv, hvs⟩ := List.forall_mem_cons.mp h
    rw [List.map_cons, List.map_cons, ← ih hvs, utf8, List.flatMap_cons, utf8EncodeChar_symbol hv]
    rfl

/-- The characters for some values are read as these. -/
theorem values_symbols {vs : List Nat} (h : ∀ v ∈ vs, v < 64) (offset : Nat) :
    values offset (vs.map symbolByte) = .ok vs := by
  induction vs generalizing offset with
  | nil => rfl
  | cons v vs ih =>
    obtain ⟨hv, hvs⟩ := List.forall_mem_cons.mp h
    simp only [List.map_cons, values, (value?_symbolByte hv).1, ih hvs]
    rfl

/-- So they are in the last group. -/
theorem lastValues_symbols {vs : List Nat} (h : ∀ v ∈ vs, v < 64) (offset k : Nat) :
    lastValues offset k (vs.map symbolByte) = .ok vs := by
  induction vs generalizing k with
  | nil => rfl
  | cons v vs ih =>
    obtain ⟨hv, hvs⟩ := List.forall_mem_cons.mp h
    obtain ⟨hvalue, hequals⟩ := value?_symbolByte hv
    simp only [List.map_cons, lastValues, if_neg hequals, hvalue, ih hvs]
    rfl

/-- **What is written is read.** -/
theorem decode_encode (bytes : List UInt8) : decode (utf8 (encode bytes)) = .ok bytes := by
  have hlt : ∀ v ∈ sextets bytes, v < 64 := fun v => lt_of_mem_sextets
  have hmod := length_sextets_mod bytes
  rw [encode_eq, utf8_symbols hlt]
  have hunpack := unpack_sextets bytes
  generalize sextets bytes = vs at hlt hmod hunpack ⊢
  have hstray : strayEnd (vs.map symbolByte) = false := by
    simp [strayEnd, hmod]
  have hhead : values 0 ((vs.take (headLength vs.length)).map symbolByte) =
      .ok (vs.take (headLength vs.length)) :=
    values_symbols (fun v hv => hlt v (List.mem_of_mem_take hv)) 0
  have hlast : lastValues (headLength vs.length) 0
      ((vs.drop (headLength vs.length)).map symbolByte) = .ok (vs.drop (headLength vs.length)) :=
    lastValues_symbols (fun v hv => hlt v (List.mem_of_mem_drop hv)) _ 0
  -- the last group has four characters, or two or three if it is not full
  have hlong : ¬ (vs.map symbolByte ≠ [] ∧ (vs.drop (headLength vs.length)).length < 2) := by
    rintro ⟨hne, hshort⟩
    have hpos : 0 < vs.length := List.length_pos_iff.mpr (by simpa using hne)
    rw [List.length_drop, headLength] at hshort
    split at hshort <;> omega
  simp only [decode, hstray, List.length_map, ← List.map_take, ← List.map_drop, hhead, hlast, bind,
    Except.bind, Bool.false_eq_true, if_false, if_neg hlong, Nat.lt_irrefl, List.take_append_drop,
    hunpack, ne_eq, not_true_eq_false]
  rfl

end DohRelay.Text.Base64
