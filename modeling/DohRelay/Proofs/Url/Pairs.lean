import DohRelay.Proofs.Text.Utf8
import DohRelay.Url.Pairs

/-!
# Pairs that are read again

Whatever is put behind the query of a location as a pair is the last of its pairs, and those before
it stay as they were.  The written form of a key or a value has no ampersand and no equal sign, so
it is cut where the pair was put together, and each of its characters is read again.

## Main results

* `decodePart_encodePart` — a key or a value is read as it was written.
* `pairs_appendPair`, `pairs_appendPairs` — **pairs that are put behind a query are its last
  pairs.**
-/

namespace DohRelay.Url

/-! ### Percent signs -/

/-- What is not a percent sign stands for itself. -/
theorem percentDecode_cons {a : UInt8} (h : a ≠ 0x25) (rest : List UInt8) :
    percentDecode (a :: rest) = a :: percentDecode rest := by
  match rest with
  | [] | [_] => rfl
  | b :: c :: rest => simp only [percentDecode, if_neg h]

/-- A digit stands for itself in a pair, and is read as its number. -/
theorem isPlainInPair_upperDigit {d : UInt8} (h : d.toNat < 16) :
    isPlainInPair (upperDigit d) = true ∧
      Text.CodeTable.hexValue? (Char.ofNat (UInt8.ofNat (upperDigit d).toNat).toNat) =
        some d.toNat := by
  have hall : ∀ n : Fin 16, isPlainInPair (upperDigit (.ofNat n)) = true ∧
      Text.CodeTable.hexValue? (Char.ofNat (UInt8.ofNat (upperDigit (.ofNat n)).toNat).toNat) =
        some n.val := by decide
  have hd := hall ⟨d.toNat, h⟩
  rwa [UInt8.ofNat_toNat] at hd

/-- A character that stands for itself in a pair is one octet, which is no percent sign. -/
theorem utf8EncodeChar_of_isPlainInPair {c : Char} (h : isPlainInPair c = true) :
    String.utf8EncodeChar c = [.ofNat c.toNat] ∧ UInt8.ofNat c.toNat ≠ 0x25 := by
  have hsmall : c.toNat < 0x80 := by
    simp only [isPlainInPair, Bool.or_eq_true, Bool.and_eq_true, decide_eq_true_eq, beq_iff_eq] at h
    rcases h with (((h | rfl) | rfl) | rfl) | rfl
    · exact h.1
    all_goals decide
  constructor
  · rw [String.utf8EncodeChar]
    exact if_pos (Nat.le_of_lt_succ hsmall)
  · intro hpercent
    have htoNat : c.toNat = 0x25 := by
      rw [← UInt8.toNat_inj, UInt8.toNat_ofNat_of_lt' (Nat.lt_trans hsmall (by decide))] at hpercent
      exact hpercent
    obtain rfl : c = '%' := by rw [← Char.ofNat_toNat c, htoNat]
    revert h
    decide

/-- The two digits of an octet. -/
theorem digit_lt (b : UInt8) : (b / 16).toNat < 16 ∧ (b % 16).toNat < 16 ∧
    UInt8.ofNat ((b / 16).toNat * 16 + (b % 16).toNat) = b := by
  have hb := b.toNat_lt
  have hdiv : (b / 16).toNat = b.toNat / 16 := UInt8.toNat_div b 16
  have hmod : (b % 16).toNat = b.toNat % 16 := UInt8.toNat_mod b 16
  refine ⟨by omega, by omega, ?_⟩
  rw [hdiv, hmod, show b.toNat / 16 * 16 + b.toNat % 16 = b.toNat by omega, UInt8.ofNat_toNat]

/-- The written form of an octet is read as the octet. -/
theorem percentDecode_percentByte (b : UInt8) (rest : List UInt8) :
    percentDecode (Text.utf8 (percentByte b) ++ rest) = b :: percentDecode rest := by
  obtain ⟨hhigh, hlow, hvalue⟩ := digit_lt b
  obtain ⟨hplain, hread⟩ := isPlainInPair_upperDigit hhigh
  obtain ⟨hplain', hread'⟩ := isPlainInPair_upperDigit hlow
  have hutf8 : Text.utf8 (percentByte b) =
      [0x25, .ofNat (upperDigit (b / 16)).toNat, .ofNat (upperDigit (b % 16)).toNat] := by
    simp only [percentByte, Text.utf8, List.flatMap_cons, List.flatMap_nil,
      (utf8EncodeChar_of_isPlainInPair hplain).1, (utf8EncodeChar_of_isPlainInPair hplain').1]
    rfl
  have hpair : percentDecode.digitPair? (.ofNat (upperDigit (b / 16)).toNat)
      (.ofNat (upperDigit (b % 16)).toNat) = some b := by
    simp only [percentDecode.digitPair?, hread, hread', Option.bind_eq_bind, Option.bind_some,
      hvalue]
    rfl
  rw [hutf8]
  simp only [List.cons_append, List.nil_append, percentDecode, if_true, hpair]

/-! ### Keys and values -/

/-- The octets of a part in which plus signs are blanks. -/
def blankedUtf8 (s : List Char) : List UInt8 :=
  Text.utf8 (s.map fun c => if c = '+' then ' ' else c)

theorem blankedUtf8_append (s t : List Char) :
    blankedUtf8 (s ++ t) = blankedUtf8 s ++ blankedUtf8 t := by
  rw [blankedUtf8, List.map_append, Text.utf8_append]
  rfl

theorem blankedUtf8_of_not_mem {s : List Char} (h : '+' ∉ s) : blankedUtf8 s = Text.utf8 s := by
  have hmap : (s.map fun c => if c = '+' then ' ' else c) = s := by
    refine (List.map_congr_left fun c hc => ?_).trans (List.map_id s)
    exact if_neg (ne_of_mem_of_not_mem hc h)
  rw [blankedUtf8, hmap]

/-- The written form of octets has percent signs and digits. -/
theorem mem_percentBytes {bytes : List UInt8} {c : Char} (h : c ∈ bytes.flatMap percentByte) :
    isPlainInPair c = true ∨ c = '%' := by
  obtain ⟨b, -, hc⟩ := List.mem_flatMap.mp h
  obtain ⟨hhigh, hlow, -⟩ := digit_lt b
  simp only [percentByte, List.mem_cons, List.not_mem_nil, or_false] at hc
  rcases hc with rfl | rfl | rfl
  · exact .inr rfl
  · exact .inl (isPlainInPair_upperDigit hhigh).1
  · exact .inl (isPlainInPair_upperDigit hlow).1

/-- A written key or value has characters that stand for themselves, plus signs and percent signs.
-/
theorem mem_encodePart {s : List Char} {c : Char} (h : c ∈ encodePart s) :
    isPlainInPair c = true ∨ c = '+' ∨ c = '%' := by
  obtain ⟨d, -, hc⟩ := List.mem_flatMap.mp h
  split at hc
  case isTrue => exact .inr (.inl (List.mem_singleton.mp hc))
  case isFalse =>
    split at hc
    case isTrue hplain => exact .inl (List.mem_singleton.mp hc ▸ hplain)
    case isFalse => exact (mem_percentBytes hc).imp_right .inr

/-- So it has no mark of a pair. -/
theorem not_mem_encodePart {s : List Char} : '&' ∉ encodePart s ∧ '=' ∉ encodePart s := by
  constructor <;> intro h <;> rcases mem_encodePart h with hplain | hplus | hpercent
  all_goals first | cases hplus | cases hpercent | exact absurd hplain (by decide)

/-- The written form of octets is read as these. -/
theorem percentDecode_percentBytes (bytes rest : List UInt8) :
    percentDecode (Text.utf8 (bytes.flatMap percentByte) ++ rest) =
      bytes ++ percentDecode rest := by
  induction bytes with
  | nil => rfl
  | cons b bytes ih =>
    rw [List.flatMap_cons, Text.utf8_append, List.append_assoc, percentDecode_percentByte, ih,
      List.cons_append]

/-- The octets of a written key or value are those of its text. -/
theorem percentDecode_encodePart (s : List Char) :
    percentDecode (blankedUtf8 (encodePart s)) = Text.utf8 s := by
  induction s with
  | nil => rfl
  | cons c s ih =>
    rw [encodePart, List.flatMap_cons, blankedUtf8_append, ← encodePart]
    change _ = String.utf8EncodeChar c ++ Text.utf8 s
    split
    case isTrue hblank =>
      rw [hblank, ← ih]
      exact percentDecode_cons (by decide) _
    case isFalse =>
      split
      case isTrue hplain =>
        obtain ⟨hutf8, hpercent⟩ := utf8EncodeChar_of_isPlainInPair hplain
        have hplus : '+' ∉ [c] := by
          rw [List.mem_singleton]
          rintro rfl
          exact absurd hplain (by decide)
        rw [blankedUtf8_of_not_mem hplus, Text.utf8, List.flatMap_singleton, hutf8, ← ih]
        exact percentDecode_cons hpercent _
      case isFalse =>
        have hplus : '+' ∉ (Text.utf8 [c]).flatMap percentByte := by
          intro h
          rcases mem_percentBytes h with hplain | hpercent
          · exact absurd hplain (by decide)
          · cases hpercent
        rw [blankedUtf8_of_not_mem hplus, percentDecode_percentBytes, ih, Text.utf8,
          List.flatMap_singleton]

/-- **A key or a value is read as it was written.** -/
theorem decodePart_encodePart (s : List Char) : decodePart (encodePart s) = s := by
  change Text.utf8DecodeLossy (percentDecode (blankedUtf8 (encodePart s))) = s
  rw [percentDecode_encodePart, Text.utf8DecodeLossy_utf8]

/-! ### Pairs -/

/-- A written pair is cut at its equal sign. -/
theorem span_encodePair (key value : List Char) :
    (encodePair key value).takeWhile (· != '=') = encodePart key ∧
      ((encodePair key value).dropWhile (· != '=')).drop 1 = encodePart value := by
  have hkey : ∀ c ∈ encodePart key, (c != '=') = true := fun c hc =>
    bne_iff_ne.mpr (ne_of_mem_of_not_mem hc not_mem_encodePart.2)
  rw [encodePair, List.takeWhile_append_of_pos hkey, List.dropWhile_append_of_pos hkey]
  simp

/-- A written pair is not cut at an ampersand. -/
theorem splitOn_encodePair (key value : List Char) :
    ((encodePair key value).splitOn '&').filter (!·.isEmpty) = [encodePair key value] := by
  have hsplit : (encodePair key value).splitOn '&' = [encodePair key value] := by
    refine List.splitOn_eq_singleton ?_
    rw [encodePair, List.mem_append, List.mem_cons]
    rintro (h | h | h)
    · exact not_mem_encodePart.1 h
    · cases h
    · exact not_mem_encodePart.1 h
  have hne : (!(encodePair key value).isEmpty) = true := by simp [encodePair]
  rw [hsplit, List.filter_cons, if_pos hne, List.filter_nil]

/-- **A pair that is put behind a query is its last pair.** -/
theorem pairs_appendPair (u : Url) (key value : List Char) :
    (u.appendPair key value).pairs = u.pairs ++ [(key, value)] := by
  obtain ⟨htake, hdrop⟩ := span_encodePair key value
  unfold pairs appendPair
  -- an empty query has no pairs, and any other is cut at the ampersand before the new pair
  match u.query with
  | none | some [] =>
    simp only [Option.getD_some, splitOn_encodePair, List.map_cons, htake, hdrop,
      decodePart_encodePart]
    rfl
  | some (c :: query) =>
    simp only [Option.getD_some, List.splitOn_append_cons_self, List.filter_append, List.map_append,
      splitOn_encodePair, List.map_cons, List.map_nil, htake, hdrop, decodePart_encodePart]

/-- **Pairs that are put behind a query are its last pairs.** -/
theorem pairs_appendPairs (u : Url) (pairs : List (List Char × List Char)) :
    (u.appendPairs pairs).pairs = u.pairs ++ pairs := by
  induction pairs generalizing u with
  | nil => exact (List.append_nil _).symm
  | cons pair rest ih =>
    change ((u.appendPair pair.1 pair.2).appendPairs rest).pairs = _
    rw [ih, pairs_appendPair, List.append_assoc, List.singleton_append]

end DohRelay.Url
