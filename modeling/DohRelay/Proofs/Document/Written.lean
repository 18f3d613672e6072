import DohRelay.Document.Value
import DohRelay.Proofs.Net.Addresses
import DohRelay.Proofs.Text.Decimal
import DohRelay.Proofs.Text.Utf8
import Mathlib.Data.List.Forall2

/-!
# Documents that are read as they were written

A reader of values goes just over the octets of a value and leaves what stands behind them.  Texts,
whole numbers, truth values, lists and records are written here in the plainest way, and are read as
what was written; a record is made of the values of its keys, in whatever order these come.

## Main definitions

* `Reader.Makes` — a reader makes a value of some octets.
* `Text.written`, `Number.written`, `Reader.writtenTruth`, `Reader.writtenList`,
  `Reader.writtenRecord` — written values.
* `Reader.Fills` — values with their keys fill a record.

## Main results

* `Reader.makes_text`, `Reader.makes_natural`, `Reader.makes_truth`, `Reader.makes_list`,
  `Reader.makes_record` — **what is written is read.**
* `read_of_makes` — so is a whole document.
-/

namespace DohRelay.Document

namespace Reader

/-! ### Steps -/

section

variable {α β : Type} {r : Reader α} {a : α} {c c' : Cursor}

theorem bind_of_ok {k : α → Reader β} (h : r c = (.ok a, c')) : (r >>= k) c = k a c' := by
  change (ExceptT.bindCont k (r c).1) (r c).2 = _
  rw [h]
  rfl

theorem placed_of_ok (h : r c = (.ok a, c')) : placed r c = (.ok a, c') := by
  simp only [placed, tryCatch, tryCatchThe, MonadExceptOf.tryCatch, ExceptT.tryCatch, ExceptT.mk,
    bind, StateT.bind, h]
  rfl

theorem ending_of_ok {finish : Reader Unit} {c'' : Cursor} (h : r c = (.ok a, c'))
    (hfinish : finish c' = (.ok (), c'')) : ending r finish c = (.ok a, c'') := by
  unfold ending
  rw [h]
  exact bind_of_ok hfinish

end

variable {α β : Type} {r : Reader α} {a : α} {x y : List UInt8}

/-- A reader makes a value of some octets, goes over these, and leaves what stands behind them, of
which something is known. -/
def Makes (r : Reader α) (x : List UInt8) (a : α) (behind : List UInt8 → Prop) : Prop :=
  ∀ (c : Cursor) (rest : List UInt8), c.rest = x ++ rest → behind rest → c.rest.length ≤ c.size →
    ∃ c', r c = (.ok a, c') ∧ c'.rest = rest ∧ c'.size = c.size

/-- Whatever stands behind. -/
def anything (_ : List UInt8) : Prop := True

/-- A certain octet stands behind. -/
def next (b : UInt8) (rest : List UInt8) : Prop :=
  rest.head? = some b

theorem next_cons (b : UInt8) (rest : List UInt8) : next b (b :: rest) := rfl

namespace Makes

variable {behind more : List UInt8 → Prop}

theorem mono (h : Makes r x a behind) (hmore : ∀ rest, more rest → behind rest) :
    Makes r x a more := fun c rest hrest hbehind => h c rest hrest (hmore rest hbehind)

/-- What stands behind may be looked at. -/
theorem of_each (h : ∀ rest, behind rest → Makes r x a (· = rest)) : Makes r x a behind :=
  fun c rest hrest hbehind => h rest hbehind c rest hrest rfl

theorem pure (a : α) : Makes (Pure.pure a : Reader α) [] a behind :=
  fun c _ hrest _ _ => ⟨c, rfl, hrest, rfl⟩

theorem length_le {c c' : Cursor} {rest : List UInt8} (hrest : c.rest = x ++ rest)
    (hsize : c.rest.length ≤ c.size) (hrest' : c'.rest = rest) (hsize' : c'.size = c.size) :
    c'.rest.length ≤ c'.size := by
  rw [hrest, List.length_append, ← hrest'] at hsize
  omega

/-- One reader after the other. -/
theorem bind {k : α → Reader β} {b : β} (hr : Makes r x a more) (hk : Makes (k a) y b behind)
    (hmore : ∀ rest, behind rest → more (y ++ rest)) : Makes (r >>= k) (x ++ y) b behind := by
  intro c rest hrest hbehind hsize
  rw [List.append_assoc] at hrest
  obtain ⟨c₁, hfirst, hrest₁, hsize₁⟩ := hr c _ hrest (hmore rest hbehind) hsize
  obtain ⟨c₂, hsecond, hrest₂, hsize₂⟩ :=
    hk c₁ rest hrest₁ hbehind (length_le hrest hsize hrest₁ hsize₁)
  exact ⟨c₂, (bind_of_ok hfirst).trans hsecond, hrest₂, hsize₂.trans hsize₁⟩

/-- A reader that looks at what is there, and one after it. -/
theorem bind_look {k : α → Reader β} {b : β} (hr : Makes r [] a more) (hk : Makes (k a) y b behind)
    (hmore : ∀ rest, behind rest → more (y ++ rest)) : Makes (r >>= k) y b behind :=
  hr.bind hk hmore

theorem map {f : α → β} (hr : Makes r x a behind) :
    Makes (r >>= fun a => Pure.pure (f a)) x (f a) behind := by
  have h := hr.bind (k := fun a => Pure.pure (f a)) (y := []) (.pure (f a)) fun _ h => h
  rwa [List.append_nil] at h

theorem placed (h : Makes r x a behind) : Makes (placed r) x a behind := by
  intro c rest hrest hbehind hsize
  obtain ⟨c', hr, hc'⟩ := h c rest hrest hbehind hsize
  exact ⟨c', placed_of_ok hr, hc'⟩

/-- A reader with its end. -/
theorem ending {finish : Reader Unit} (hr : Makes r x a more) (hfinish : Makes finish y () behind)
    (hmore : ∀ rest, behind rest → more (y ++ rest)) :
    Makes (ending r finish) (x ++ y) a behind := by
  intro c rest hrest hbehind hsize
  rw [List.append_assoc] at hrest
  obtain ⟨c₁, hfirst, hrest₁, hsize₁⟩ := hr c _ hrest (hmore rest hbehind) hsize
  obtain ⟨c₂, hsecond, hrest₂, hsize₂⟩ :=
    hfinish c₁ rest hrest₁ hbehind (length_le hrest hsize hrest₁ hsize₁)
  exact ⟨c₂, ending_of_ok hfirst hsecond, hrest₂, hsize₂.trans hsize₁⟩

/-- A reader that repeats itself as often as there are octets in the document. -/
theorem bound {k : Nat → Reader α} (h : ∀ n, x.length < n → Makes (k n) x a behind) :
    Makes (bound >>= k) x a behind := by
  intro c rest hrest hbehind hsize
  have hlt : x.length < c.size + 1 := by
    rw [hrest, List.length_append] at hsize
    omega
  exact h (c.size + 1) hlt c rest hrest hbehind hsize

end Makes

/-! ### Looking and moving -/

theorem makes_advance (b : UInt8) : Makes advance [b] () anything := by
  intro c rest hrest _ _
  refine ⟨c.skip 1, rfl, ?_, rfl⟩
  change c.rest.drop 1 = rest
  rw [hrest]
  rfl

theorem makes_peek? (rest : List UInt8) : Makes peek? [] rest.head? (· = rest) := by
  rintro c rest hrest rfl _
  exact ⟨c, congrArg (fun x : List UInt8 => (Except.ok x.head?, c)) hrest, hrest, rfl⟩

theorem makes_peek?_next (b : UInt8) : Makes peek? [] (some b) (next b) := by
  refine .of_each fun rest hnext => ?_
  rw [← show rest.head? = some b from hnext]
  exact makes_peek? rest

theorem makes_next? (b : UInt8) : Makes next? [b] (some b) anything := by
  rintro ⟨index, _, size⟩ rest ⟨⟩ _ _
  exact ⟨_, rfl, rfl, rfl⟩

/-- Octets that pass a test are read up to one that does not. -/
theorem makes_takeWhile {p : UInt8 → Bool} (hx : ∀ b ∈ x, p b = true) :
    Makes (takeWhile p) x x fun rest => ∀ b ∈ rest.head?, p b = false := by
  intro c rest hrest hstop _
  have htake : c.rest.takeWhile p = x := by
    rw [hrest, List.takeWhile_append_of_pos hx]
    cases rest with
    | nil => simp
    | cons b rest => simp [hstop b rfl]
  refine ⟨c.skip x.length, ?_, ?_, rfl⟩
  · change (Except.ok (c.rest.takeWhile p), c.skip (c.rest.takeWhile p).length) = _
    rw [htake]
  · change c.rest.drop x.length = rest
    rw [hrest, List.drop_left]

theorem makes_peekValue? {b : UInt8} (hb : isBlank b = false) :
    Makes peekValue? [] (some b) (next b) := by
  refine Makes.bind_look (makes_takeWhile (x := []) (List.forall_mem_nil _)) (makes_peek?_next b)
    fun rest hnext c hc => ?_
  rw [List.nil_append] at hc
  cases hnext.symm.trans hc
  exact hb

/-- A value is read by what reads it from its first octet. -/
theorem makes_value {r : UInt8 → Reader α} {b : UInt8} (hb : isBlank b = false)
    {behind : List UInt8 → Prop} (h : Makes (r b) (b :: x) a behind) :
    Makes (value r) (b :: x) a behind := by
  refine (makes_peekValue? hb).bind_look h.placed fun rest _ => ?_
  exact next_cons b (x ++ rest)

end Reader

/-! ### Texts -/

namespace Text

open Reader

/-- The octet of a hexadecimal digit. -/
def hexOctet (digit : UInt8) : UInt8 :=
  if digit < 10 then 0x30 + digit else 0x57 + digit

/-- What stands behind the backslash for an octet that does not stand for itself: the quote and the
backslash do there, and a control character is told by its number. -/
def escape (b : UInt8) : List UInt8 :=
  if b = quote ∨ b = backslash then [b]
  else [numberMark, 0x30, 0x30, hexOctet (b / 16), hexOctet (b % 16)]

/-- The written form of octets in a text. -/
def escaped (bytes : List UInt8) : List UInt8 :=
  bytes.flatMap fun b => if isPlain b then [b] else backslash :: escape b

/-- The written form of a text. -/
def written (s : List Char) : List UInt8 :=
  quote :: (escaped (DohRelay.Text.utf8 s) ++ [quote])

theorem escaped_append (x y : List UInt8) : escaped (x ++ y) = escaped x ++ escaped y :=
  List.flatMap_append

theorem escaped_cons {b : UInt8} (hb : isPlain b = false) (bytes : List UInt8) :
    escaped (b :: bytes) = [backslash] ++ (escape b ++ escaped bytes) := by
  rw [escaped, List.flatMap_cons, if_neg (by simp [hb])]
  rfl

theorem escaped_of_isPlain {bytes : List UInt8} (h : ∀ b ∈ bytes, isPlain b = true) :
    escaped bytes = bytes := by
  induction bytes with
  | nil => rfl
  | cons b bytes ih =>
    obtain ⟨hb, hbytes⟩ := List.forall_mem_cons.mp h
    rw [escaped, List.flatMap_cons, if_pos hb]
    exact congrArg (b :: ·) (ih hbytes)

theorem makes_peekInText (b : UInt8) : Makes peekInText [] b (next b) :=
  (makes_peek?_next b).bind_look (.pure b) fun _ h => h

theorem makes_nextInText (b : UInt8) : Makes nextInText [b] b anything := by
  refine (makes_peekInText b).bind_look ?_ fun rest _ => next_cons b rest
  exact (makes_advance b).bind (y := []) (.pure b) fun _ h => h

/-- Four digits are read as their number. -/
theorem makes_readHex {x y z w : UInt8} {digits : List Nat}
    (h : [x, y, z, w].mapM hexValue? = some digits) :
    Makes readHex [x, y, z, w] (digits.foldl (fun n d => 16 * n + d) 0) anything := by
  rintro ⟨index, _, size⟩ rest ⟨⟩ _ _
  refine ⟨⟨index + 4, rest, size⟩, ?_, rfl, rfl⟩
  refine (bind_of_ok rfl).trans ((bind_of_ok rfl).trans ?_)
  rw [h]
  rfl

/-- A control character is read from its number. -/
theorem makes_readCodePoint (n : Fin 32) :
    Makes readCodePoint [0x30, 0x30, hexOctet (.ofNat n / 16), hexOctet (.ofNat n % 16)]
      (Char.ofNat n) anything := by
  have hdigits : ∀ n : Fin 32,
      [0x30, 0x30, hexOctet (.ofNat n / 16), hexOctet (.ofNat n % 16)].mapM hexValue? =
        some [0, 0, n.val / 16, n.val % 16] := by decide
  have hvalue : [0, 0, n.val / 16, n.val % 16].foldl (fun n d => 16 * n + d) 0 = n.val := by
    simp only [List.foldl_cons, List.foldl_nil]
    omega
  have hhalf : ∀ n : Fin 32, isLowHalf n = false ∧ isHighHalf n = false := by decide
  have hread := makes_readHex (hdigits n)
  rw [hvalue] at hread
  refine hread.bind (y := []) ?_ fun _ _ => trivial
  rw [(hhalf n).1, (hhalf n).2]
  exact .pure _

/-- An octet that does not stand for itself is read behind the backslash. -/
theorem makes_readEscape {b : UInt8} (h : isPlain b = false) :
    Makes readEscape (escape b) [b] anything := by
  unfold escape
  split
  case isTrue hmark =>
    refine (makes_nextInText b).bind (y := []) ?_ fun _ h => h
    rcases hmark with rfl | rfl
    · exact .pure _
    · exact .pure _
  case isFalse hmark =>
    obtain ⟨n, rfl⟩ : ∃ n : Fin 32, b = .ofNat n := by
      refine ⟨⟨b.toNat, ?_⟩, UInt8.ofNat_toNat.symm⟩
      by_contra hle
      have hplain : isPlain b = true := by
        simp only [isPlain, Bool.and_eq_true, decide_eq_true_eq, bne_iff_ne, UInt8.le_iff_toNat_le]
        exact ⟨⟨Nat.le_of_not_lt hle, fun hq => hmark (.inl hq)⟩, fun hb => hmark (.inr hb)⟩
      rw [hplain] at h
      cases h
    have hmeant : ∀ n : Fin 32, DohRelay.Text.utf8 [Char.ofNat n] = [.ofNat n] := by decide
    rw [← hmeant n]
    refine (makes_nextInText numberMark).bind ?_ fun _ h => h
    exact (makes_readCodePoint n).map (f := fun c => DohRelay.Text.utf8 [c])

/-- Octets begin with some that stand for themselves, and then with one that does not. -/
theorem exists_plain (bytes : List UInt8) : ∃ plain special, bytes = plain ++ special ∧
    (∀ b ∈ plain, isPlain b = true) ∧ ∀ b ∈ special.head?, isPlain b = false := by
  refine ⟨_, _, (List.takeWhile_append_dropWhile (p := isPlain)).symm,
    List.all_eq_true.mp List.all_takeWhile, fun b hb => ?_⟩
  have hfirst := List.head?_dropWhile_not isPlain bytes
  rw [Option.mem_def.mp hb] at hfirst
  exact hfirst

/-- Octets in a text are read up to the quote behind them. -/
theorem makes_readFrom (bytes : List UInt8) (parts : List (List UInt8)) {n : Nat}
    (hn : (escaped bytes).length < n) :
    Makes (readFrom parts n) (escaped bytes) (parts.reverse.flatten ++ bytes) (next quote) := by
  induction n generalizing bytes parts with
  | zero => exact absurd hn (Nat.not_lt_zero _)
  | succ n ih =>
    obtain ⟨plain, special, rfl, hplain, hspecial⟩ := exists_plain bytes
    rw [escaped_append, escaped_of_isPlain hplain] at hn ⊢
    -- the plain octets end at a quote, which ends the text, or at a backslash
    have htake := makes_takeWhile hplain
    cases special with
    | nil =>
      refine htake.bind ((makes_peekInText quote).bind_look ?_ fun _ h => h) ?_
      · rw [List.append_nil, if_pos rfl]
        have hread : parts.reverse.flatten ++ plain = (plain :: parts).reverse.flatten := by simp
        rw [hread]
        exact .pure _
      · intro rest hrest b hb
        cases hrest.symm.trans hb
        decide
    | cons b special =>
      have hb : isPlain b = false := hspecial b rfl
      rw [escaped_cons hb] at hn ⊢
      have hread : parts.reverse.flatten ++ (plain ++ b :: special) =
          ([b] :: plain :: parts).reverse.flatten ++ special := by simp
      rw [hread]
      refine htake.bind ((makes_peekInText backslash).bind_look ?_ fun _ _ => rfl) ?_
      · rw [if_neg (by decide)]
        refine (makes_advance backslash).bind ?_ fun _ _ => trivial
        rw [if_pos rfl]
        refine (makes_readEscape hb).bind (ih special _ ?_) fun _ _ => trivial
        simp only [List.length_append, List.length_cons] at hn
        omega
      · intro rest hrest c hc
        cases hc
        decide

/-- **A text is read as it was written**, behind its first quote. -/
theorem makes_read (s : List Char) :
    Makes read (escaped (DohRelay.Text.utf8 s) ++ [quote]) s anything := by
  refine Makes.bound fun n hn => ?_
  rw [List.length_append] at hn
  refine (makes_readFrom (DohRelay.Text.utf8 s) [] (by omega)).bind ?_ fun _ _ => next_cons quote _
  have hdecode : DohRelay.Text.utf8Decode? (DohRelay.Text.utf8 s) = some s :=
    DohRelay.Text.utf8DecodeWith_utf8 none s (Nat.le_refl _)
  simp only [List.reverse_nil, List.flatten_nil, List.nil_append, hdecode]
  exact (makes_advance quote).bind (y := []) (.pure s) fun _ _ => trivial

end Text

/-- **A text is read as it was written.** -/
theorem Reader.makes_text (s : List Char) : Makes text (Text.written s) s anything := by
  refine makes_value (by decide) ?_
  rw [if_pos (by rfl : Text.quote = 0x22)]
  exact (makes_advance Text.quote).bind (Text.makes_read s) fun _ _ => trivial

/-! ### Whole numbers -/

namespace Number

open Reader

/-- The octet of a character that has only one. -/
def octet (c : Char) : UInt8 :=
  .ofNat c.toNat

/-- The written form of a whole number. -/
def written (n : Nat) : List UInt8 :=
  (DohRelay.Text.decimal n).map octet

/-- A number does not go on. -/
def ends (rest : List UInt8) : Prop :=
  ∀ b ∈ rest.head?, isDigit b = false ∧ b ≠ 0x2e ∧ isExponentMark (some b) = false

theorem digit_octet {c : Char} (h : c.isDigit = true) : isDigit (octet c) = true ∧
    digitValue (octet c) = c.toNat - '0'.toNat ∧ (octet c = 0x30 → c = '0') := by
  obtain ⟨hlo, hhi⟩ := DohRelay.Text.toNat_of_isDigit h
  have hoctet : (octet c).toNat = c.toNat :=
    UInt8.toNat_ofNat_of_lt' (by simp only [UInt8.size]; omega)
  refine ⟨?_, ?_, fun h => ?_⟩
  · simp only [isDigit, UInt8.le_iff_toNat_le, hoctet, Bool.and_eq_true, decide_eq_true_eq]
    exact ⟨hlo, hhi⟩
  · rw [digitValue, hoctet]
    rfl
  · rw [← UInt8.toNat_inj, hoctet] at h
    rw [← Char.ofNat_toNat c, h]
    rfl

/-- Digits are taken as long as the number is not too large. -/
theorem absorb_octets {cs : List Char} (hcs : ∀ c ∈ cs, c.isDigit = true) {max value : Nat}
    (h : Nat.ofDigitChars 10 cs value ≤ max) :
    absorb max value (cs.map octet) = (Nat.ofDigitChars 10 cs value, []) := by
  induction cs generalizing value with
  | nil => rfl
  | cons c cs ih =>
    obtain ⟨hc, hcs⟩ := List.forall_mem_cons.mp hcs
    rw [Nat.ofDigitChars_cons, ← (digit_octet hc).2.1] at h ⊢
    exact (if_pos (Nat.le_trans (DohRelay.Text.le_ofDigitChars cs _) h)).trans (ih hcs h)

/-- Behind the last digit the number is found to be whole. -/
theorem makes_whole (n : Nat) : Makes (do
    let mark ← peek?
    if mark = some 0x2e then readDecimals false n ([] : List UInt8).length
    else if isExponentMark mark then readExponent false n ([] : List UInt8).length
    else if ([] : List UInt8).isEmpty then return ofDigits false n
    else ofParts false n ([] : List UInt8).length) [] (.natural n) ends := by
  refine .of_each fun rest hends => (makes_peek? rest).bind_look ?_ fun _ h => h
  have hpoint : rest.head? ≠ some 0x2e := fun h => (hends _ h).2.1 rfl
  have hmark : ¬ isExponentMark rest.head? = true := by
    cases hhead : rest.head? with
    | none => decide
    | some b => simp [(hends b hhead).2.2]
  rw [if_neg hpoint, if_neg hmark]
  exact .pure _

/-- **A whole number is read as it was written.** -/
theorem makes_read {n : Nat} (hn : n ≤ maxSignificand) :
    Makes (read false) (written n) (.natural n) ends := by
  obtain ⟨c, cs, hdecimal, hall, -, -⟩ := DohRelay.Text.exists_decimal n
  have hdigits : Nat.toDigits 10 n = c :: cs := hdecimal
  obtain ⟨hc, hcs⟩ := List.forall_mem_cons.mp hall
  have hvalue : Nat.ofDigitChars 10 cs (digitValue (octet c)) = n := by
    rw [(digit_octet hc).2.1, ← Nat.ofDigitChars_ten_toDigits (n := n), hdigits,
      Nat.ofDigitChars_cons, Nat.mul_zero, Nat.zero_add]
  have habsorb : absorb maxSignificand (digitValue (octet c)) (cs.map octet) = (n, []) := by
    rw [absorb_octets hcs (hvalue.symm ▸ hn), hvalue]
  have hwritten : written n = [octet c] ++ (cs.map octet ++ []) := by
    rw [List.append_nil]
    exact congrArg (List.map octet) hdigits
  rw [hwritten]
  refine (makes_next? (octet c)).bind ?_ fun _ _ => trivial
  dsimp only
  rw [(digit_octet hc).1, if_neg (by decide)]
  by_cases hzero : octet c = 0x30
  case pos =>
    -- only zero begins with a zero, and no digit follows
    obtain rfl : n = 0 := by
      have hfirst : 0 < n → (Nat.toDigits 10 n).head? ≠ some '0' := Net.head?_toDigits (by decide)
      rw [hdigits, (digit_octet hc).2.2 hzero] at hfirst
      exact Nat.eq_zero_of_not_pos fun hpos => hfirst hpos rfl
    obtain rfl : cs = [] := by
      cases hdigits
      rfl
    have hnone : Makes (do
        if (← peek?).any isDigit then failAhead .invalidNumber
        return []) [] ([] : List UInt8) ends := by
      refine .of_each fun rest hends => (makes_peek? rest).bind_look ?_ fun _ h => h
      rw [if_neg (by simpa [Option.any_eq_true] using fun b hb => (hends b hb).1)]
      exact .pure []
    rw [if_pos hzero]
    refine hnone.bind_look ?_ fun _ h => h
    rw [List.map_nil] at habsorb ⊢
    rw [habsorb]
    exact makes_whole 0
  case neg =>
    have hmore : Makes (takeWhile isDigit) (cs.map octet) (cs.map octet) ends := by
      refine (makes_takeWhile fun b hb => ?_).mono fun _ hends b hb => (hends b hb).1
      obtain ⟨d, hd, rfl⟩ := List.mem_map.mp hb
      exact (digit_octet (hcs d hd)).1
    rw [if_neg hzero]
    refine hmore.bind ?_ fun _ h => h
    rw [habsorb]
    exact makes_whole n

theorem written_eq_cons (n : Nat) : ∃ b x, written n = b :: x ∧ isDigit b = true := by
  obtain ⟨c, cs, hdigits, hall, -, -⟩ := DohRelay.Text.exists_decimal n
  refine ⟨octet c, cs.map octet, congrArg (List.map octet) hdigits, ?_⟩
  exact (digit_octet (hall c List.mem_cons_self)).1

theorem of_isDigit {b : UInt8} (h : isDigit b = true) :
    isBlank b = false ∧ b ≠ 0x2d ∧ b ≠ 0x5d := by
  have hne {d : UInt8} (hd : isDigit d = false) : b ≠ d := by
    rintro rfl
    rw [h] at hd
    cases hd
  refine ⟨?_, hne rfl, hne rfl⟩
  simp only [isBlank, Bool.or_eq_false_iff, beq_eq_false_iff_ne]
  exact ⟨⟨⟨hne rfl, hne rfl⟩, hne rfl⟩, hne rfl⟩

end Number

namespace Reader

/-- A whole number within a range is read as it was written. -/
theorem makes_natural {max n : Nat} (hle : n ≤ max) (hmax : max ≤ Number.maxSignificand)
    (expected : String) : Makes (natural max expected) (Number.written n) n Number.ends := by
  have hread := Number.makes_read (Nat.le_trans hle hmax)
  obtain ⟨b, x, hx, hdigit⟩ := Number.written_eq_cons n
  obtain ⟨hblank, hminus, -⟩ := Number.of_isDigit hdigit
  rw [hx] at hread ⊢
  refine makes_value hblank ?_
  rw [if_neg hminus, if_pos hdigit, ← List.append_nil (b :: x)]
  refine hread.bind ?_ fun _ h => h
  rw [naturalOf, if_pos hle]
  exact .pure _

/-- **A number of 16 bits is read as it was written.** -/
theorem makes_word16 (n : UInt16) : Makes word16 (Number.written n.toNat) n Number.ends := by
  have h := (makes_natural (Nat.le_sub_one_of_lt n.toNat_lt) (by decide) "u16").map
    (f := UInt16.ofNat)
  rwa [UInt16.ofNat_toNat] at h

/-- **A number of 32 bits is read as it was written.** -/
theorem makes_word32 (n : UInt32) : Makes word32 (Number.written n.toNat) n Number.ends := by
  have h := (makes_natural (Nat.le_sub_one_of_lt n.toNat_lt) (by decide) "u32").map
    (f := UInt32.ofNat)
  rwa [UInt32.ofNat_toNat] at h

/-! ### Truth values -/

/-- The written form of a truth value. -/
def writtenTruth : Bool → List UInt8
  | true => [0x74, 0x72, 0x75, 0x65]
  | false => [0x66, 0x61, 0x6c, 0x73, 0x65]

/-- What is left of a word is read as it was written. -/
theorem makes_word (expected : List UInt8) : Makes (word expected) expected () anything := by
  induction expected with
  | nil => exact .pure ()
  | cons b expected ih =>
    refine (makes_next? b).bind (y := expected) ?_ fun _ _ => trivial
    dsimp only
    rw [if_pos rfl]
    exact ih

/-- **A truth value is read as it was written.** -/
theorem makes_truth (b : Bool) : Makes truth (writtenTruth b) b anything := by
  cases b with
  | true =>
    refine makes_value (by decide) ((makes_advance 0x74).bind ?_ fun _ _ => trivial)
    exact (makes_word [0x72, 0x75, 0x65]).map
  | false =>
    refine makes_value (by decide) ((makes_advance 0x66).bind ?_ fun _ _ => trivial)
    exact (makes_word [0x61, 0x6c, 0x73, 0x65]).map

end Reader

/-! ### Lists -/

namespace Reader

/-- What ends a value in a list or a record stands behind. -/
def delimited (rest : List UInt8) : Prop :=
  next comma rest ∨ next 0x5d rest ∨ next 0x7d rest

/-- The first element of a list begins. -/
def begins (x : List UInt8) : Prop :=
  ∃ b, next b x ∧ isBlank b = false ∧ b ≠ 0x5d

/-- What is written one after the other, with a comma before each but the first. -/
def joined (isFirst : Bool) : List (List UInt8) → List UInt8
  | [] => []
  | x :: xs => (if isFirst then [] else [comma]) ++ (x ++ joined false xs)

theorem ends_of_delimited {rest : List UInt8} (h : delimited rest) : Number.ends rest := by
  intro b hb
  rcases h with h | h | h <;> cases h.symm.trans hb <;> decide

theorem delimited_joined {close : UInt8} (hclose : close = 0x5d ∨ close = 0x7d)
    (xs : List (List UInt8)) {rest : List UInt8} (h : next close rest) :
    delimited (joined false xs ++ rest) := by
  cases xs with
  | nil =>
    rcases hclose with rfl | rfl
    · exact .inr (.inl h)
    · exact .inr (.inr h)
  | cons x xs => exact .inl rfl

theorem begins_append {x : List UInt8} (h : begins x) (rest : List UInt8) : begins (x ++ rest) := by
  obtain ⟨b, hb, hbegins⟩ := h
  refine ⟨b, ?_, hbegins⟩
  rw [next, List.head?_append, hb]
  rfl

theorem makes_peekValue?_begins {x : List UInt8} (h : begins x) :
    ∃ b, b ≠ 0x5d ∧ Makes peekValue? [] (some b) (· = x) := by
  obtain ⟨b, hb, hblank, hclose⟩ := h
  exact ⟨b, hclose, (makes_peekValue? hblank).mono fun _ hx => hx ▸ hb⟩

/-- Another element is found where it begins. -/
theorem makes_hasElement (isFirst : Bool) :
    Makes (hasElement isFirst) (if isFirst then [] else [comma]) true begins := by
  refine .of_each fun rest hbegins => ?_
  obtain ⟨b, hclose, hpeek⟩ := makes_peekValue?_begins hbegins
  cases isFirst with
  | true =>
    refine hpeek.bind_look ?_ fun _ h => h
    dsimp only
    rw [if_neg hclose]
    exact .pure true
  | false =>
    refine (makes_peekValue? (b := comma) (by decide)).bind_look ?_ fun _ _ => rfl
    dsimp only
    rw [if_neg (by decide), if_neg (by decide), if_neg (by decide)]
    refine (makes_advance comma).bind (y := []) (hpeek.bind_look ?_ fun _ h => h) fun _ _ => trivial
    dsimp only
    rw [if_neg hclose]
    exact .pure true

theorem makes_hasElement_end (isFirst : Bool) :
    Makes (hasElement isFirst) [] false (next 0x5d) := by
  refine (makes_peekValue? (by decide)).bind_look ?_ fun _ h => h
  dsimp only
  rw [if_pos rfl]
  exact .pure false

theorem makes_endList : Makes endList [0x5d] () anything :=
  (makes_peekValue? (b := 0x5d) (by decide)).bind_look (makes_advance 0x5d) fun _ _ => rfl

section

variable {α : Type} {element : Reader α} {xs : List (List UInt8)} {as : List α}

/-- The elements of a list are read up to its end. -/
theorem makes_elements
    (h : List.Forall₂ (fun x a => begins x ∧ Makes element x a delimited) xs as) (isFirst : Bool)
    {n : Nat} (hn : xs.length < n) :
    Makes (elements element isFirst n) (joined isFirst xs) as (next 0x5d) := by
  induction h generalizing isFirst n with
  | nil =>
    obtain ⟨n, rfl⟩ : ∃ k, n = k + 1 := ⟨n - 1, by omega⟩
    exact (makes_hasElement_end isFirst).bind_look (.pure []) fun _ h => h
  | @cons x a xs as hx hxs ih =>
    obtain ⟨n, rfl⟩ : ∃ k, n = k + 1 := ⟨n - 1, by omega⟩
    refine (makes_hasElement isFirst).bind ?_ fun rest _ => ?_
    · refine hx.2.bind (ih false (Nat.lt_of_succ_lt_succ hn)).map fun rest h => ?_
      exact delimited_joined (.inl rfl) xs h
    · rw [List.append_assoc]
      exact begins_append hx.1 _

theorem length_le_joined (isFirst : Bool) {xs : List (List UInt8)} (h : ∀ x ∈ xs, x ≠ []) :
    xs.length ≤ (joined isFirst xs).length := by
  induction xs generalizing isFirst with
  | nil => exact Nat.zero_le _
  | cons x xs ih =>
    obtain ⟨hx, hxs⟩ := List.forall_mem_cons.mp h
    have hpos := List.length_pos_iff.mpr hx
    have hle := ih false hxs
    simp only [joined, List.length_append, List.length_cons]
    omega

/-- The written form of a list. -/
def writtenList (xs : List (List UInt8)) : List UInt8 :=
  0x5b :: (joined true xs ++ [0x5d])

/-- **A list is read as it was written.** -/
theorem makes_list (hxs : ∀ x ∈ xs, begins x)
    (h : List.Forall₂ (fun x a => Makes element x a delimited) xs as) :
    Makes (list element) (writtenList xs) as anything := by
  have hlength : xs.length ≤ (joined true xs).length := by
    refine length_le_joined true fun x hx hnil => ?_
    obtain ⟨b, hb, -⟩ := hxs x hx
    rw [hnil] at hb
    cases hb
  refine makes_value (by decide) ?_
  rw [if_pos rfl]
  refine (makes_advance 0x5b).bind (y := joined true xs ++ [0x5d]) ?_ fun _ _ => trivial
  refine Makes.bound fun n hn => ?_
  rw [List.length_append] at hn
  have helements := makes_elements ((List.forall₂_and_left _ _).mpr ⟨hxs, h⟩) true (n := n)
    (by omega)
  exact helements.ending makes_endList fun rest _ => next_cons _ rest

/-- So is a list of values that all have a written form. -/
theorem makes_list_map {f : α → List UInt8} (hf : ∀ a, begins (f a))
    (h : ∀ a, Makes element (f a) a anything) (as : List α) :
    Makes (list element) (writtenList (as.map f)) as anything := by
  refine makes_list (fun x hx => ?_) ?_
  · obtain ⟨a, -, rfl⟩ := List.mem_map.mp hx
    exact hf a
  · rw [List.forall₂_map_left_iff, List.forall₂_same]
    exact fun a _ => (h a).mono fun _ _ => trivial

end

/-! ### Records -/

/-- Another key is found where it begins. -/
theorem makes_hasKey (isFirst : Bool) :
    Makes (hasKey isFirst) (if isFirst then [] else [comma]) true (next Text.quote) := by
  have hpeek := makes_peekValue? (b := Text.quote) (by decide)
  cases isFirst with
  | true =>
    refine hpeek.bind_look ?_ fun _ h => h
    dsimp only
    rw [if_neg (by decide), if_pos rfl, if_pos (by rfl)]
    exact .pure true
  | false =>
    refine (makes_peekValue? (b := comma) (by decide)).bind_look ?_ fun _ _ => rfl
    dsimp only
    rw [if_neg (by decide), if_neg (by decide), if_neg (by decide)]
    refine (makes_advance comma).bind (y := []) (hpeek.bind_look ?_ fun _ h => h) fun _ _ => trivial
    dsimp only
    rw [if_pos (by rfl)]
    exact .pure true

theorem makes_hasKey_end (isFirst : Bool) : Makes (hasKey isFirst) [] false (next 0x7d) := by
  refine (makes_peekValue? (by decide)).bind_look ?_ fun _ h => h
  dsimp only
  rw [if_pos rfl]
  exact .pure false

theorem makes_colon : Makes colon [0x3a] () anything :=
  (makes_peekValue? (b := 0x3a) (by decide)).bind_look (makes_advance 0x3a) fun _ _ => rfl

theorem makes_endRecord : Makes endRecord [0x7d] () anything :=
  (makes_peekValue? (b := 0x7d) (by decide)).bind_look (makes_advance 0x7d) fun _ _ => rfl

variable {σ : Type} {layout : Layout σ}

/-- The written form of a key with its value. -/
def writtenPair (key : String) (x : List UInt8) : List UInt8 :=
  Text.written key.toList ++ 0x3a :: x

/-- Keys with their values fill a record, of which some fields are filled already. -/
inductive Fills (layout : Layout σ) : σ → List String → List (List UInt8) → σ → List String → Prop
  /-- Nothing more is filled. -/
  | nil (record : σ) (seen : List String) : Fills layout record seen [] record seen
  /-- A field is filled that was not, and then the others. -/
  | cons {record more result : σ} {seen after : List String} {key : String} {field : Field σ}
      {x : List UInt8} {pairs : List (List UInt8)}
      (hfield : layout.fields.find? (·.name == key) = some field)
      (hnew : seen.contains key = false) (hread : Makes (field.read record) x more delimited)
      (hothers : Fills layout more (key :: seen) pairs result after) :
      Fills layout record seen (writtenPair key x :: pairs) result after

variable {record result : σ} {seen after : List String} {pairs : List (List UInt8)}

/-- The keys of a record with their values are read up to its end. -/
theorem makes_keyedFields (h : Fills layout record seen pairs result after) (isFirst : Bool)
    {n : Nat} (hn : pairs.length < n) :
    Makes (keyedFields layout record seen isFirst n) (joined isFirst pairs) (result, after)
      (next 0x7d) := by
  induction h generalizing isFirst n with
  | nil =>
    obtain ⟨n, rfl⟩ : ∃ k, n = k + 1 := ⟨n - 1, by omega⟩
    exact (makes_hasKey_end isFirst).bind_look (.pure _) fun _ h => h
  | @cons record more result seen after key field x pairs hfield hnew hread hothers ih =>
    obtain ⟨n, rfl⟩ : ∃ k, n = k + 1 := ⟨n - 1, by omega⟩
    refine (makes_hasKey isFirst).bind ?_ fun rest _ => next_cons _ _
    have hpair : writtenPair key x ++ joined false pairs = [Text.quote] ++
        (Text.escaped (DohRelay.Text.utf8 key.toList) ++ [Text.quote] ++
          ([0x3a] ++ (x ++ joined false pairs))) := by
      simp [writtenPair, Text.written]
    rw [if_pos rfl, hpair]
    refine (makes_advance _).bind ((Text.makes_read key.toList).bind ?_ fun _ _ => trivial)
      fun _ _ => trivial
    simp only [String.ofList_toList, hfield, hnew, Bool.false_eq_true, if_false]
    refine makes_colon.bind (hread.bind (ih false (Nat.lt_of_succ_lt_succ hn)) fun rest h => ?_)
      fun _ _ => trivial
    exact delimited_joined (.inr rfl) pairs h

theorem Fills.ne_nil (h : Fills layout record seen pairs result after) : ∀ x ∈ pairs, x ≠ [] := by
  induction h with
  | nil => exact List.forall_mem_nil _
  | cons _ _ _ _ ih => exact List.forall_mem_cons.mpr ⟨List.cons_ne_nil _ _, ih⟩

/-- The written form of a record. -/
def writtenRecord (pairs : List (List UInt8)) : List UInt8 :=
  0x7b :: (joined true pairs ++ [0x7d])

theorem begins_writtenRecord (pairs : List (List UInt8)) : begins (writtenRecord pairs) :=
  ⟨0x7b, next_cons _ _, by decide, by decide⟩

/-- **A record is read as it was written**, if no field that has to be there is left out. -/
theorem makes_record (h : Fills layout layout.blank [] pairs result after)
    (hall : ∀ field ∈ layout.fields, field.required = true → field.name ∈ after) :
    Makes (Reader.record layout) (writtenRecord pairs) result anything := by
  have hmissing : layout.fields.find? (fun field => field.required && !after.contains field.name) =
      none := by
    simpa using hall
  refine makes_value (by decide) ?_
  rw [if_neg (by decide), if_pos rfl]
  refine (makes_advance 0x7b).bind (y := joined true pairs ++ [0x7d]) ?_ fun _ _ => trivial
  have hfields : Makes (allKeyedFields layout) (joined true pairs) result (next 0x7d) := by
    refine Makes.bound fun n hn => ?_
    have hlength := length_le_joined true h.ne_nil
    rw [← List.append_nil (joined true pairs)]
    refine (makes_keyedFields h true (by omega)).bind ?_ fun _ h => h
    dsimp only
    rw [hmissing]
    exact .pure result
  exact hfields.ending makes_endRecord fun rest _ => next_cons _ rest

end Reader

/-! ### Documents -/

open Reader in
/-- **A whole document is read as it was written.** -/
theorem read_of_makes {α : Type} {r : Reader α} {a : α} {document : List UInt8}
    (h : Reader.Makes r document a Reader.anything) : read r document = .ok a := by
  have hpeek : Reader.Makes peekValue? [] none (· = []) := by
    refine Makes.bind_look (makes_takeWhile (x := []) (List.forall_mem_nil _)) (makes_peek? [])
      fun rest hrest b hb => ?_
    rw [hrest] at hb
    cases hb
  have hend : Reader.Makes endDocument [] () (· = []) := hpeek.bind_look (.pure ()) fun _ h => h
  have hdone : Reader.Makes (endDocument >>= fun _ => Pure.pure a) [] a (· = []) :=
    hend.bind_look (.pure a) fun _ h => h
  have hwhole := h.bind (k := fun a => endDocument >>= fun _ => Pure.pure a) hdone
    fun _ _ => trivial
  obtain ⟨c, hread, -, -⟩ := hwhole (Cursor.start document) [] (by simp [Cursor.start]) rfl
    (Nat.le_refl _)
  exact congrArg Prod.fst hread

end DohRelay.Document
