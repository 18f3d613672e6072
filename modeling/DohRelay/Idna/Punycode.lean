/-!
# Punycode

Texts of any script written with letters, digits and dashes.  The ASCII characters of a text come
first.  Then, for each other character by ascending code point, follows a number that says how far
to go from the last one to the place and the code point of the next; the base of the number's digits
adapts to the size of the numbers before.

## Main definitions

* `Punycode.encode` — the written form of a text.
* `Punycode.decode?` — the text of a written form.
-/

namespace DohRelay.Idna.Punycode

/-- The character of a digit below thirty-six. -/
def digitChar (d : Nat) : Char :=
  if d < 26 then Char.ofNat ('a'.toNat + d) else Char.ofNat ('0'.toNat + (d - 26))

/-- The value of a digit, in either letter case. -/
def digitValue? (c : Char) : Option Nat :=
  if 'a' ≤ c ∧ c ≤ 'z' then some (c.toNat - 'a'.toNat)
  else if 'A' ≤ c ∧ c ≤ 'Z' then some (c.toNat - 'A'.toNat)
  else if '0' ≤ c ∧ c ≤ '9' then some (c.toNat - '0'.toNat + 26)
  else none

/-- The least digit that does not end a number, at the digit with weight index `k`. -/
def threshold (k bias : Nat) : Nat :=
  if k ≤ bias then 1 else if bias + 26 ≤ k then 26 else k - bias

theorem threshold_pos (k bias : Nat) : 1 ≤ threshold k bias := by
  unfold threshold
  split
  · omega
  · split <;> omega

/-- Divides a number until it is small, counting `k` up at each step. -/
def scaleDown (delta k : Nat) : Nat × Nat :=
  if 455 < delta then scaleDown (delta / 35) (k + 36) else (delta, k)
termination_by delta
decreasing_by exact Nat.div_lt_self (by omega) (by omega)

/-- The bias after a number, the `count`-th of the text. -/
def adapt (delta count : Nat) (isFirst : Bool) : Nat :=
  let delta := if isFirst then delta / 700 else delta / 2
  let (delta, k) := scaleDown (delta + delta / count) 0
  k + 36 * delta / (delta + 38)

/-! ### Writing -/

/-- The digits of a number. -/
def encodeNumber (bias k n : Nat) : List Char :=
  let t := threshold k bias
  if n < t then [digitChar n]
  else digitChar (t + (n - t) % (36 - t)) :: encodeNumber bias (k + 36) ((n - t) / (36 - t))
termination_by n
decreasing_by
  have := threshold_pos k bias
  have := Nat.div_le_self (n - threshold k bias) (36 - threshold k bias)
  omega

/-- What writing has come to. -/
structure EncodeState where
  /-- The characters written. -/
  written : List Char
  /-- How far the next character is. -/
  delta : Nat
  /-- The bias of the next number. -/
  bias : Nat
  /-- How many characters of the text have been written. -/
  count : Nat

/-- Passes one character of the text while the characters `current` are written. -/
def encodeStep (basic current : Nat) (s : EncodeState) (c : Char) : EncodeState :=
  if c.toNat < current then { s with delta := s.delta + 1 }
  else if c.toNat = current then
    { written := s.written ++ encodeNumber s.bias 36 s.delta
      delta := 0
      bias := adapt s.delta (s.count + 1) (s.count == basic)
      count := s.count + 1 }
  else s

/-- Writes the characters with the given code points, by ascending code point from `next`. -/
def encodeFrom (text : List Char) (basic next : Nat) (s : EncodeState) : List Nat → List Char
  | [] => s.written
  | current :: rest =>
    let s := { s with delta := s.delta + (current - next) * (s.count + 1) }
    let s := text.foldl (encodeStep basic current) s
    encodeFrom text basic (current + 1) { s with delta := s.delta + 1 } rest

/-- The written form of a text. -/
def encode (text : List Char) : List Char :=
  let basic := text.filter fun c => c.toNat < 0x80
  let others := ((text.map Char.toNat).filter (0x80 ≤ ·)).mergeSort.eraseDups
  encodeFrom text basic.length 0x80
    { written := if basic.isEmpty then [] else basic ++ ['-']
      delta := 0
      bias := 72
      count := basic.length } others

/-! ### Reading -/

/-- The number at the start of some digits, and what follows it.  Numbers that are absurdly large
are refused. -/
def decodeNumber? (bias k weight n : Nat) : List Char → Option (Nat × List Char)
  | [] => none
  | c :: rest => do
    let d ← digitValue? c
    let n := n + d * weight
    if UInt32.size ≤ n then none
    else
      let t := threshold k bias
      if d < t then some (n, rest)
      else if UInt32.size ≤ weight * (36 - t) then none
      else decodeNumber? bias (k + 36) (weight * (36 - t)) n rest

/-- A number uses up some of its digits. -/
theorem length_of_decodeNumber? {bias k weight n m : Nat} {s rest : List Char}
    (h : decodeNumber? bias k weight n s = some (m, rest)) : rest.length < s.length := by
  induction s generalizing k weight n with
  | nil => cases h
  | cons c s ih =>
    unfold decodeNumber? at h
    cases hd : digitValue? c with
    | none => simp [hd] at h
    | some d =>
      simp only [hd, Option.bind_eq_bind, Option.bind_some] at h
      split at h
      · cases h
      · split at h
        · simp only [Option.some.injEq, Prod.mk.injEq] at h
          simp [h.2]
        · split at h
          · cases h
          · have := ih h
            simp
            omega

/-- The character with a code point, if there is one. -/
def charOf? (n : Nat) : Option Char :=
  if n.isValidChar then some (Char.ofNat n) else none

/-- Puts the characters that some numbers tell of among those known.  The last one stood before
place `i` and had the code point `current`. -/
def decodeFrom? (known : List Char) (i current bias : Nat) (s : List Char) :
    Option (List Char) :=
  if s.isEmpty then some known
  else
    match _h : decodeNumber? bias 36 1 i s with
    | none => none
    | some (j, rest) =>
      let count := known.length + 1
      let current := current + j / count
      match charOf? current with
      | none => none
      | some c =>
        decodeFrom? (known.insertIdx (j % count) c) (j % count + 1) current
          (adapt (j - i) count (i == 0)) rest
termination_by s.length
decreasing_by exact length_of_decodeNumber? _h

/-- The text of a written form. -/
def decode? (s : List Char) : Option (List Char) :=
  let tail := (s.reverse.takeWhile (· != '-')).reverse
  let head := s.take (s.length - tail.length)
  if head = ['-'] then none
  else
    let basic := head.dropLast
    if basic.all (·.toNat < 0x80) then decodeFrom? basic 0 0x80 72 tail else none

end DohRelay.Idna.Punycode
