/-!
# Base 64 for URLs

Octets written with letters, digits, the dash and the underscore, six bits to a character and
without padding.  Reading accepts only what writing produces: the bits that the last character has
beyond the last octet must be zero.

## Main definitions

* `Base64.encode` — the characters of some octets.
* `Base64.decode` — the octets of some characters, or the first fault.
-/

namespace DohRelay.Text.Base64

/-- Why some octets are not the written form of others. -/
inductive Fault
  /-- One character too many or too few: no number of octets takes this many characters. -/
  | length (count : Nat)
  /-- The last character carries bits that belong to no octet. -/
  | lastSymbol (byte : UInt8) (offset : Nat)
  /-- A character is none of the sixty-four. -/
  | symbol (byte : UInt8) (offset : Nat)
  /-- The characters are padded at their end. -/
  | padding
  deriving DecidableEq, Repr

/-- What is said about a text that is not the written form of octets. -/
def Fault.message : Fault → String
  | length n => "Invalid input length: " ++ toString n
  | lastSymbol b i => "Invalid last symbol " ++ toString b.toNat ++ ", offset " ++ toString i ++ "."
  | symbol b i => "Invalid symbol " ++ toString b.toNat ++ ", offset " ++ toString i ++ "."
  | padding => "Invalid padding"

/-- The character for six bits. -/
def symbol (n : Nat) : Char :=
  if n < 26 then Char.ofNat ('A'.toNat + n)
  else if n < 52 then Char.ofNat ('a'.toNat + (n - 26))
  else if n < 62 then Char.ofNat ('0'.toNat + (n - 52))
  else if n = 62 then '-'
  else '_'

/-- The six bits that an octet stands for as a character. -/
def value? (b : UInt8) : Option Nat :=
  let n := b.toNat
  if 0x41 ≤ n ∧ n ≤ 0x5a then some (n - 0x41)
  else if 0x61 ≤ n ∧ n ≤ 0x7a then some (n - 0x61 + 26)
  else if 0x30 ≤ n ∧ n ≤ 0x39 then some (n - 0x30 + 52)
  else if n = 0x2d then some 62
  else if n = 0x5f then some 63
  else none

/-- The characters of some octets: four for every three of them, and two or three for a rest. -/
def encode : List UInt8 → List Char
  | [] => []
  | [a] => [symbol (a.toNat / 4), symbol (a.toNat % 4 * 16)]
  | [a, b] =>
    [symbol (a.toNat / 4), symbol (a.toNat % 4 * 16 + b.toNat / 16), symbol (b.toNat % 16 * 4)]
  | a :: b :: c :: rest =>
    symbol (a.toNat / 4) :: symbol (a.toNat % 4 * 16 + b.toNat / 16) ::
      symbol (b.toNat % 16 * 4 + c.toNat / 64) :: symbol (c.toNat % 64) :: encode rest

/-- The values of some characters, which stand at `offset` and after. -/
def values (offset : Nat) : List UInt8 → Except Fault (List Nat)
  | [] => .ok []
  | b :: rest =>
    match value? b with
    | none => .error (.symbol b offset)
    | some v => (values (offset + 1) rest).map (v :: ·)

/-- The octets that some six-bit values carry, and the bits that are left over at the end. -/
def unpack : List Nat → List UInt8 × Nat
  | [] => ([], 0)
  | [a] => ([], a)
  | [a, b] => ([UInt8.ofNat (a * 4 + b / 16)], b % 16)
  | [a, b, c] => ([UInt8.ofNat (a * 4 + b / 16), UInt8.ofNat (b % 16 * 16 + c / 4)], c % 4)
  | a :: b :: c :: d :: rest =>
    let (bytes, spare) := unpack rest
    (UInt8.ofNat (a * 4 + b / 16) :: UInt8.ofNat (b % 16 * 16 + c / 4) ::
      UInt8.ofNat (c % 4 * 64 + d) :: bytes, spare)

/-- The values of the last group of characters, which begins at `offset` and of which `k` have been
read.  Equal signs that fill up the group after two characters end it. -/
def lastValues (offset : Nat) : Nat → List UInt8 → Except Fault (List Nat)
  | _, [] => .ok []
  | k, b :: rest =>
    if b = 0x3d then
      if 2 ≤ k ∧ rest.all (· == 0x3d) then .ok [] else .error (.symbol b (offset + k))
    else
      match value? b with
      | none => .error (.symbol b (offset + k))
      | some v => (lastValues offset (k + 1) rest).map (v :: ·)

/-- How many characters come before the last group of four or fewer. -/
def headLength (length : Nat) : Nat :=
  length - (if length % 4 = 0 then 4 else length % 4)

/-- Whether some octets end in one that is alone in its group and is no character of the sixty-four,
as when a line end was left in place. -/
def strayEnd (s : List UInt8) : Bool :=
  s.length % 4 == 1 && s.getLast?.any fun b => b != 0x3d && (value? b).isNone

/-- The octets that some characters write.  A stray character at the end is reported first, then
the first foreign character, a bad length, padding, and bits that belong to no octet. -/
def decode (s : List UInt8) : Except Fault (List UInt8) := do
  if strayEnd s then throw (.symbol (s.getLastD 0) (s.length - 1))
  let head := headLength s.length
  let vs ← values 0 (s.take head)
  let ws ← lastValues head 0 (s.drop head)
  if s ≠ [] ∧ ws.length < 2 then throw (.length (head + ws.length))
  if ws.length < (s.drop head).length then throw .padding
  let (bytes, spare) := unpack (vs ++ ws)
  if spare ≠ 0 then throw (.lastSymbol (s.getLastD 0) (s.length - 1))
  return bytes

end DohRelay.Text.Base64
