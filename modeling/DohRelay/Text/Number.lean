/-!
# Whole numbers in decimal

Reading a decimal number into a bounded range.  The text is read from the left and refused at the
first character at fault, so a foreign character after the number has outgrown its range is never
looked at.  One plus sign in front is allowed, and a minus sign where negative numbers are.

## Main definitions

* `NumberFault` — the ways in which a text fails to be a number of the range.
* `parseNat` — numbers from zero to a maximum.
* `parseInt32` — numbers of 32 bits with a sign.
* `decimal` — the digits of a number.
-/

namespace DohRelay.Text

/-- Why a text is no number of the wanted range. -/
inductive NumberFault
  /-- There is no character at all. -/
  | empty
  /-- A character is no digit, or a sign stands alone. -/
  | invalidDigit
  /-- The number is above the range. -/
  | tooLarge
  /-- The number is below the range. -/
  | tooSmall
  deriving DecidableEq, Repr

/-- What is said about a text that is no number. -/
def NumberFault.message : NumberFault → String
  | empty => "cannot parse integer from empty string"
  | invalidDigit => "invalid digit found in string"
  | tooLarge => "number too large to fit in target type"
  | tooSmall => "number too small to fit in target type"

/-- The value of a decimal digit. -/
def digitValue? (c : Char) : Option Nat :=
  if c.isDigit then some (c.toNat - '0'.toNat) else none

/-- The number written by some digits after those that made `value`, with the fault `outgrown`
as soon as it passes `max`. -/
def digitsFrom (max : Nat) (outgrown : NumberFault) (value : Nat) :
    List Char → Except NumberFault Nat
  | [] => .ok value
  | c :: rest =>
    match digitValue? c with
    | none => .error .invalidDigit
    | some digit =>
      if 10 * value + digit ≤ max then digitsFrom max outgrown (10 * value + digit) rest
      else .error outgrown

/-- The number written by one or more digits. -/
def digits (max : Nat) (outgrown : NumberFault) : List Char → Except NumberFault Nat
  | [] => .error .invalidDigit
  | s => digitsFrom max outgrown 0 s

/-- The number from zero to `max` that a text writes. -/
def parseNat (max : Nat) : List Char → Except NumberFault Nat
  | [] => .error .empty
  | '+' :: s => digits max .tooLarge s
  | s => digits max .tooLarge s

/-- The number of 32 bits with a sign that a text writes. -/
def parseInt32 : List Char → Except NumberFault Int32
  | [] => .error .empty
  | '+' :: s => (digits 0x7fffffff .tooLarge s).map fun n => Int32.ofInt n
  | '-' :: s => (digits 0x80000000 .tooSmall s).map fun n => Int32.ofInt (-n)
  | s => (digits 0x7fffffff .tooLarge s).map fun n => Int32.ofInt n

/-- The decimal digits of a number. -/
def decimal (n : Nat) : List Char :=
  Nat.toDigits 10 n

/-- A number that was read never exceeds its maximum. -/
theorem le_of_digitsFrom {max : Nat} {fault : NumberFault} {s : List Char} {value n : Nat}
    (hv : value ≤ max) (h : digitsFrom max fault value s = .ok n) : n ≤ max := by
  induction s generalizing value with
  | nil =>
    simp only [digitsFrom, Except.ok.injEq] at h
    omega
  | cons c rest ih =>
    simp only [digitsFrom] at h
    split at h
    · cases h
    · split at h
      · exact ih ‹_› h
      · cases h

end DohRelay.Text
