import DohRelay.Document.Reader
import DohRelay.Text.Dyadic

/-!
# Numbers in documents

A number without point and exponent is whole if it fits into 64 bits; every other number is a
double.  Digits that do not fit any more are dropped, and the double is made from those kept by one
step to the right power of ten, so it may not be the nearest.

## Main definitions

* `Document.Number` — a number.
* `Document.Number.read` — reads one.
* `Document.Number.skip` — moves over one.
-/

namespace DohRelay.Document

/-- A number. -/
inductive Number
  /-- A whole number that is not negative. -/
  | natural (n : Nat)
  /-- The opposite of a whole number. -/
  | negated (n : Nat)
  /-- Any other number. -/
  | double (value : Float)

/-- What is found when a number is found. -/
def Number.found : Number → Found
  | natural n => .integer n
  | negated n => .integer (-n)
  | double value => .floating (Text.Dyadic.ofFloat value).shortestText

namespace Number

open Reader

/-- The greatest number that is kept as it is. -/
def maxSignificand : Nat := UInt64.size - 1

/-- The greatest number whose opposite is kept as it is. -/
def maxNegated : Nat := 0x8000000000000000

/-- The greatest exponent that is looked at. -/
def maxExponent : Nat := 0x7fffffff

/-- Whether an octet is a digit. -/
def isDigit (b : UInt8) : Bool :=
  0x30 ≤ b && b ≤ 0x39

/-- The value of a digit. -/
def digitValue (b : UInt8) : Nat :=
  b.toNat - 0x30

/-- Whether an octet begins an exponent. -/
def isExponentMark (b : Option UInt8) : Bool :=
  b == some 0x65 || b == some 0x45

/-- The number with as many more digits as fit, and the digits that do not. -/
def absorb (max value : Nat) : List UInt8 → Nat × List UInt8
  | [] => (value, [])
  | b :: rest =>
    let more := 10 * value + digitValue b
    if more ≤ max then absorb max more rest else (value, b :: rest)

/-- The powers of ten that fit into a double. -/
def maxPower : Nat := 308

/-- A power of ten. -/
def power (n : Nat) : Float :=
  Float.ofScientific 1 false n

/-- A double times a power of ten, if that is not too large. -/
def scaled (value : Float) (exponent : Int) : Nat → Option Float
  | 0 => some value
  | fuel + 1 =>
    if exponent.natAbs ≤ maxPower then
      if 0 ≤ exponent then
        let product := value * power exponent.natAbs
        if product.isInf then none else some product
      else some (value / power exponent.natAbs)
    else if value == 0 then some value
    else if 0 ≤ exponent then none
    else scaled (value / power maxPower) (exponent + maxPower) fuel

/-- The double made of a sign, digits and an exponent.  Three steps take every number of digits to
zero. -/
def ofParts (negative : Bool) (significand : Nat) (exponent : Int) : Reader Number := do
  match scaled (UInt64.ofNat significand).toFloat exponent 4 with
  | none => failHere .numberOutOfRange
  | some value => return .double (if negative then -value else value)

/-- Reads an exponent after the digits. -/
def readExponent (negative : Bool) (significand : Nat) (start : Int) : Reader Number := do
  advance
  let sign ← peek?
  if sign = some 0x2b ∨ sign = some 0x2d then advance
  let isPositive := sign != some 0x2d
  let first ← next?
  match first with
  | none => failHere .endInValue
  | some b =>
    if !isDigit b then failHere .invalidNumber
    let more := (← get).rest.takeWhile isDigit
    match absorb maxExponent (digitValue b) more with
    | (exponent, []) =>
      modify (·.skip more.length)
      ofParts negative significand (if isPositive then start + exponent else start - exponent)
    | (_, dropped) =>
      modify (·.skip (more.length - dropped.length + 1))
      if significand ≠ 0 ∧ isPositive then failHere .numberOutOfRange
      modify (·.skip (dropped.length - 1))
      ofParts negative 0 0

/-- Reads the digits after a point. -/
def readDecimals (negative : Bool) (significand : Nat) (start : Int) : Reader Number := do
  advance
  let decimals ← takeWhile isDigit
  if decimals.isEmpty then
    match ← peek? with
    | some _ => failAhead .invalidNumber
    | none => failAhead .endInValue
  let (significand, dropped) := absorb maxSignificand significand decimals
  let exponent := start - (decimals.length - dropped.length : Nat)
  if isExponentMark (← peek?) then readExponent negative significand exponent
  else ofParts negative significand exponent

/-- The number made of a sign and digits that all fit. -/
def ofDigits (negative : Bool) (n : Nat) : Number :=
  if !negative then natural n
  else if 0 < n ∧ n ≤ maxNegated then negated n
  else double (-(UInt64.ofNat n).toFloat)

/-- Reads a number after its sign. -/
def read (negative : Bool) : Reader Number := do
  match ← next? with
  | none => failHere .endInValue
  | some b =>
    if !isDigit b then failHere .invalidNumber
    let more ← if b = 0x30 then (do
        if (← peek?).any isDigit then failAhead .invalidNumber
        return [])
      else takeWhile isDigit
    let (significand, dropped) := absorb maxSignificand (digitValue b) more
    let mark ← peek?
    if mark = some 0x2e then readDecimals negative significand dropped.length
    else if isExponentMark mark then readExponent negative significand dropped.length
    else if dropped.isEmpty then return ofDigits negative significand
    else ofParts negative significand dropped.length

/-! ### Moving over a number -/

/-- Moves over an exponent. -/
def skipExponent : Reader Unit := do
  advance
  let sign ← peek?
  if sign = some 0x2b ∨ sign = some 0x2d then advance
  if !(← next?).any isDigit then failHere .invalidNumber
  let _ ← takeWhile isDigit

/-- Moves over the digits after a point. -/
def skipDecimals : Reader Unit := do
  advance
  if (← takeWhile isDigit).isEmpty then failAhead .invalidNumber
  if isExponentMark (← peek?) then skipExponent

/-- Moves over a number after its sign. -/
def skip : Reader Unit := do
  match ← next? with
  | none => failHere .invalidNumber
  | some b =>
    if !isDigit b then failHere .invalidNumber
    if b = 0x30 then
      if (← peek?).any isDigit then failAhead .invalidNumber
    else
      let _ ← takeWhile isDigit
    let mark ← peek?
    if mark = some 0x2e then skipDecimals
    else if isExponentMark mark then skipExponent

end Number

end DohRelay.Document
