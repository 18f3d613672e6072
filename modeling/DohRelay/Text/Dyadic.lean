/-!
# Doubles as fractions

A finite double is a whole number times a power of two.  Its texts are computed from that number
with whole numbers only.

## Main definitions

* `Dyadic`, `Dyadic.ofFloat` — the number that a double is.
* `Dyadic.shortest` — the shortest digits that no other double is nearer to.
* `Dyadic.shortestText` — the text made of them.
* `Dyadic.roundedTo`, `Dyadic.fixedText` — the number rounded to some decimal places.
-/

namespace DohRelay.Text

/-- The number `significand * 2 ^ exponent`, or its opposite. -/
structure Dyadic where
  /-- Whether the sign is a minus. -/
  negative : Bool
  /-- The whole number. -/
  significand : Nat
  /-- The exponent of the power of two. -/
  exponent : Int
  /-- Whether the double below is nearer than the one above, as below a power of two. -/
  narrowBelow : Bool
  deriving DecidableEq, Repr

namespace Dyadic

/-- The number that the bits of a finite double stand for. -/
def ofBits (bits : UInt64) : Dyadic :=
  let fraction := bits.toNat % (1 <<< 52)
  let biased := (bits.toNat >>> 52) % 0x800
  { negative := (1 <<< 63) ≤ bits.toNat
    significand := if biased = 0 then fraction else (1 <<< 52) + fraction
    exponent := ((max biased 1 : Nat) : Int) - 1075
    narrowBelow := fraction = 0 && 1 < biased }

/-- The number that a finite double is. -/
def ofFloat (f : Float) : Dyadic :=
  ofBits f.toBits

/-- Rounds the fraction `n / d` to a whole number, halves going to the even neighbour. -/
def roundHalfEven (n d : Nat) : Nat :=
  let q := n / d
  let twice := 2 * (n % d)
  if twice < d ∨ (twice = d ∧ q % 2 = 0) then q else q + 1

/-- The size of the number as a fraction of whole numbers. -/
def fraction (x : Dyadic) : Nat × Nat :=
  (x.significand <<< x.exponent.toNat, 1 <<< (-x.exponent).toNat)

/-! ### Fixed places -/

/-- The size of the number in units of the last of some decimal places. -/
def roundedTo (x : Dyadic) (places : Nat) : Nat :=
  let (n, d) := x.fraction
  roundHalfEven (n * Nat.pow 10 places) d

/-- The digits of a number, at least some count of them. -/
def padded (count n : Nat) : List Char :=
  let digits := Nat.toDigits 10 n
  List.replicate (count - digits.length) '0' ++ digits

/-- The number with some decimal places. -/
def fixedText (x : Dyadic) (places : Nat) : List Char :=
  let digits := padded (places + 1) (x.roundedTo places)
  let whole := digits.length - places
  (if x.negative then ['-'] else []) ++ digits.take whole ++ '.' :: digits.drop whole

/-! ### Shortest digits -/

/-- The least number of decimal places, up to `fuel`, with which the fraction `n / d` is at least
one unit. -/
def leadingPlaces (n d : Nat) : Nat → Nat
  | 0 => 0
  | fuel + 1 => if d ≤ n then 0 else leadingPlaces (10 * n) d fuel + 1

/-- The power of ten that the fraction `n / d` stays below by less than one digit. -/
def magnitude (n d : Nat) : Int :=
  if d ≤ n then ((Nat.toDigits 10 (n / d)).length : Int) else 1 - (leadingPlaces n d 400 : Int)

/-- The number of units of `10 ^ grid` in the number, provided that no other double is nearer to so
many units. -/
def onGrid (x : Dyadic) (grid : Int) : Option Nat :=
  let (n, d) := x.fraction
  let n := 4 * n * Nat.pow 10 (-grid).toNat
  let d := 4 * d * Nat.pow 10 grid.toNat
  let step := Nat.pow 10 (-grid).toNat <<< x.exponent.toNat
  let low := n - (if x.narrowBelow then step else 2 * step)
  let high := n + 2 * step
  let closed := x.significand % 2 = 0
  let isWithin (c : Nat) : Bool :=
    if closed then low ≤ c * d && c * d ≤ high else low < c * d && c * d < high
  let nearest := roundHalfEven n d
  let other := if nearest = n / d then nearest + 1 else n / d
  [nearest, other].find? isWithin

/-- The shortest digits that stand for the number, as a whole number and the power of ten it is
multiplied with, found with at most `fuel` more digits than `count`. -/
def shortestFrom (x : Dyadic) (magnitude : Int) (count : Nat) : Nat → Nat × Int
  | 0 => (x.roundedTo 0, 0)
  | fuel + 1 =>
    let grid := magnitude - count
    match x.onGrid grid with
    | some c => (c, grid)
    | none => shortestFrom x magnitude (count + 1) fuel

/-- The shortest digits that stand for the number. -/
def shortest (x : Dyadic) : Nat × Int :=
  let (n, d) := x.fraction
  shortestFrom x (magnitude n d) 1 17

/-- The size of a number given by digits, where the decimal point stands `point` digits after the
first: with a point if that is not far away, else with a power of ten that has a sign. -/
def pointText (digits : List Char) (point : Int) : List Char :=
  let count : Int := digits.length
  if 0 < point ∧ point ≤ 16 then
    if count ≤ point then digits ++ List.replicate (point - count).toNat '0' ++ ['.', '0']
    else digits.take point.toNat ++ '.' :: digits.drop point.toNat
  else if -5 < point ∧ point ≤ 0 then
    ['0', '.'] ++ List.replicate (-point).toNat '0' ++ digits
  else
    let mantissa := match digits with
      | first :: second :: rest => first :: '.' :: second :: rest
      | _ => digits
    mantissa ++ 'e' :: (if point ≤ 0 then '-' else '+') :: Nat.toDigits 10 (point - 1).natAbs

/-- The text of a number in its shortest digits. -/
def shortestText (x : Dyadic) : List Char :=
  let sign := if x.negative then ['-'] else []
  if x.significand = 0 then sign ++ ['0', '.', '0']
  else
    let (c, grid) := x.shortest
    let all := Nat.toDigits 10 c
    let digits := (all.reverse.dropWhile (· == '0')).reverse
    sign ++ pointText digits (all.length + grid)

end Dyadic

end DohRelay.Text
