import DohRelay.Idna.CombiningTable
import DohRelay.Idna.DecompositionTable

/-!
# Composed form

One text can often be written with different code points.  Its composed form is found by taking
every character apart, putting combining characters in the order of their classes, and putting
together what can be put together.

## Main definitions

* `decompose` — the code points with every composite taken apart.
* `reorder` — runs of combining code points in the order of their classes.
* `compose` — pairs put together again.
* `normalize` — the composed form.
-/

namespace DohRelay.Idna

open Text

/-- The combining class of a code point. -/
def combiningClass (c : Nat) : Nat :=
  combiningTable.value c

/-! ### Korean syllables -/

/-- The first code point of the Korean syllables. -/
def syllableBase : Nat := 0xac00
/-- The first leading part of a syllable. -/
def leadBase : Nat := 0x1100
/-- The first vowel of a syllable. -/
def vowelBase : Nat := 0x1161
/-- The code point before the first trailing part of a syllable. -/
def trailBase : Nat := 0x11a7

/-- The parts of a syllable. -/
def syllableParts (c : Nat) : List Nat :=
  let i := c - syllableBase
  let parts := [leadBase + i / 588, vowelBase + i % 588 / 28]
  if i % 28 = 0 then parts else parts ++ [trailBase + i % 28]

/-- The syllable that two parts make. -/
def joinSyllable? (a b : Nat) : Option Nat :=
  if leadBase ≤ a ∧ a < leadBase + 19 ∧ vowelBase ≤ b ∧ b < vowelBase + 21 then
    some (syllableBase + ((a - leadBase) * 21 + (b - vowelBase)) * 28)
  else if syllableBase ≤ a ∧ a < syllableBase + 11172 ∧ (a - syllableBase) % 28 = 0 ∧
      trailBase < b ∧ b < trailBase + 28 then
    some (a + (b - trailBase))
  else none

/-! ### Taking apart -/

/-- The code points that one stands for, itself if it stands for no others.  Composites nest less
than `fuel` deep. -/
def decomposeOne : Nat → Nat → List Nat
  | 0, c => [c]
  | fuel + 1, c =>
    if syllableBase ≤ c ∧ c < syllableBase + 11172 then syllableParts c
    else
      match decompositionTable.find? c with
      | some e => e.values.flatMap (decomposeOne fuel)
      | none => [c]

/-- The code points with every composite taken apart. -/
def decompose (cs : List Nat) : List Nat :=
  cs.flatMap (decomposeOne 5)

/-! ### Order -/

/-- Puts a combining code point among the combining ones that end a reversed sequence. -/
def insertCombining (c : Nat) : List Nat → List Nat
  | [] => [c]
  | d :: rest =>
    if combiningClass c < combiningClass d then d :: insertCombining c rest
    else c :: d :: rest

/-- Runs of combining code points in the order of their classes. -/
def reorder (cs : List Nat) : List Nat :=
  (cs.foldl (fun reversed c =>
    if combiningClass c = 0 then c :: reversed else insertCombining c reversed) []).reverse

/-! ### Putting together -/

/-- The pairs that can be put together, with what they make. -/
def pairs : Array (Nat × Nat × Nat) :=
  decompositionTable.filterMap fun e =>
    match e.mark, e.values with
    | ':', [a, b] => some (a, b, e.first)
    | _, _ => none

/-- What two code points make together. -/
def joinPair? (a b : Nat) : Option Nat :=
  match joinSyllable? a b with
  | some c => some c
  | none => (pairs.find? fun p => p.1 == a && p.2.1 == b).map (·.2.2)

/-- What putting together has come to. -/
structure ComposeState where
  /-- What comes before the last code point that begins a character, reversed. -/
  done : List Nat
  /-- The last code point that begins a character. -/
  starter : Option Nat
  /-- What follows it and could not be put together with it, reversed. -/
  after : List Nat

/-- The code points of a state, reversed. -/
def ComposeState.reversed (s : ComposeState) : List Nat :=
  s.after ++ s.starter.toList ++ s.done

/-- Whether a code point can reach the last one that begins a character over those between. -/
def ComposeState.reaches (s : ComposeState) (c : Nat) : Bool :=
  match s.after with
  | [] => true
  | d :: _ => combiningClass d < combiningClass c

/-- Adds one code point. -/
def ComposeState.add (s : ComposeState) (c : Nat) : ComposeState :=
  match s.starter.bind fun a => if s.reaches c then joinPair? a c else none with
  | some composite => { s with starter := some composite }
  | none =>
    if combiningClass c = 0 then ⟨s.reversed, some c, []⟩
    else { s with after := c :: s.after }

/-- Pairs put together again. -/
def compose (cs : List Nat) : List Nat :=
  (cs.foldl ComposeState.add ⟨[], none, []⟩).reversed.reverse

/-- The composed form of a text. -/
def normalize (s : List Char) : List Char :=
  if s.all (·.toNat < 0x300) then s
  else (compose (reorder (decompose (s.map Char.toNat)))).map Char.ofNat

end DohRelay.Idna
