import DohRelay.Document.Number
import DohRelay.Document.Text

/-!
# Values that do not matter

Moving over a value of any kind and depth: what encloses the place reached is kept in a list, so
depth has no bound.

## Main definitions

* `Document.Enclosure` — what a value may stand in.
* `Document.skipValue` — moves over a value.
-/

namespace DohRelay.Document

open Reader

/-- What a value may stand in. -/
inductive Enclosure
  /-- A list. -/
  | list
  /-- A record. -/
  | record
  deriving DecidableEq, Repr

namespace Enclosure

/-- The octet that ends an enclosure. -/
def close : Enclosure → UInt8
  | list => 0x5d
  | record => 0x7d

/-- The fault of a document that ends within an enclosure. -/
def endReason : Enclosure → Reason
  | list => .endInList
  | record => .endInRecord

/-- The fault of an enclosure that neither goes on nor ends. -/
def expectedEnd : Enclosure → Reason
  | list => .expectedListEnd
  | record => .expectedRecordEnd

end Enclosure

/-- The comma. -/
def comma : UInt8 := 0x2c

/-- The words, by their first letters, with the letters that follow. -/
def words : List (UInt8 × List UInt8) :=
  [(0x6e, [0x75, 0x6c, 0x6c]), (0x74, [0x72, 0x75, 0x65]), (0x66, [0x61, 0x6c, 0x73, 0x65])]

/-- Moves over a value, or over what opens an enclosure, which is told. -/
def skipOne : Reader (Option Enclosure) := do
  match ← peekValue? with
  | none => failAhead .endInValue
  | some b =>
    if b = 0x5b then advance; return some .list
    else if b = 0x7b then advance; return some .record
    else if b = 0x22 then advance; Text.skip; return none
    else if b = 0x2d then advance; Number.skip; return none
    else if Number.isDigit b then Number.skip; return none
    else
      match words.lookup b with
      | some rest => advance; word rest; return none
      | none => failAhead .expectedValue

/-- Moves over what ends enclosures, innermost first, up to where the next value or key is to come,
and tells what encloses it.  In an enclosure that has a value already a comma is to come first. -/
def skipEnds (hasValue : Bool) : List Enclosure → Reader (List Enclosure)
  | [] => return []
  | frame :: outer => do
    match ← peekValue? with
    | none => failAhead frame.endReason
    | some b =>
      if b = comma ∧ hasValue then advance; return frame :: outer
      else if b = frame.close then advance; skipEnds true outer
      else if hasValue then failAhead frame.expectedEnd
      else return frame :: outer

/-- Moves over a key and the colon after it. -/
def skipKey : Reader Unit := do
  match ← peekValue? with
  | none => failAhead .endInRecord
  | some b =>
    if b ≠ 0x22 then failAhead .expectedKey
    advance
    Text.skip
    match ← peekValue? with
    | none => failAhead .endInRecord
    | some b => if b = 0x3a then advance else failAhead .expectedColon

/-- Moves over at most `fuel` values one within the other or one after the other. -/
def skipFrom (frames : List Enclosure) : Nat → Reader Unit
  | 0 => failAhead .endInValue
  | fuel + 1 => do
    let frames ← match ← skipOne with
      | some frame => skipEnds false (frame :: frames)
      | none => skipEnds true frames
    match frames with
    | [] => return
    | .list :: _ => skipFrom frames fuel
    | .record :: _ =>
      skipKey
      skipFrom frames fuel

/-- Moves over a value. -/
def skipValue : Reader Unit := do
  skipFrom [] (← bound)

end DohRelay.Document
