import DohRelay.Document.Skip

/-!
# Values of a kind

Readers of values that are known by their kind: whole numbers, truth values, texts, lists, and
records.  A record may also be written as the list of its fields in order.

## Main definitions

* `Reader.natural`, `Reader.truth`, `Reader.text`, `Reader.list` — the readers.
* `Field`, `Layout`, `Reader.record` — records and their readers.
* `Document.read` — reads a whole document.
-/

namespace DohRelay.Document

namespace Reader

/-- Reports a value of another kind, which is read first if it is not composed. -/
def otherKind {α : Type} (expected : String) : Reader α := do
  let wrong (found : Found) : Reader α := failLater (.invalidType found expected)
  match ← peek? with
  | none => failAhead .expectedValue
  | some b =>
    if b = 0x5b then wrong .list
    else if b = 0x7b then wrong .record
    else if b = 0x22 then advance; wrong (.text (← Text.read))
    else if b = 0x2d then advance; wrong (← Number.read true).found
    else if Number.isDigit b then wrong (← Number.read false).found
    else
      match words.lookup b with
      | none => failAhead .expectedValue
      | some rest =>
        advance
        word rest
        wrong (if b = 0x6e then .null else .truth (b = 0x74))

/-- Runs a reader that is told the first octet of a value. -/
def value {α : Type} (r : UInt8 → Reader α) : Reader α := do
  match ← peekValue? with
  | none => failAhead .endInValue
  | some b => placed (r b)

/-- The number from zero to `max` that a number stands for. -/
def naturalOf (max : Nat) (expected : String) (n : Number) : Reader Nat :=
  match n with
  | .natural n =>
    if n ≤ max then return n else failLater (.invalidValue (.integer n) expected)
  | .negated _ => failLater (.invalidValue n.found expected)
  | .double _ => failLater (.invalidType n.found expected)

/-- Reads a whole number from zero to `max`. -/
def natural (max : Nat) (expected : String) : Reader Nat :=
  value fun b => do
    if b = 0x2d then
      advance
      naturalOf max expected (← Number.read true)
    else if Number.isDigit b then naturalOf max expected (← Number.read false)
    else otherKind expected

/-- Reads a number of 16 bits. -/
def word16 : Reader UInt16 := do
  return UInt16.ofNat (← natural (UInt16.size - 1) "u16")

/-- Reads a number of 32 bits. -/
def word32 : Reader UInt32 := do
  return UInt32.ofNat (← natural (UInt32.size - 1) "u32")

/-- Reads a truth value. -/
def truth : Reader Bool :=
  value fun b => do
    match words.lookup b with
    | some rest =>
      if b = 0x6e then otherKind "a boolean"
      else
        advance
        word rest
        return b = 0x74
    | none => otherKind "a boolean"

/-- Reads a text. -/
def text : Reader (List Char) :=
  value fun b => do
    if b = 0x22 then
      advance
      Text.read
    else otherKind "a string"

/-! ### Lists -/

/-- Whether another element comes in a list. -/
def hasElement (isFirst : Bool) : Reader Bool := do
  match ← peekValue? with
  | none => failAhead .endInList
  | some b =>
    if b = 0x5d then return false
    else if isFirst then return true
    else if b ≠ comma then failAhead .expectedListEnd
    else
      advance
      match ← peekValue? with
      | none => failAhead .endInValue
      | some b => if b = 0x5d then failAhead .trailingComma else return true

/-- Moves over the end of a list. -/
def endList : Reader Unit := do
  match ← peekValue? with
  | none => failAhead .endInList
  | some b =>
    if b = 0x5d then advance
    else if b = comma then
      advance
      failAhead (if (← peekValue?) = some 0x5d then .trailingComma else .trailingCharacters)
    else failAhead .trailingCharacters

/-- Reads at most `fuel` elements of a list. -/
def elements {α : Type} (element : Reader α) (isFirst : Bool) : Nat → Reader (List α)
  | 0 => return []
  | fuel + 1 => do
    if ← hasElement isFirst then
      let a ← element
      return a :: (← elements element false fuel)
    else return []

/-- Reads a list. -/
def list {α : Type} (element : Reader α) : Reader (List α) :=
  value fun b => do
    if b = 0x5b then
      advance
      ending (elements element true (← bound)) endList
    else otherKind "a sequence"

end Reader

/-! ### Records -/

/-- A field of a record. -/
structure Field (σ : Type) where
  /-- The name of the field. -/
  name : String
  /-- Whether the field must be there. -/
  required : Bool
  /-- Reads the field into the record. -/
  read : σ → Reader σ

/-- The form of a record. -/
structure Layout (σ : Type) where
  /-- What records of the form are called. -/
  title : String
  /-- The fields, in order. -/
  fields : List (Field σ)
  /-- A record with nothing in it. -/
  blank : σ

/-- What is expected where a record is to come. -/
def Layout.expected {σ : Type} (layout : Layout σ) : String :=
  "struct " ++ layout.title

namespace Reader

/-- Reads the fields of a record that is written as a list, after `index` fields of which the last
was there or not. -/
def listedFields {σ : Type} (layout : Layout σ) (record : σ) (isFirst : Bool) (index : Nat) :
    List (Field σ) → Reader σ
  | [] => return record
  | field :: rest => do
    if ← hasElement isFirst then
      listedFields layout (← field.read record) false (index + 1) rest
    else if field.required then
      failLater (.invalidLength index (layout.expected ++ " with " ++
        toString layout.fields.length ++ " elements"))
    else listedFields layout record isFirst (index + 1) rest

/-- Whether another key comes in a record. -/
def hasKey (isFirst : Bool) : Reader Bool := do
  match ← peekValue? with
  | none => failAhead .endInRecord
  | some b =>
    if b = 0x7d then return false
    else if isFirst then
      if b = 0x22 then return true else failAhead .expectedKey
    else if b ≠ comma then failAhead .expectedRecordEnd
    else
      advance
      match ← peekValue? with
      | none => failAhead .endInValue
      | some b =>
        if b = 0x22 then return true
        else if b = 0x7d then failAhead .trailingComma
        else failAhead .expectedKey

/-- Moves over the colon after a key. -/
def colon : Reader Unit := do
  match ← peekValue? with
  | none => failAhead .endInRecord
  | some b => if b = 0x3a then advance else failAhead .expectedColon

/-- Moves over the end of a record. -/
def endRecord : Reader Unit := do
  match ← peekValue? with
  | none => failAhead .endInRecord
  | some b =>
    if b = 0x7d then advance
    else if b = comma then failAhead .trailingComma
    else failAhead .trailingCharacters

/-- Reads at most `fuel` keys of a record with their values, after fields whose names are `seen`.
Keys that name no field do not matter. -/
def keyedFields {σ : Type} (layout : Layout σ) (record : σ) (seen : List String) (isFirst : Bool) :
    Nat → Reader (σ × List String)
  | 0 => return (record, seen)
  | fuel + 1 => do
    if ← hasKey isFirst then
      advance
      let key := String.ofList (← Text.read)
      match layout.fields.find? (·.name == key) with
      | none =>
        colon
        skipValue
        keyedFields layout record seen false fuel
      | some field =>
        if seen.contains key then failLater (.duplicateField key)
        colon
        keyedFields layout (← field.read record) (key :: seen) false fuel
    else return (record, seen)

/-- Reads the keys of a record with their values. -/
def allKeyedFields {σ : Type} (layout : Layout σ) : Reader σ := do
  let (record, seen) ← keyedFields layout layout.blank [] true (← bound)
  match layout.fields.find? fun field => field.required && !seen.contains field.name with
  | some field => failLater (.missingField field.name)
  | none => return record

/-- Reads a record. -/
def record {σ : Type} (layout : Layout σ) : Reader σ :=
  value fun b => do
    if b = 0x5b then
      advance
      ending (listedFields layout layout.blank true 0 layout.fields) endList
    else if b = 0x7b then
      advance
      ending (allKeyedFields layout) endRecord
    else otherKind layout.expected

/-- Moves over blanks up to the end of the document. -/
def endDocument : Reader Unit := do
  if (← peekValue?).isSome then failAhead .trailingCharacters

end Reader

/-- Reads a whole document. -/
def read {α : Type} (r : Reader α) (document : List UInt8) : Except Fault α :=
  let whole : Reader α := do
    let a ← r
    Reader.endDocument
    return a
  (whole.run (Cursor.start document)).1

end DohRelay.Document
