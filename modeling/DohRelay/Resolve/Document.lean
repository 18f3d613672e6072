import DohRelay.Document.Value

/-!
# Resolve documents

The document that answers a query which travels as parameters.

## Main definitions

* `Resolve.Question`, `Resolve.Record`, `Resolve.Answer` — what the document says.
* `Resolve.Answer.layout` — the form of the document.
-/

namespace DohRelay.Resolve

/-- A question that the document repeats. -/
structure Question where
  /-- The name that was asked about. -/
  name : List Char
  /-- The number of the type that was asked for. -/
  type : UInt16
  deriving DecidableEq, Repr

/-- A record in the document. -/
structure Record where
  /-- The name that the record is about. -/
  name : List Char
  /-- The number of the type of the data. -/
  type : UInt16
  /-- How many seconds the record may be kept. -/
  ttl : UInt32
  /-- The data as text. -/
  data : List Char
  deriving DecidableEq, Repr

/-- What the document says. -/
structure Answer where
  /-- How the query went. -/
  status : UInt16
  /-- Whether something was left out. -/
  truncated : Bool
  /-- Whether the server can look further. -/
  recursionAvailable : Bool
  /-- Whether the data was found to be authentic. -/
  authenticData : Bool
  /-- Whether data was wanted that may not be authentic. -/
  checkingDisabled : Bool
  /-- What was asked. -/
  questions : List Question
  /-- What answers the question. -/
  answers : List Record
  /-- Where the zone is served. -/
  authority : List Record
  /-- What may be useful besides. -/
  additional : List Record
  deriving DecidableEq, Repr

open Document (Field Layout Reader)

/-- The form of a question. -/
def Question.layout : Layout Question where
  title := "ResolveQuestion"
  blank := ⟨[], 0⟩
  fields := [
    ⟨"name", true, fun q => return { q with name := ← Reader.text }⟩,
    ⟨"type", true, fun q => return { q with type := ← Reader.word16 }⟩]

/-- The form of a record. -/
def Record.layout : Layout Record where
  title := "ResolveRecord"
  blank := ⟨[], 0, 0, []⟩
  fields := [
    ⟨"name", true, fun r => return { r with name := ← Reader.text }⟩,
    ⟨"type", true, fun r => return { r with type := ← Reader.word16 }⟩,
    ⟨"TTL", false, fun r => return { r with ttl := ← Reader.word32 }⟩,
    ⟨"data", false, fun r => return { r with data := ← Reader.text }⟩]

/-- Reads a list of records. -/
def records : Reader (List Record) :=
  Reader.list (Reader.record Record.layout)

/-- The form of the document. -/
def Answer.layout : Layout Answer where
  title := "ResolveResponse"
  blank := ⟨0, false, false, false, false, [], [], [], []⟩
  fields := [
    ⟨"Status", true, fun a => return { a with status := ← Reader.word16 }⟩,
    ⟨"TC", false, fun a => return { a with truncated := ← Reader.truth }⟩,
    ⟨"RA", false, fun a => return { a with recursionAvailable := ← Reader.truth }⟩,
    ⟨"AD", false, fun a => return { a with authenticData := ← Reader.truth }⟩,
    ⟨"CD", false, fun a => return { a with checkingDisabled := ← Reader.truth }⟩,
    ⟨"Question", false, fun a => return { a with
      questions := ← Reader.list (Reader.record Question.layout) }⟩,
    ⟨"Answer", false, fun a => return { a with answers := ← records }⟩,
    ⟨"Authority", false, fun a => return { a with authority := ← records }⟩,
    ⟨"Additional", false, fun a => return { a with additional := ← records }⟩]

/-- What a document says. -/
def Answer.parse (document : List UInt8) : Except Document.Fault Answer :=
  Document.read (Reader.record Answer.layout) document

end DohRelay.Resolve
