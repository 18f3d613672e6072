import DohRelay.Document.Fault

/-!
# Reading documents

A document is read octet by octet.  A fault is noticed either at the place reached so far or one
octet later, at the octet looked at; a fault in what a value means gets its place only when the
value has been left, so a reader goes on from wherever the fault left it.

## Main definitions

* `Cursor`, `Reader` — the state and the readers.
* `Reader.bound` — how often something can be repeated.
* `Reader.peek?`, `Reader.next?`, `Reader.advance`, `Reader.peekValue?` — looking and moving.
* `Reader.failHere`, `Reader.failAhead`, `Reader.failLater`, `Reader.placed` — faults.
-/

namespace DohRelay.Document

/-- Where the reading of a document stands. -/
structure Cursor where
  /-- How many octets were read. -/
  index : Nat
  /-- The octets to come. -/
  rest : List UInt8
  /-- How many octets the document has. -/
  size : Nat
  deriving DecidableEq, Repr

/-- The start of a document. -/
def Cursor.start (document : List UInt8) : Cursor := ⟨0, document, document.length⟩

/-- The cursor after some octets, or at the end. -/
def Cursor.skip (c : Cursor) (count : Nat) : Cursor :=
  { c with index := c.index + count, rest := c.rest.drop count }

/-- A reader of values.  It stands somewhere also after a fault. -/
abbrev Reader := ExceptT Fault (StateM Cursor)

namespace Reader

/-- A number that the repetitions of whatever takes an octet cannot reach. -/
def bound : Reader Nat := do
  return (← get).size + 1

/-- The next octet, if the document does not end here. -/
def peek? : Reader (Option UInt8) := do
  return (← get).rest.head?

/-- Moves over an octet. -/
def advance : Reader Unit :=
  modify (·.skip 1)

/-- Reads the next octet. -/
def next? : Reader (Option UInt8) := do
  match (← get).rest with
  | [] => return none
  | b :: _ => advance; return some b

/-- Reads the octets that come next and pass a test. -/
def takeWhile (p : UInt8 → Bool) : Reader (List UInt8) := do
  let taken := (← get).rest.takeWhile p
  modify (·.skip taken.length)
  return taken

/-- Whether an octet is blank. -/
def isBlank (b : UInt8) : Bool :=
  b == 0x20 || b == 0x0a || b == 0x09 || b == 0x0d

/-- Moves over blanks and looks at the next octet. -/
def peekValue? : Reader (Option UInt8) := do
  let _ ← takeWhile isBlank
  peek?

/-- Reports a fault at the place reached. -/
def failHere {α : Type} (reason : Reason) : Reader α := do
  throw ⟨reason, some (← get).index⟩

/-- Reports a fault at the octet looked at. -/
def failAhead {α : Type} (reason : Reason) : Reader α := do
  let c ← get
  throw ⟨reason, some (c.index + min c.rest.length 1)⟩

/-- Reports a fault whose place is to be found. -/
def failLater {α : Type} (reason : Reason) : Reader α :=
  throw ⟨reason, none⟩

/-- Runs a reader and gives the place reached to a fault that has none. -/
def placed {α : Type} (r : Reader α) : Reader α :=
  tryCatch r fun fault =>
    match fault.place with
    | some _ => throw fault
    | none => failHere fault.reason

/-- Runs a reader and then, even after a fault, the reader of an end.  The fault of the first
counts. -/
def ending {α : Type} (r : Reader α) (finish : Reader Unit) : Reader α := fun c =>
  match r c with
  | (.ok a, c) => (finish >>= fun _ => pure a : Reader α) c
  | (.error fault, c) => (.error fault, (finish c).2)

/-- Reads what is left of a word. -/
def word : List UInt8 → Reader Unit
  | [] => return
  | expected :: rest => do
    match ← next? with
    | none => failHere .endInValue
    | some b => if b = expected then word rest else failHere .expectedWord

end Reader

end DohRelay.Document
