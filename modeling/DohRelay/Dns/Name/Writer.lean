import DohRelay.Dns.Wire.Writer

/-!
# Names on the wire, written

A name is written label by label until the labels that are left have been written before as the end
of a name; a pointer to those ends it.  Letter case counts here: a name that differs in case from an
earlier one is written out.

## Main definitions

* `Writer.name` — writes a name, with a pointer where one serves.
* `Writer.nameInFull` — writes a name without pointers.
-/

namespace DohRelay.Dns.Writer

/-- A pointer can lead to positions below this one. -/
def pointerLimit : Nat := 0x3fff

/-- Writes a label. -/
def label (l : Label) : Writer Unit :=
  put (UInt8.ofNat l.length :: l.bytes)

/-- Ends a name that began at `start` and was written without a pointer. -/
def endName (start : Nat) : Writer Unit := do
  octet 0
  let length := (← size) - start
  if Name.maxLength < length then fail (.nameTooLong length)

/-- Remembers the labels at hand, which end a name that would end at `stop` if it were written out.
Only the labels of names that end early enough are remembered. -/
def rememberUpTo (stop : Nat) (labels : List Label) : Writer Unit := do
  if stop < pointerLimit then remember labels

/-- Writes the last labels of a name that began at `start` and would end at `stop` if it were
written out. -/
def labels (start stop : Nat) : List Label → Writer Unit
  | [] => endName start
  | l :: rest => do
    match ← find? (l :: rest) with
    | some position => put (bytes16 (0xc000 ||| UInt16.ofNat (position % 0x4000)))
    | none =>
      rememberUpTo stop (l :: rest)
      label l
      labels start stop rest

/-- Writes all of the last labels of a name that began at `start` and ends at `stop`. -/
def labelsInFull (start stop : Nat) : List Label → Writer Unit
  | [] => endName start
  | l :: rest => do
    if (← find? (l :: rest)).isNone then rememberUpTo stop (l :: rest)
    label l
    labelsInFull start stop rest

/-- Writes a name.  There must be room for all of its labels, even if a pointer takes their place.
-/
def name (n : Name) : Writer Unit := do
  let start ← size
  reserve (Name.sizeOfLabels n.labels)
  labels start (start + Name.sizeOfLabels n.labels) n.labels

/-- Writes all labels of a name, to which later names may point. -/
def nameInFull (n : Name) : Writer Unit := do
  let start ← size
  labelsInFull start (start + Name.sizeOfLabels n.labels) n.labels

end DohRelay.Dns.Writer
