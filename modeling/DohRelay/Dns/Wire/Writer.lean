import DohRelay.Dns.Wire.Fault

/-!
# Writing octets

A writer puts octets behind those already written, of which there can be no more than a message may
have.  It remembers at which position the labels of each name began, so that a later name can end in
a pointer to them.

## Main definitions

* `Output`, `Writer` — what has been written, and writers of more.
* `put` — the writer of some octets.
* `withLength` — a writer whose output is preceded by its length.
-/

namespace DohRelay.Dns

/-- What has been written of a message. -/
structure Output where
  /-- The octets of the part that is being written, the last one first. -/
  reversed : List UInt8
  /-- How many octets of the message there are, those of earlier parts included. -/
  size : Nat
  /-- The ends of names that were written in full, each with the position of its first label. -/
  suffixes : List (List Label × Nat)

/-- Writers of parts of a message. -/
abbrev Writer := EStateM Fault Output

namespace Writer

/-- The most octets that a message can have. -/
def limit : Nat := 65535

/-- Nothing has been written of a part that begins at a position. -/
def blank (position : Nat) : Output := ⟨[], position, []⟩

/-- The octets of a part that begins at a position. -/
def run (w : Writer Unit) (position : Nat) : Except Fault (List UInt8) :=
  match w (blank position) with
  | .ok _ out => .ok out.reversed.reverse
  | .error fault _ => .error fault

/-- How many octets there are. -/
def size : Writer Nat :=
  fun out => .ok out.size out

/-- A writer that fails. -/
def fail {α : Type} (fault : Fault) : Writer α :=
  fun out => .error fault out

/-- Fails unless there is room for `n` more octets. -/
def reserve (n : Nat) : Writer Unit :=
  fun out => if limit < out.size + n then .error .full out else .ok () out

/-- Puts some octets behind those written. -/
def put (bytes : List UInt8) : Writer Unit :=
  fun out =>
    let size := out.size + bytes.length
    if limit < size then .error .full out
    else .ok () { out with reversed := bytes.reverseAux out.reversed, size := size }

/-- The octets of sixteen bits. -/
def bytes16 (n : UInt16) : List UInt8 :=
  [(n >>> 8).toUInt8, n.toUInt8]

/-- The octets of thirty-two bits. -/
def bytes32 (n : UInt32) : List UInt8 :=
  [(n >>> 24).toUInt8, (n >>> 16).toUInt8, (n >>> 8).toUInt8, n.toUInt8]

/-- Writes one octet. -/
def octet (b : UInt8) : Writer Unit := put [b]

/-- Writes sixteen bits. -/
def word16 (n : UInt16) : Writer Unit := put (bytes16 n)

/-- Writes thirty-two bits. -/
def word32 (n : UInt32) : Writer Unit := put (bytes32 n)

/-- Writes a length octet and as many octets. -/
def charString (bytes : List UInt8) : Writer Unit := do
  if 255 < bytes.length then fail (.textTooLong bytes.length)
  octet (UInt8.ofNat bytes.length)
  put bytes

/-- Remembers that the labels begin at the end of what is written. -/
def remember (labels : List Label) : Writer Unit :=
  fun out => .ok () { out with suffixes := (labels, out.size) :: out.suffixes }

/-- Where the labels were written before as the end of a name. -/
def find? (labels : List Label) : Writer (Option Nat) :=
  fun out => .ok (out.suffixes.lookup labels) out

/-- Writes the number of octets that a writer puts out, and then those octets. -/
def withLength (w : Writer Unit) : Writer Unit := do
  reserve 2
  fun out =>
    match w { out with reversed := [], size := out.size + 2 } with
    | .error fault out => .error fault out
    | .ok () inner =>
      let length := UInt16.ofNat (inner.size - (out.size + 2))
      .ok () { inner with
        reversed := inner.reversed ++ (bytes16 length).reverse ++ out.reversed }

end Writer

end DohRelay.Dns
