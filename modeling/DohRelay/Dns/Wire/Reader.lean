import DohRelay.Dns.Wire.Fault

/-!
# Reading octets

A reader looks at the octets of one message and moves a position through them.  The position is kept
where a fault arises: how far the data of a record was read matters even when it makes no sense.

## Main definitions

* `Reader` — readers of a message.
* `octet`, `word16`, `word32`, `octets` — readers of a fixed number of octets.
* `charString` — a length octet and as many octets.
* `attempt` — the outcome of a reader as a value.
-/

namespace DohRelay.Dns

/-- Readers of the octets of a message. -/
abbrev Reader := ReaderT (Array UInt8) (EStateM Fault Nat)

namespace Reader

/-- The outcome of reading some octets from their start. -/
def run {α : Type} (r : Reader α) (message : Array UInt8) : Except Fault α :=
  match r message 0 with
  | .ok a _ => .ok a
  | .error fault _ => .error fault

/-- Where the reader stands. -/
def position : Reader Nat :=
  fun _ p => .ok p p

/-- How many octets are left. -/
def remaining : Reader Nat :=
  fun message p => .ok (message.size - p) p

/-- A reader that fails. -/
def fail {α : Type} (fault : Fault) : Reader α :=
  fun _ p => .error fault p

/-- The next octet, if there is one, which stays unread. -/
def peek? : Reader (Option UInt8) :=
  fun message p => .ok message[p]? p

/-- The next octet. -/
def octet : Reader UInt8 :=
  fun message p =>
    match message[p]? with
    | some b => .ok b (p + 1)
    | none => .error .endOfInput p

/-- The next `n` octets, all of them or none. -/
def octets (n : Nat) : Reader (List UInt8) :=
  fun message p =>
    if p + n ≤ message.size then .ok (message.extract p (p + n)).toList (p + n)
    else .error .endOfInput p

/-- The next sixteen bits. -/
def word16 : Reader UInt16 := do
  match ← octets 2 with
  | [a, b] => return (a.toUInt16 <<< 8) ||| b.toUInt16
  | _ => fail .endOfInput

/-- The next thirty-two bits. -/
def word32 : Reader UInt32 := do
  match ← octets 4 with
  | [a, b, c, d] =>
    return (a.toUInt32 <<< 24) ||| (b.toUInt32 <<< 16) ||| (c.toUInt32 <<< 8) ||| d.toUInt32
  | _ => fail .endOfInput

/-- The next thirty-two bits as a number with a sign. -/
def int32 : Reader Int32 := do
  return (← word32).toInt32

/-- A length octet, and as many octets. -/
def charString : Reader (List UInt8) := do
  octets (← octet).toNat

/-- The outcome of a reader, success or fault, with the position it stopped at. -/
def attempt {α : Type} (r : Reader α) : Reader (Except Fault α) :=
  fun message p =>
    match r message p with
    | .ok a p => .ok (.ok a) p
    | .error fault p => .ok (.error fault) p

/-- The value of an outcome. -/
def ofExcept {α : Type} : Except Fault α → Reader α
  | .ok a => pure a
  | .error fault => fail fault

/-- Reads with `r` as long as octets are left. -/
def untilEnd {α : Type} (r : Reader α) : Nat → Reader (List α)
  | 0 => return []
  | fuel + 1 => do
    match ← peek? with
    | none => return []
    | some _ => return (← r) :: (← untilEnd r fuel)

/-- Reads `n` values in a row. -/
def times {α : Type} (r : Reader α) : Nat → Reader (List α)
  | 0 => return []
  | n + 1 => do return (← r) :: (← times r n)

end Reader

end DohRelay.Dns
