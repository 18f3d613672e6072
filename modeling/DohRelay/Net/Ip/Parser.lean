import DohRelay.Net.Ip
import DohRelay.Text.CodeTable

/-!
# Addresses, read

Reading addresses from text.  Two grammars are in use that differ in two points: whether an octet of
the older family may have zeros before it, and whether the two colons of the newer family may stand
for no group at all.

## Main definitions

* `Grammar` — the points in which grammars differ, with `Grammar.strict` and `Grammar.lenient`.
* `readIpv4`, `readIpv6` — readers of an address at the start of a text.
* `parseIpv4`, `parseIpv6`, `parseIp` — the address that a whole text is.
-/

namespace DohRelay.Net

/-- The points in which grammars of addresses differ. -/
structure Grammar where
  /-- Whether an octet may have zeros before its first digit. -/
  leadingZeros : Bool
  /-- The least number of groups that two colons stand for. -/
  leastGap : Nat
  deriving Repr

/-- No superfluous zeros, and two colons stand for at least one group. -/
def Grammar.strict : Grammar := ⟨false, 1⟩

/-- Superfluous zeros are allowed, and two colons may stand for nothing. -/
def Grammar.lenient : Grammar := ⟨true, 0⟩

/-- The value of a digit in some base. -/
def digitIn? (radix : Nat) (c : Char) : Option Nat :=
  (Text.CodeTable.hexValue? c).filter (· < radix)

/-- The number written by digits in some base. -/
def numberIn (radix : Nat) (ds : List Char) : Nat :=
  ds.foldl (fun n c => n * radix + (digitIn? radix c).getD 0) 0

/-- The number at the start of a text, in some base, with a limit to its digits if there is one, and
below a bound. -/
def readNumber (radix : Nat) (maxDigits : Option Nat) (bound : Nat) (leadingZeros : Bool)
    (s : List Char) : Option (Nat × List Char) :=
  let isDigit (c : Char) := (digitIn? radix c).isSome
  let ds := s.takeWhile isDigit
  let n := numberIn radix ds
  if ds.isEmpty || maxDigits.any (· < ds.length) || bound ≤ n ||
      (!leadingZeros && ds.head? == some '0' && 1 < ds.length) then none
  else some (n, s.dropWhile isDigit)

/-- What follows a character at the start of a text. -/
def readChar (c : Char) : List Char → Option (List Char)
  | d :: rest => if c = d then some rest else none
  | [] => none

/-- Reads `n` more octets, each after a dot. -/
def readOctets (g : Grammar) : Nat → List Char → Option (List Nat × List Char)
  | 0, s => some ([], s)
  | n + 1, s => do
    let (octet, s) ← readNumber 10 (some 3) 256 g.leadingZeros (← readChar '.' s)
    let (octets, s) ← readOctets g n s
    return (octet :: octets, s)

/-- The address of the older family at the start of a text. -/
def readIpv4 (g : Grammar) (s : List Char) : Option (Ipv4 × List Char) := do
  let (first, s) ← readNumber 10 (some 3) 256 g.leadingZeros s
  let (octets, s) ← readOctets g 3 s
  return (⟨BitVec.ofNat 32 (ofDigits 256 (first :: octets))⟩, s)

/-- Reads up to `limit` groups with colons between them, the first of which needs none before it if
`first` is set.  An address of the older family may stand for the last two.  Tells whether one did,
and what follows. -/
def readGroups (g : Grammar) (first : Bool) : Nat → List Char → List Nat × Bool × List Char
  | 0, s => ([], false, s)
  | limit + 1, s =>
    let start := if first then some s else readChar ':' s
    let embedded := if limit = 0 then none else start.bind (readIpv4 g)
    match embedded with
    | some (a, rest) => ([a.bits.toNat / 0x10000, a.bits.toNat % 0x10000], true, rest)
    | none =>
      match start.bind (readNumber 16 (some 4) 0x10000 true) with
      | none => ([], false, s)
      | some (group, rest) =>
        let (groups, isEmbedded, rest) := readGroups g false limit rest
        (group :: groups, isEmbedded, rest)

/-- The address of the newer family at the start of a text. -/
def readIpv6 (g : Grammar) (s : List Char) : Option (Ipv6 × List Char) :=
  let (head, isEmbedded, rest) := readGroups g true 8 s
  if head.length = 8 then some (.ofGroups head, rest)
  else if isEmbedded then none
  else do
    let rest ← readChar ':' (← readChar ':' rest)
    let (tail, _, rest) := readGroups g true (8 - (head.length + g.leastGap)) rest
    let gap := List.replicate (8 - head.length - tail.length) 0
    return (.ofGroups (head ++ gap ++ tail), rest)

/-- The value of a reader that used up the whole text. -/
def whole {α : Type} : Option (α × List Char) → Option α
  | some (a, []) => some a
  | _ => none

/-- The address of the older family that a text is. -/
def parseIpv4 (s : List Char) : Option Ipv4 :=
  whole (readIpv4 .strict s)

/-- The address of the newer family that a text is. -/
def parseIpv6 (s : List Char) : Option Ipv6 :=
  whole (readIpv6 .strict s)

/-- The address that a text is. -/
def parseIp (s : List Char) : Option Ip :=
  whole (((readIpv4 .strict s).map fun (a, rest) => (Ip.v4 a, rest)) <|>
    (readIpv6 .strict s).map fun (a, rest) => (Ip.v6 a, rest))

/-- The text without any brackets that open at its start and close at its end. -/
def withoutBrackets (s : List Char) : List Char :=
  ((s.dropWhile (· == '[')).reverse.dropWhile (· == ']')).reverse

/-- What is said about a text that is no address. -/
def ipFault : String := "invalid IP address syntax"

/-- What is said about a text that is no address of the older family. -/
def ipv4Fault : String := "invalid IPv4 address syntax"

/-- What is said about a text that is no address of the newer family. -/
def ipv6Fault : String := "invalid IPv6 address syntax"

end DohRelay.Net
