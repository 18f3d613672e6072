import DohRelay.Net.Ip.Parser

/-!
# Addresses with ports

Where a program listens, or finds another: an address and a port, and for the newer family the
number of the link on which the address has its meaning.

## Main definitions

* `SocketAddr` — the type.
* `SocketAddr.text`, `SocketAddr.parse` — its text form, written and read.
-/

namespace DohRelay.Net

/-- An address with a port. -/
structure SocketAddr where
  /-- The address. -/
  ip : Ip
  /-- The port. -/
  port : UInt16
  /-- The link on which an address of the newer family has its meaning, or zero. -/
  scope : UInt32
  deriving DecidableEq, Repr

namespace SocketAddr

/-- An address with a port and without a link. -/
def of (ip : Ip) (port : UInt16) : SocketAddr := ⟨ip, port, 0⟩

/-- The text of an address with a port: an address of the newer family stands in brackets. -/
def text (a : SocketAddr) : List Char :=
  let port := ':' :: Nat.toDigits 10 a.port.toNat
  match a.ip with
  | .v4 ip => ip.text ++ port
  | .v6 ip =>
    let scope := if a.scope = 0 then [] else '%' :: Nat.toDigits 10 a.scope.toNat
    '[' :: ip.text ++ scope ++ ']' :: port

/-- The port at the start of a text, after a colon. -/
def readPort (s : List Char) : Option (UInt16 × List Char) := do
  let (port, s) ← readNumber 10 none 0x10000 true (← readChar ':' s)
  return (UInt16.ofNat port, s)

/-- The number of a link at the start of a text, after a percent sign; zero if there is none. -/
def readScope (s : List Char) : UInt32 × List Char :=
  match (readChar '%' s).bind (readNumber 10 none UInt32.size true) with
  | some (scope, rest) => (UInt32.ofNat scope, rest)
  | none => (0, s)

/-- An address of the older family with a port, at the start of a text. -/
def readV4 (s : List Char) : Option (SocketAddr × List Char) := do
  let (ip, s) ← readIpv4 .strict s
  let (port, s) ← readPort s
  return (.of (.v4 ip) port, s)

/-- An address of the newer family with a port, at the start of a text. -/
def readV6 (s : List Char) : Option (SocketAddr × List Char) := do
  let (ip, s) ← readIpv6 .strict (← readChar '[' s)
  let (scope, s) := readScope s
  let (port, s) ← readPort (← readChar ']' s)
  return (⟨.v6 ip, port, scope⟩, s)

/-- The address with a port that a text is. -/
def parse (s : List Char) : Option SocketAddr :=
  whole (readV4 s <|> readV6 s)

/-- What is said about a text that is no address with a port. -/
def fault : String := "invalid socket address syntax"

end SocketAddr

end DohRelay.Net
