import DohRelay.Idna.Domain
import DohRelay.Net.Ip.Parser
import DohRelay.Url.Basic
import DohRelay.Url.Percent

/-!
# Hosts, read

The host of a special scheme is a domain, brought into the form that servers know it by, or an
address.  A domain that ends in a number has to be an address of 32 bits, whose parts may be written
in base eight, ten or sixteen, and of which the last fills up what the others leave.

## Main definitions

* `Url.Fault` — why a text is no location.
* `Url.parseHost`, `Url.parseForeignHost` — the host that a text is, in a special scheme and in any
  other.
-/

namespace DohRelay.Url

/-- Why a text is no location. -/
inductive Fault
  /-- There is no scheme. -/
  | relative
  /-- There is no host where there must be one. -/
  | emptyHost
  /-- The domain breaks the rules for domains of any script. -/
  | domain
  /-- The host has a character that hosts do not have. -/
  | character
  /-- The host looks like an address of 32 bits and is none. -/
  | ipv4
  /-- The host looks like an address of 128 bits and is none. -/
  | ipv6
  /-- The port is no number or too large. -/
  | port
  deriving DecidableEq, Repr

/-- What is said about a text that is no location. -/
def Fault.message : Fault → String
  | relative => "relative URL without a base"
  | emptyHost => "empty host"
  | domain => "invalid international domain name"
  | character => "invalid domain character"
  | ipv4 => "invalid IPv4 address"
  | ipv6 => "invalid IPv6 address"
  | port => "invalid port number"

/-! ### Numbers -/

/-- The number that a part of an address is, or that it is one too large; `none` if it is no number.
-/
def numberPart? (s : List Char) : Option (Option Nat) :=
  let (radix, ds) := match s with
    | '0' :: 'x' :: ds => (16, ds)
    | '0' :: 'X' :: ds => (16, ds)
    | '0' :: d :: ds => (8, d :: ds)
    | ds => (10, ds)
  if s.isEmpty then none
  else if ds.all fun c => (Net.digitIn? radix c).isSome then
    let n := Net.numberIn radix ds
    some (if n < UInt32.size then some n else none)
  else none

/-- The parts of a domain between its dots, without an empty one at the end. -/
def domainParts (domain : List Char) : List (List Char) :=
  let parts := domain.splitOn '.'
  if parts.getLast? = some [] then parts.dropLast else parts

/-- Whether the last part of a domain is a number. -/
def endsInNumber (domain : List Char) : Bool :=
  match (domainParts domain).getLast? with
  | none => false
  | some part => (!part.isEmpty && part.all Char.isDigit) || (numberPart? part).isSome

/-- The address of 32 bits that a domain is. -/
def parseNumbers (domain : List Char) : Except Fault Net.Ipv4 :=
  match (domainParts domain).mapM fun part => (numberPart? part).join with
  | none => .error .ipv4
  | some numbers =>
    let leading := numbers.dropLast
    let last := numbers.getLastD 0
    if numbers.length > 4 ∨ leading.any (255 < ·) ∨ last ≥ 1 <<< (8 * (4 - leading.length)) then
      .error .ipv4
    else
      let high := Net.ofDigits 256 leading <<< (8 * (4 - leading.length))
      .ok ⟨BitVec.ofNat 32 (high + last)⟩

/-! ### Hosts -/

/-- Whether a domain cannot have the ASCII character. -/
def isDeniedInDomain (c : Char) : Bool :=
  c.toNat ≤ 0x20 || c.toNat == 0x7f || isOneOf "%#/:<>?@[\\]^|" c

/-- The address of 128 bits that a text in brackets is. -/
def parseBracketed (s : List Char) : Except Fault Host :=
  if s.getLast? = some ']' then
    match Net.parseIpv6 s.tail.dropLast with
    | some a => .ok (.ipv6 a)
    | none => .error .ipv6
  else .error .ipv6

/-- The host that a text is, in a special scheme. -/
def parseHost (s : List Char) : Except Fault Host :=
  if s.head? = some '[' then parseBracketed s
  else
    match Idna.toAscii? isDeniedInDomain (Text.utf8DecodeLossy (percentDecode (Text.utf8 s))) with
    | none => .error .domain
    | some [] => .error .emptyHost
    | some domain =>
      if endsInNumber domain then (parseNumbers domain).map .ipv4 else .ok (.domain domain)

/-- Whether no host can have the character. -/
def isDeniedInHost (c : Char) : Bool :=
  c.toNat == 0 || isOneOf "\t\n\r #/:<>?@[\\]^|" c

/-- The host that a text is, in a scheme that is not special. -/
def parseForeignHost (s : List Char) : Except Fault Host :=
  if s.head? = some '[' then parseBracketed s
  else if s.any isDeniedInHost then .error .character
  else .ok (.domain (percentEncode inAny s))

end DohRelay.Url
