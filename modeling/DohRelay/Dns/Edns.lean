import DohRelay.Net.Ip

/-!
# Extensions

The extension record of a message and the options in it.  Of the options only the client subnet is
understood; it is kept apart from the others, so that taking it out of a message or putting one in
leaves the rest alone.

## Main definitions

* `ClientSubnet` — a network on whose behalf a question is asked.
* `OptionSet` — the options, at most one of each code.
* `Edns` — what the extension record says.
-/

namespace DohRelay.Dns

/-- A network on whose behalf a question is asked, and the part of it that an answer is for. -/
structure ClientSubnet where
  /-- An address of the network. -/
  address : Net.Ip
  /-- How many leading bits of the address the question tells. -/
  source : UInt8
  /-- How many leading bits of the address the answer holds for. -/
  scope : UInt8
  deriving DecidableEq, Repr

namespace ClientSubnet

/-- The code of the option that carries a client subnet. -/
def code : UInt16 := 8

/-- How many octets hold a number of leading bits. -/
def octetCount (bits : UInt8) : Nat :=
  (bits.toNat + 7) / 8

/-- The family number and the octets of an address. -/
def family : Net.Ip → UInt16 × List UInt8
  | .v4 a => (1, a.bytes)
  | .v6 a => (2, a.bytes)

/-- The octets of the option: family, both lengths, and the octets of the address that the first
length reaches into. -/
def bytes (s : ClientSubnet) : List UInt8 :=
  let (number, octets) := family s.address
  [(number >>> 8).toUInt8, number.toUInt8, s.source, s.scope] ++ octets.take (octetCount s.source)

end ClientSubnet

/-- The options of an extension record, at most one of each code. -/
structure OptionSet where
  /-- The client subnet. -/
  subnet : Option ClientSubnet
  /-- Every other option with its code, by ascending code. -/
  others : List (UInt16 × List UInt8)
  deriving DecidableEq, Repr

namespace OptionSet

/-- No options. -/
def empty : OptionSet := ⟨none, []⟩

/-- Puts a value under a code, in the place of any that was there. -/
def insertCode (code : UInt16) (data : List UInt8) :
    List (UInt16 × List UInt8) → List (UInt16 × List UInt8)
  | [] => [(code, data)]
  | (c, d) :: rest =>
    if code < c then (code, data) :: (c, d) :: rest
    else if code = c then (code, data) :: rest
    else (c, d) :: insertCode code data rest

/-- The options with one more, which replaces any of its code. -/
def insert (o : OptionSet) (code : UInt16) (data : List UInt8) : OptionSet :=
  { o with others := insertCode code data o.others }

/-- All options with their codes and octets, by ascending code. -/
def toList (o : OptionSet) : List (UInt16 × List UInt8) :=
  match o.subnet with
  | none => o.others
  | some s => insertCode ClientSubnet.code s.bytes o.others

@[simp] theorem toList_empty : empty.toList = [] := rfl

end OptionSet

/-- What the extension record of a message says. -/
structure Edns where
  /-- The largest datagram that the sender takes. -/
  payload : UInt16
  /-- The version of the extensions. -/
  version : UInt8
  /-- Whether the sender wants signatures. -/
  dnssecOk : Bool
  /-- The upper bits of the response code, as they were received. -/
  rcodeHigh : UInt8
  /-- The options. -/
  options : OptionSet
  deriving DecidableEq, Repr

/-- No datagram limit below this one is honoured. -/
def Edns.minPayload : UInt16 := 512

end DohRelay.Dns
