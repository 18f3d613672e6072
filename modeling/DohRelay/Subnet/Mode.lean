import DohRelay.Error
import DohRelay.Net.Network

/-!
# Choice of the network to advertise

A query can tell on whose behalf it is asked: for nobody in particular, for a network that was
given, or for the network that the relay itself is seen to be in.

## Main definitions

* `Subnet.Mode`, `Subnet.Mode.parse` — the choice, and how it is written.
* `Subnet.ofAddress` — the network that is advertised for an address.
-/

namespace DohRelay.Subnet

/-- How the network to advertise is chosen. -/
inductive Mode
  /-- None is advertised. -/
  | disabled
  /-- The network of the address that a service sees the relay under.  The address is looked up
  again after `refresh` seconds, or never. -/
  | detect (lookupUrl : String) (refresh : Option Nat)
  /-- A network that was given. -/
  | fixed (net : Net.Network)
  deriving DecidableEq, Repr

/-- The service that tells the address a request comes from. -/
def defaultLookupUrl : String := "https://api.ipify.org"

/-- The choice that some text writes: a word, or a network whose host bits do not matter. -/
def Mode.parse (s lookupUrl : String) (refresh : Option Nat) : Except Error Mode :=
  if s = "no" then .ok .disabled
  else if s = "auto" then .ok (.detect lookupUrl refresh)
  else
    match Net.Network.parse s.toList with
    | some net => .ok (.fixed net.truncated)
    | none => .error (.invalidSubnet s Net.ipFault)

/-- How many leading bits of a detected address are advertised. -/
def detectedLength : Net.Ip → Nat
  | .v4 _ => 24
  | .v6 _ => 56

theorem detectedLength_le (a : Net.Ip) : detectedLength a ≤ a.width := by
  cases a <;> simp [detectedLength, Net.Ip.width]

/-- The network that is advertised for a detected address. -/
def ofAddress (a : Net.Ip) : Net.Network :=
  (Net.Network.mk a (detectedLength a) (detectedLength_le a)).truncated

end DohRelay.Subnet
