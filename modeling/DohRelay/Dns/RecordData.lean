import DohRelay.Dns.Edns
import DohRelay.Dns.Name

/-!
# Record data

What a record says about its owner.  Data whose structure matters, because it holds names that are
shortened on the wire or has a form to check, is taken apart; all other data is octets.
-/

namespace DohRelay.Dns

/-- What a record of a service binding says. -/
structure ServiceBinding where
  /-- The rank of the binding among others. -/
  priority : UInt16
  /-- Where the service is found. -/
  target : Name
  /-- The parameters with their keys, by ascending key. -/
  params : List (UInt16 × List UInt8)
  deriving DecidableEq, Repr

/-- The data of a record. -/
inductive RecordData
  /-- An address of 32 bits. -/
  | a (address : Net.Ipv4)
  /-- An address of 128 bits. -/
  | aaaa (address : Net.Ipv6)
  /-- One name: of a server, of what the owner stands for, of what it points to. -/
  | host (name : Name)
  /-- A mail exchange. -/
  | mx (preference : UInt16) (exchange : Name)
  /-- The start of a zone. -/
  | soa (primary mailbox : Name) (serial : UInt32) (refresh retry expire : Int32)
      (minimum : UInt32)
  /-- The place of a service. -/
  | srv (priority weight port : UInt16) (target : Name)
  /-- Texts of at most 255 octets each. -/
  | txt (strings : List (List UInt8))
  /-- The hardware and the system of a host. -/
  | hinfo (cpu os : List UInt8)
  /-- A rule that makes one name from another. -/
  | naptr (order preference : UInt16) (flags services regexp : List UInt8) (replacement : Name)
  /-- Who may issue certificates. -/
  | caa (critical : Bool) (tag value : List UInt8)
  /-- Synchronisation of a child zone with its parent: the types are those to copy. -/
  | csync (serial : UInt32) (flags : UInt16) (types : List UInt16)
  /-- The binding of a service. -/
  | service (binding : ServiceBinding)
  /-- The options of an extension record. -/
  | options (set : OptionSet)
  /-- Octets without structure. -/
  | octets (bytes : List UInt8)
  deriving DecidableEq, Repr

end DohRelay.Dns
