import DohRelay.Dns.Name.Writer
import DohRelay.Dns.RecordData
import DohRelay.Dns.RecordData.TypeSet

/-!
# Record data, written

The names in the data of the older types may end in a pointer.  The names of services and those that
a rule leads to are written out.  Later names may point to all of them.
-/

namespace DohRelay.Dns.Writer

/-- Writes a sixteen-bit key and a value with its length. -/
def pair (key : UInt16) (value : List UInt8) : Writer Unit := do
  word16 key
  withLength (put value)

/-- Writes the data of a record. -/
def data : RecordData → Writer Unit
  | .a address => put address.bytes
  | .aaaa address => put address.bytes
  | .host n => name n
  | .mx preference exchange => do
    word16 preference
    name exchange
  | .soa primary mailbox serial refresh retry expire minimum => do
    name primary
    name mailbox
    word32 serial
    word32 refresh.toUInt32
    word32 retry.toUInt32
    word32 expire.toUInt32
    word32 minimum
  | .srv priority weight port target => do
    word16 priority
    word16 weight
    word16 port
    nameInFull target
  | .txt strings => strings.forM charString
  | .hinfo cpu os => do
    charString cpu
    charString os
  | .naptr order preference flags services regexp replacement => do
    word16 order
    word16 preference
    charString flags
    charString services
    charString regexp
    nameInFull replacement
  | .caa critical tag value => do
    octet (if critical then 0x80 else 0)
    charString tag
    put value
  | .csync serial flags types => do
    word32 serial
    word16 flags
    put (TypeSet.bytes types)
  | .service binding => do
    word16 binding.priority
    name binding.target
    binding.params.forM fun param => pair param.1 param.2
  | .options set => set.toList.forM fun option => pair option.1 option.2
  | .octets bytes => put bytes

end DohRelay.Dns.Writer
