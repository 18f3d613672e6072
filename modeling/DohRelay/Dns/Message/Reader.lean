import DohRelay.Dns.RecordData.Reader

/-!
# Messages, read

A message is read in one pass: the header, whose counts are followed, the questions and the three
sections of records.  The extension record is taken out of the last section.  Octets behind the
message are ignored.

## Main definitions

* `Message.read` — the reader of a message.
* `Message.decode` — the message in some octets.
-/

namespace DohRelay.Dns

open Reader

/-- Whether a bit of an octet is set. -/
def bit (b mask : UInt8) : Bool :=
  b &&& mask != 0

/-- The header of a message without its counts. -/
def readHeader : Reader Message := do
  let id ← word16
  let high ← octet
  let some opcode := Opcode.ofCode? ((high >>> 3) &&& 0xf) | fail (.opcode ((high >>> 3) &&& 0xf))
  let low ← octet
  return { Message.empty with
    id := id
    response := bit high 0x80
    opcode := opcode
    authoritative := bit high 0x04
    truncated := bit high 0x02
    recursionDesired := bit high 0x01
    recursionAvailable := bit low 0x80
    authenticData := bit low 0x20
    checkingDisabled := bit low 0x10
    rcode := .join 0 (low &&& 0x0f) }

/-- A question. -/
def readQuestion : Reader Question := do
  let n ← name
  let type ← word16
  return ⟨n, ⟨type⟩, ← word16⟩

/-- The class of a record, which for the extension record is the payload size it offers. -/
def readClass (owner : Name) (type : RecordType) : Reader UInt16 := do
  if type = .opt then
    if !owner.isRoot then fail (.extensionOwner owner)
    return max Edns.minPayload (← word16)
  else word16

/-- A record. -/
def readRecord : Reader Record := do
  let owner ← name
  let type := RecordType.mk (← word16)
  let rclass ← readClass owner type
  let ttl ← word32
  let length := (← word16).toNat
  let left ← remaining
  if left < length then fail (.dataTooLong length left)
  if length = 0 then return ⟨owner, type, rclass, ttl, none⟩
  return ⟨owner, type, rclass, ttl, some (← readData type length)⟩

/-- What an extension record says. -/
def Edns.ofRecord (r : Record) : Edns where
  payload := r.rclass
  version := (r.ttl >>> 16).toUInt8
  dnssecOk := r.ttl &&& 0x8000 != 0
  rcodeHigh := (r.ttl >>> 24).toUInt8
  options := match r.data with
    | some (.options set) => set
    | _ => .empty

/-- The last section: `n` records, of which one may be the extension record. -/
def readAdditional : Nat → Option Edns → Reader (List Record × Option Edns)
  | 0, edns => return ([], edns)
  | n + 1, edns => do
    let r ← readRecord
    if r.type = .opt then
      if edns.isSome then fail .extensionRepeated
      readAdditional n (some (Edns.ofRecord r))
    else
      let (records, edns) ← readAdditional n edns
      return (r :: records, edns)

/-- The reader of a message. -/
def Message.read : Reader Message := do
  let header ← readHeader
  let questionCount ← word16
  let answerCount ← word16
  let authorityCount ← word16
  let additionalCount ← word16
  let questions ← times readQuestion questionCount.toNat
  let answers ← times readRecord answerCount.toNat
  let authority ← times readRecord authorityCount.toNat
  let (additional, edns) ← readAdditional additionalCount.toNat none
  return { header with
    rcode := match edns with
      | some edns => .join edns.rcodeHigh header.rcode.low
      | none => header.rcode
    questions, answers, authority, additional, edns }

/-- The message in some octets. -/
def Message.decode (bytes : List UInt8) : Except Fault Message :=
  Message.read.run bytes.toArray

end DohRelay.Dns
