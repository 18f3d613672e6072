import DohRelay.Dns.Message
import DohRelay.Dns.RecordData.Writer

/-!
# Messages, written

A message has room for 65535 octets.  A section of records ends before the first record that finds
no room; the message then says that it is truncated, and later sections still take the room that is
left.  Questions are never left out.

## Main definitions

* `Message.encode` — the octets of a message.
* `RecordData.encode` — the octets of the data of a record by itself.
-/

namespace DohRelay.Dns

open Writer

/-- The length of the header. -/
def headerLength : Nat := 12

/-- Writes a question. -/
def writeQuestion (q : Question) : Writer Unit := do
  name q.name
  word16 q.type.code
  word16 q.qclass

/-- Writes questions, of which `written` come before. -/
def writeQuestions (written : Nat) : List Question → Writer Unit
  | [] => return ()
  | q :: rest => do
    fun out =>
      match writeQuestion q out with
      | .error .full out => .error (.questionsLeftOut written) out
      | outcome => outcome
    writeQuestions (written + 1) rest

/-- Writes a record. -/
def writeRecord (r : Record) : Writer Unit := do
  name r.owner
  word16 r.type.code
  word16 r.rclass
  word32 r.ttl
  withLength (r.data.elim (pure ()) data)

/-- Writes the records that find room, up to the first that does not, and tells how many they are.
-/
def writeRecords : List Record → Writer Nat
  | [] => return 0
  | r :: rest =>
    fun out =>
      match writeRecord r out with
      | .error .full _ => .ok 0 out
      | .error fault out => .error fault out
      | .ok () out => (writeRecords rest).map (· + 1) out

/-- The record that carries what the extension record of a message says. -/
def Edns.record (e : Edns) (rcode : ResponseCode) : Record where
  owner := .root
  type := .opt
  rclass := e.payload
  ttl := (rcode.high.toUInt32 <<< 24) ||| (e.version.toUInt32 <<< 16) |||
    (if e.dnssecOk then 0x8000 else 0)
  data := some (.options e.options)

/-- The second octet pair of a message: its flags, operation and the low bits of its code. -/
def Message.flagBytes (m : Message) (truncated : Bool) : List UInt8 :=
  let flag (b : Bool) (mask : UInt8) : UInt8 := if b then mask else 0
  [flag m.response 0x80 ||| (m.opcode.code <<< 3) ||| flag m.authoritative 0x04 |||
      flag truncated 0x02 ||| flag m.recursionDesired 0x01,
    flag m.recursionAvailable 0x80 ||| flag m.authenticData 0x20 |||
      flag m.checkingDisabled 0x10 ||| m.rcode.low]

/-- Writes what follows the header, and tells how many records each section got. -/
def Message.writeBody (m : Message) : Writer (Nat × Nat × Nat) := do
  writeQuestions 0 m.questions
  let answers ← writeRecords m.answers
  let authority ← writeRecords m.authority
  let additional ← writeRecords m.additional
  let extension ← writeRecords (m.edns.toList.map fun e => e.record m.rcode)
  return (answers, authority, additional + extension)

/-- The octets of a message. -/
def Message.encode (m : Message) : Except Fault (List UInt8) :=
  match m.writeBody (blank headerLength) with
  | .error fault _ => .error fault
  | .ok (answers, authority, additional) out =>
    let complete := answers = m.answers.length ∧ authority = m.authority.length ∧
      additional = m.additional.length + m.edns.toList.length
    let count (n : Nat) := bytes16 (UInt16.ofNat n)
    .ok (bytes16 m.id ++ m.flagBytes (m.truncated || !complete) ++ count m.questions.length ++
      count answers ++ count authority ++ count additional ++ out.reversed.reverse)

/-- The octets of the data of a record by itself. -/
def RecordData.encode (d : RecordData) : Except Fault (List UInt8) :=
  (data d).run 0

end DohRelay.Dns
