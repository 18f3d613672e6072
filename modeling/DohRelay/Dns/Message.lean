import DohRelay.Dns.RecordData
import DohRelay.Dns.RecordType

/-!
# Messages

A message asks questions or answers them.  It is kept apart from the octets it travels as: names are
whole, the response code is one number, and the extension record is no record but a field.

## Main definitions

* `Question`, `Record`, `Message` — the types.
* `Message.empty` — a message that says nothing.
-/

namespace DohRelay.Dns

/-- The class of the internet. -/
def classIn : UInt16 := 1

/-- What is asked about a name. -/
structure Question where
  /-- The name that is asked about. -/
  name : Name
  /-- The type of the records that are asked for. -/
  type : RecordType
  /-- The class of the records that are asked for. -/
  qclass : UInt16
  deriving DecidableEq, Repr

/-- A record. -/
structure Record where
  /-- The name that the record is about. -/
  owner : Name
  /-- The type of the data. -/
  type : RecordType
  /-- The class of the record. -/
  rclass : UInt16
  /-- How many seconds the record may be kept. -/
  ttl : UInt32
  /-- The data; a record may come without any. -/
  data : Option RecordData
  deriving DecidableEq, Repr

/-- What a message is meant to do. -/
inductive Opcode
  /-- Ask a question. -/
  | query
  /-- Ask for the status of a server. -/
  | status
  /-- Tell of a change to a zone. -/
  | notify
  /-- Change a zone. -/
  | update
  deriving DecidableEq, Repr

/-- The number that stands for an operation. -/
def Opcode.code : Opcode → UInt8
  | query => 0
  | status => 2
  | notify => 4
  | update => 5

/-- The operation that a number stands for. -/
def Opcode.ofCode? (n : UInt8) : Option Opcode :=
  if n = 0 then some query
  else if n = 2 then some status
  else if n = 4 then some notify
  else if n = 5 then some update
  else none

@[simp] theorem Opcode.ofCode?_code (o : Opcode) : Opcode.ofCode? o.code = some o := by
  cases o <;> rfl

/-- How a query went. -/
abbrev ResponseCode := UInt16

namespace ResponseCode

/-- The query was answered. -/
def noError : ResponseCode := 0
/-- The query could not be read. -/
def formErr : ResponseCode := 1
/-- The query could not be answered. -/
def servFail : ResponseCode := 2

/-- The four bits of a response code that the header holds. -/
def low (code : ResponseCode) : UInt8 :=
  (code &&& 0xf).toUInt8

/-- The eight bits of a response code that the extension record holds. -/
def high (code : ResponseCode) : UInt8 :=
  (code >>> 4).toUInt8

/-- The response code that both parts make. -/
def join (high low : UInt8) : ResponseCode :=
  (high.toUInt16 <<< 4) ||| low.toUInt16

end ResponseCode

/-- A message. -/
structure Message where
  /-- The number by which a reply is told to belong to a query. -/
  id : UInt16
  /-- Whether the message is a reply. -/
  response : Bool
  /-- What the message is meant to do. -/
  opcode : Opcode
  /-- Whether the answer comes from a server of the zone. -/
  authoritative : Bool
  /-- Whether something was left out of the message. -/
  truncated : Bool
  /-- Whether the server is asked to look further. -/
  recursionDesired : Bool
  /-- Whether the server can look further. -/
  recursionAvailable : Bool
  /-- Whether the data was found to be authentic. -/
  authenticData : Bool
  /-- Whether data is wanted that may not be authentic. -/
  checkingDisabled : Bool
  /-- How the query went. -/
  rcode : ResponseCode
  /-- What is asked. -/
  questions : List Question
  /-- What answers the questions. -/
  answers : List Record
  /-- Where the zone is served. -/
  authority : List Record
  /-- What may be useful besides. -/
  additional : List Record
  /-- What the extension record says, if there is one. -/
  edns : Option Edns
  deriving DecidableEq, Repr

/-- A message that says nothing: a query without questions. -/
def Message.empty : Message where
  id := 0
  response := false
  opcode := .query
  authoritative := false
  truncated := false
  recursionDesired := false
  recursionAvailable := false
  authenticData := false
  checkingDisabled := false
  rcode := .noError
  questions := []
  answers := []
  authority := []
  additional := []
  edns := none

end DohRelay.Dns
