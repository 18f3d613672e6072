import DohRelay.Dns.Message
import DohRelay.Dns.Name.Text
import DohRelay.Error
import DohRelay.Net.Ip.Parser
import DohRelay.Text.Number
import DohRelay.Text.Quoted

/-!
# Record data as text

The data of a record as people write it: fields with blanks between them, texts in quotes.

## Main definitions

* `Resolve.readName` — a name.
* `Resolve.quotedStrings`, `Resolve.textStrings` — texts.
* `Resolve.readData` — the data of a record of some type.
-/

namespace DohRelay.Resolve

/-- Reads a name. -/
def readName (s : List Char) : Except Error Dns.Name :=
  match Dns.Name.ofText s with
  | .ok name => .ok name
  | .error fault =>
    .error (.undecodable ("invalid name " ++ Text.quote (String.ofList s) ++ ": " ++
      fault.message))

/-! ### Texts -/

/-- The texts in quotes, of which `current` was begun if there is one; what stands between them does
not count.  A backslash takes any meaning from the character after it. -/
def quotedStrings : Option (List Char) → List Char → List (List Char)
  | none, [] => []
  | some current, [] => [current]
  | none, c :: rest => if c = '"' then quotedStrings (some []) rest else quotedStrings none rest
  | some current, '\\' :: c :: rest => quotedStrings (some (current ++ [c])) rest
  | some current, c :: rest =>
    if c = '"' then current :: quotedStrings none rest
    else if c = '\\' then quotedStrings (some current) rest
    else quotedStrings (some (current ++ [c])) rest

/-- The texts that some data stands for: one without quotes, or any number of them in quotes. -/
def textStrings (data : List Char) : List (List Char) :=
  let data := Text.trim data
  if data.head? = some '"' then quotedStrings none data else [data]

/-! ### Data -/

/-- The fault of data that does not have the form of its type. -/
def malformedData (type : Dns.RecordType) (data : List Char) (what : String) : Error :=
  .undecodable ("invalid " ++ type.text ++ " data " ++ Text.quote (String.ofList data) ++ ": " ++
    what)

/-- The data of a record of some type, if data of the type is understood. -/
def readData (type : Dns.RecordType) (data : List Char) : Except Error (Option Dns.RecordData) :=
  let bad {α : Type} (what : String) : Except Error α := .error (malformedData type data what)
  let nat (max : Nat) (what : String) (s : List Char) : Except Error Nat :=
    match Text.parseNat max s with
    | .ok n => .ok n
    | .error _ => bad what
  let word16 (what : String) (s : List Char) := (nat (UInt16.size - 1) what s).map UInt16.ofNat
  let word32 (what : String) (s : List Char) := (nat (UInt32.size - 1) what s).map UInt32.ofNat
  let int32 (what : String) (s : List Char) : Except Error Int32 :=
    match Text.parseInt32 s with
    | .ok n => .ok n
    | .error _ => bad what
  if type = .a then
    match Net.parseIpv4 (Text.trim data) with
    | some a => .ok (some (.a a))
    | none => bad Net.ipv4Fault
  else if type = .aaaa then
    match Net.parseIpv6 (Text.trim data) with
    | some a => .ok (some (.aaaa a))
    | none => bad Net.ipv6Fault
  else if type = .cname ∨ type = .ns ∨ type = .ptr then do
    return some (.host (← readName (Text.trim data)))
  else if type = .mx then
    match Text.fields data with
    | [preference, exchange] => do
      let preference ← word16 "preference" preference
      return some (.mx preference (← readName exchange))
    | _ => bad "expected 2 fields"
  else if type = .srv then
    match Text.fields data with
    | [priority, weight, port, target] => do
      let priority ← word16 "priority" priority
      let weight ← word16 "weight" weight
      let port ← word16 "port" port
      return some (.srv priority weight port (← readName target))
    | _ => bad "expected 4 fields"
  else if type = .soa then
    match Text.fields data with
    | [primary, mailbox, serial, refresh, retry, expire, minimum] => do
      let primary ← readName primary
      let mailbox ← readName mailbox
      let serial ← word32 "serial" serial
      let refresh ← int32 "refresh" refresh
      let retry ← int32 "retry" retry
      let expire ← int32 "expire" expire
      let minimum ← word32 "minimum" minimum
      return some (.soa primary mailbox serial refresh retry expire minimum)
    | _ => bad "expected 7 fields"
  else if type = .txt then .ok (some (.txt ((textStrings data).map Text.utf8)))
  else .ok none

end DohRelay.Resolve
