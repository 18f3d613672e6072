import DohRelay.Dns.Message
import DohRelay.Dns.Name.Reader
import DohRelay.Dns.RecordData.Issuing
import DohRelay.Dns.RecordData.TypeSet

/-!
# Record data, read

The data of a record says how long it is, and its form follows from the type of the record.  Reading
does not stop at the end that was said: names and character strings are read as far as they reach,
and data that turns out longer or shorter than was said is refused for that reason before any other.

## Main definitions

* `readOptions` — the options of an extension record.
* `readForm` — the data of a record of some type, read by its form alone.
* `readData` — the data of a record of some type and length.
-/

namespace DohRelay.Dns

open Reader

/-- Reads the octets of a slice by themselves. -/
def Reader.within {α : Type} (bytes : List UInt8) (r : Reader α) : Reader α :=
  ofExcept (r.run bytes.toArray)

/-- The octets from the present position to the one at which `length` octets from `start` end. -/
def Reader.rest (start length : Nat) : Reader (List UInt8) := do
  octets (length - ((← position) - start))

/-- Reads character strings up to the position `stop` and over it. -/
def Reader.charStrings (stop : Nat) : Nat → Reader (List (List UInt8))
  | 0 => return []
  | fuel + 1 => do
    if (← position) < stop then
      return (← charString) :: (← charStrings stop fuel)
    else return []

/-! ### Options -/

/-- A client subnet whose address has `width` octets. -/
def readSubnetOf (width : Nat) (address : List UInt8 → Net.Ip) : Reader ClientSubnet := do
  let source ← octet
  let scope ← octet
  let count := ClientSubnet.octetCount source
  if count > width then fail .subnetLength
  let bytes ← times octet count
  return ⟨address (bytes ++ List.replicate (width - count) 0), source, scope⟩

/-- The client subnet in the octets of its option. -/
def readSubnet : Reader ClientSubnet := do
  let family ← word16
  if family = 1 then readSubnetOf 4 fun bytes => .v4 (.ofBytes bytes)
  else if family = 2 then readSubnetOf 16 fun bytes => .v6 (.ofBytes bytes)
  else fail .subnetFamily

/-- The options with one more, given by its code and its octets. -/
def OptionSet.add (o : OptionSet) (code : UInt16) (data : List UInt8) : Reader OptionSet :=
  if code = ClientSubnet.code then do
    let s ← within data readSubnet
    return { o with subnet := some s }
  else return o.insert code data

/-- Reads options up to the position `stop` after those already known.  Options that break off make
the whole list void; `length` is the length of the list. -/
def readOptionsFrom (length stop : Nat) : Nat → OptionSet → Reader OptionSet
  | 0, known => return known
  | fuel + 1, known => do
    if stop ≤ (← position) then return known
    let code ← word16
    if stop ≤ (← position) then return .empty
    let count := (← word16).toNat
    if length < count then fail .optionTooLong
    let room := stop - (← position)
    if count ≤ room then
      let known ← known.add code (← octets count)
      readOptionsFrom length stop fuel known
    else
      let _ ← octets room
      return .empty

/-- The options in data of some length. -/
def readOptions (length : Nat) : Reader OptionSet := do
  readOptionsFrom length ((← position) + length) (length + 1) .empty

/-! ### Service bindings -/

/-- The keys of the parameters of a service binding that have a form. -/
inductive ServiceParam
  /-- The keys that must be understood. -/
  | mandatory
  /-- The protocols that the service speaks. -/
  | protocols
  /-- The service does not speak the protocol that is usual for it. -/
  | noDefaultProtocol
  /-- The port of the service. -/
  | port
  /-- Addresses of 32 bits. -/
  | hint4
  /-- The configuration of the encrypted greeting. -/
  | greeting
  /-- Addresses of 128 bits. -/
  | hint6

/-- The parameter with a form that a key stands for. -/
def ServiceParam.ofKey? (key : UInt16) : Option ServiceParam :=
  [(0, mandatory), (1, protocols), (2, noDefaultProtocol), (3, port), (4, hint4), (5, greeting),
    (6, hint6)].lookup key

/-- Checks that some octets have the form of a parameter and drops those that the form has no use
for. -/
def readServiceParam (value : List UInt8) : ServiceParam → Reader (List UInt8)
  | .mandatory => do
    let keys ← within value (untilEnd word16 value.length)
    if keys.isEmpty then fail (.paramEmpty "Mandatory")
    return value
  | .protocols => do
    let names ← within value (untilEnd charStringText value.length)
    if names.isEmpty then fail (.paramEmpty "Alpn")
    return value
  | .noDefaultProtocol => do
    if !value.isEmpty then fail (.paramEmpty "Alpn")
    return value
  | .port => within value (octets 2)
  | .hint4 => do
    let _ ← within value (untilEnd (times octet 4) value.length)
    return value
  | .greeting => within value do
    let high ← octet
    let low ← octet
    let length := high.toNat * 256 + low.toNat
    if (← remaining) < length then fail .greetingTooLong
    return high :: low :: (← octets length)
  | .hint6 => do
    let _ ← within value (untilEnd (times word16 8) value.length)
    return value
where
  /-- A character string that must be a text. -/
  charStringText : Reader (List UInt8) := do
    let bytes ← charString
    if (Text.utf8Decode? bytes).isNone then fail .notText
    return bytes

/-- The value of the parameter with some key. -/
def readParamValue (key : UInt16) : Reader (List UInt8) := do
  let length := (← word16).toNat
  let left ← remaining
  if left < length then fail (.paramTooLong length left)
  let value ← octets length
  match ServiceParam.ofKey? key with
  | none => return value
  | some param => readServiceParam value param

/-- Reads parameters, by ascending key, as long as at least four octets of the data are left. -/
def readParams (stop : Nat) : Nat → Option UInt16 → Reader (List (UInt16 × List UInt8))
  | 0, _ => return []
  | fuel + 1, last => do
    if stop < (← position) + 4 then return []
    let key ← word16
    let value ← readParamValue key
    if last.any (key ≤ ·) then fail .paramOrder
    return (key, value) :: (← readParams stop fuel (some key))

/-- A service binding in data of some length. -/
def readService (length : Nat) : Reader ServiceBinding := do
  let stop := (← position) + length
  let priority ← word16
  let target ← name
  let params ← readParams stop length none
  return ⟨priority, target, params⟩

/-! ### Other forms -/

/-- Whether an octet is the character of a letter or a digit. -/
def isAlphanumByte (b : UInt8) : Bool :=
  b < 0x80 && (Char.ofNat b.toNat).isAlphanum

/-- Who may issue certificates, in data of some length. -/
def readIssuing (length : Nat) : Reader RecordData := do
  let flags ← octet
  let tagLength := (← octet).toNat
  if length < tagLength + 2 then fail .tagCharacter
  if tagLength = 0 ∨ 15 < tagLength then fail .tagLength
  let tag ← times tagOctet tagLength
  let value ← octets (length - tagLength - 2)
  let (tag, value) := Issuing.canonical tag value
  return .caa (flags &&& 0x80 == 0x80) tag value
where
  /-- A character of the tag. -/
  tagOctet : Reader UInt8 := do
    let b ← octet
    if isAlphanumByte b then return b else fail .tagCharacter

/-- A synchronisation in data of some length. -/
def readSync (length : Nat) : Reader RecordData := do
  let serial ← word32
  let flags ← word16
  if flags &&& 0xfc != 0 then fail (.syncFlags flags)
  if length < 6 then fail (.dataLength 6 length)
  return .csync serial (flags &&& 3) (← TypeSet.read (length - 6))

/-- A rule that makes one name from another. -/
def readRule : Reader RecordData := do
  let order ← word16
  let preference ← word16
  let flags ← charString
  if !flags.all isAlphanumByte then fail .ruleFlags
  let services ← charString
  let regexp ← charString
  return .naptr order preference flags services regexp (← name)

/-- The start of a zone. -/
def readZone : Reader RecordData := do
  let primary ← name
  let mailbox ← name
  let serial ← word32
  let refresh ← int32
  let retry ← int32
  let expire ← int32
  return .soa primary mailbox serial refresh retry expire (← word32)

/-- The place of a service. -/
def readPlace : Reader RecordData := do
  let priority ← word16
  let weight ← word16
  let port ← word16
  return .srv priority weight port (← name)

/-- Octets of which at least `least` are expected, in data of some length. -/
def readAtLeast (least length : Nat) : Reader RecordData := do
  let start ← position
  let head ← times octet least
  return .octets (head ++ (← rest start length))

/-- Reads the data of a record by the form of its type, without looking at where the data ends
unless the form fills it. -/
def readForm (type : RecordType) (length : Nat) : Reader RecordData := do
  if type = .a then return .a (.ofBytes (← times octet 4))
  else if type = .aaaa then
    let groups ← times word16 8
    return .aaaa (.ofGroups (groups.map UInt16.toNat))
  else if type = .ns ∨ type = .cname ∨ type = .ptr ∨ type = .aname then return .host (← name)
  else if type = .mx then return .mx (← word16) (← name)
  else if type = .soa then readZone
  else if type = .srv then readPlace
  else if type = .txt then
    let stop := (← position) + length
    return .txt (← charStrings stop length)
  else if type = .hinfo then return .hinfo (← charString) (← charString)
  else if type = .naptr then readRule
  else if type = .caa then readIssuing length
  else if type = .csync then readSync length
  else if type = .sshfp then readAtLeast 2 length
  else if type = .tlsa then readAtLeast 3 length
  else if type = .svcb ∨ type = .https then return .service (← readService length)
  else if type = .opt then return .options (← readOptions length)
  else if type.code = 0 then return .octets []
  else return .octets (← octets length)

/-- Whether no record can have the type, which only questions have. -/
def RecordType.isQuestionOnly (type : RecordType) : Bool :=
  type == .any || type == .axfr || type == .ixfr

/-- Reads the data of a record of some type, which is said to have some length. -/
def readData (type : RecordType) (length : Nat) : Reader RecordData := do
  if type.isQuestionOnly then fail (.recordType type.code)
  let start ← position
  let outcome ← attempt (readForm type length)
  let read := (← position) - start
  if read ≠ length then fail (.dataLength read length)
  Reader.ofExcept outcome

end DohRelay.Dns
