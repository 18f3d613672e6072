import DohRelay.Dns.Name.International
import DohRelay.Dns.Wire.Fault

/-!
# Faults in words

What is said about octets that are no message and about messages that have no octets.
-/

namespace DohRelay.Dns

/-- What is said about a fault. -/
def Fault.message : Fault → String
  | endOfInput => "unexpected end of input reached"
  | opcode n => "unknown OpCode: " ++ toString n.toNat
  | labelCode b => "unrecognized label code: " ++ String.ofList (Nat.toDigits 2 b.toNat)
  | pointerAhead position target =>
    "label points to data not prior to idx: " ++ toString position ++ " ptr: " ++ toString target
  | overlap start limit =>
    "overlapping labels name " ++ toString start ++ " other " ++ toString limit
  | nameTooLong n => "name label data exceed 255: " ++ toString n
  | textTooLong n => "char data length exceeds 255: " ++ toString n
  | dataTooLong needed remaining =>
    "rdata length too large for remaining bytes, need: " ++ toString needed ++ " remain: " ++
      toString remaining
  | dataLength read said =>
    "incorrect rdata length read: " ++ toString read ++ " expected: " ++ toString said
  | recordType code => "record type value unknown: " ++ toString code.toNat
  | extensionOwner owner =>
    "edns resource record label must be the root label (.): " ++ String.ofList owner.shown
  | extensionRepeated => "more than one edns record present"
  | optionTooLong => "OPT value length exceeds rdata length"
  | subnetLength => "Invalid address length"
  | subnetFamily => "unknown family type."
  | ruleFlags => "flags are not within range [a-zA-Z0-9]"
  | tagLength => "CAA tag length out of bounds, 1-15"
  | tagCharacter => "CAA tag character(s) out of bounds"
  | syncFlags flags =>
    "csync flags should be 0b000000**: " ++ String.ofList (Nat.toDigits 2 flags.toNat)
  | typeBlockEmpty => "block left out of bounds in NSEC(3)"
  | typeBlockTooLong => "block len or left out of bounds in NSEC(3)"
  | paramOrder => "SvcParams out of order"
  | paramTooLong length remaining =>
    "length of SvcParamValue (" ++ toString length ++ ") exceeds remainder in RDATA (" ++
      toString remaining ++ ")"
  | paramEmpty parameter => parameter ++ " expects at least one value"
  | greetingTooLong => "ECH value length exceeds max size of u16::MAX"
  | notText => "error parsing utf8 string"
  | full => "max buffer size exceeded: 65535"
  | questionsLeftOut written =>
    "not all records could be written, wrote: " ++ toString written

end DohRelay.Dns
