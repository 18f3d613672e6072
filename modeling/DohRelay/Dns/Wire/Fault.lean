import DohRelay.Dns.Name

/-!
# Faults of messages on the wire

Why some octets are no message, and why a message cannot be written as octets.
-/

namespace DohRelay.Dns

/-- Why octets are no message, or a message has no octets. -/
inductive Fault
  /-- The octets end too early. -/
  | endOfInput
  /-- The operation has no meaning. -/
  | opcode (code : UInt8)
  /-- The two upper bits of a length octet have no meaning. -/
  | labelCode (octet : UInt8)
  /-- A pointer at `position` leads to `target`, which does not lie before the name. -/
  | pointerAhead (position target : Nat)
  /-- The labels from `start` run into the name at `limit` that points to them. -/
  | overlap (start limit : Nat)
  /-- A name grows too long. -/
  | nameTooLong (length : Nat)
  /-- A character string is too long for its length octet. -/
  | textTooLong (length : Nat)
  /-- The data of a record reaches beyond the end. -/
  | dataTooLong (needed remaining : Nat)
  /-- The data of a record is shorter or longer than was said. -/
  | dataLength (read said : Nat)
  /-- No record can have the type. -/
  | recordType (code : UInt16)
  /-- The extension record belongs to a name. -/
  | extensionOwner (owner : Name)
  /-- There is more than one extension record. -/
  | extensionRepeated
  /-- An option is longer than the data that holds it. -/
  | optionTooLong
  /-- A client subnet has more bits than an address. -/
  | subnetLength
  /-- A client subnet is of an unknown family. -/
  | subnetFamily
  /-- The flags of a rule that makes names are no letters or digits. -/
  | ruleFlags
  /-- The length of the tag of an issuing rule is out of bounds. -/
  | tagLength
  /-- A character of the tag of an issuing rule is out of bounds. -/
  | tagCharacter
  /-- The flags of a synchronisation have no meaning. -/
  | syncFlags (flags : UInt16)
  /-- A block of a set of types is empty. -/
  | typeBlockEmpty
  /-- A block of a set of types is too long. -/
  | typeBlockTooLong
  /-- The parameters of a service binding do not ascend. -/
  | paramOrder
  /-- A parameter of a service binding reaches beyond the end. -/
  | paramTooLong (length remaining : Nat)
  /-- A parameter of a service binding needs a value. -/
  | paramEmpty (parameter : String)
  /-- The configuration of an encrypted greeting is longer than its parameter. -/
  | greetingTooLong
  /-- Octets that should be a text are none. -/
  | notText
  /-- The message would be longer than a message can be. -/
  | full
  /-- There is no room for all questions. -/
  | questionsLeftOut (written : Nat)
  deriving DecidableEq, Repr

end DohRelay.Dns
