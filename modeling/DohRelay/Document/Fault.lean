import DohRelay.Text.Number
import DohRelay.Text.Quoted

/-!
# Faults of documents

Why a document cannot be read, and where in it that was noticed.

## Main definitions

* `Document.Reason`, `Document.Fault` — the types.
* `Document.Fault.message` — what is said about a fault in a document.
-/

namespace DohRelay.Document

/-- What was found in the place of something else. -/
inductive Found
  /-- Nothing. -/
  | null
  /-- A truth value. -/
  | truth (value : Bool)
  /-- A whole number. -/
  | integer (n : Int)
  /-- Any other number, by its text. -/
  | floating (digits : List Char)
  /-- A text. -/
  | text (s : List Char)
  /-- A list. -/
  | list
  /-- A record. -/
  | record
  deriving DecidableEq, Repr

/-- Why a document cannot be read. -/
inductive Reason
  /-- The document ends within a list. -/
  | endInList
  /-- The document ends within a record. -/
  | endInRecord
  /-- The document ends within a text. -/
  | endInText
  /-- The document ends where a value is to come. -/
  | endInValue
  /-- A key has no value. -/
  | expectedColon
  /-- A list neither goes on nor ends. -/
  | expectedListEnd
  /-- A record neither goes on nor ends. -/
  | expectedRecordEnd
  /-- A word is misspelled. -/
  | expectedWord
  /-- No value begins here. -/
  | expectedValue
  /-- There is no such escape. -/
  | invalidEscape
  /-- A number has not the form it must have. -/
  | invalidNumber
  /-- A number is too large. -/
  | numberOutOfRange
  /-- A text is no text. -/
  | invalidCodePoint
  /-- A text has a control character. -/
  | controlCharacter
  /-- A key is no text. -/
  | expectedKey
  /-- Half of an escaped pair stands alone. -/
  | loneSurrogate
  /-- Something comes after a last comma. -/
  | trailingComma
  /-- Something comes after the end. -/
  | trailingCharacters
  /-- The second half of an escaped pair is missing. -/
  | endOfEscape
  /-- A value is of another kind. -/
  | invalidType (found : Found) (expected : String)
  /-- A value is out of bounds. -/
  | invalidValue (found : Found) (expected : String)
  /-- A list is too short. -/
  | invalidLength (length : Nat) (expected : String)
  /-- A field comes twice. -/
  | duplicateField (name : String)
  /-- A field does not come. -/
  | missingField (name : String)
  deriving DecidableEq, Repr

/-- Why a document cannot be read, and before which octet that was noticed, once this is known. -/
structure Fault where
  /-- The reason. -/
  reason : Reason
  /-- How many octets come before. -/
  place : Option Nat
  deriving DecidableEq, Repr

/-- What is said about something found. -/
def Found.message : Found → String
  | null => "null"
  | truth value => "boolean `" ++ toString value ++ "`"
  | integer n => "integer `" ++ toString n ++ "`"
  | floating digits => "floating point `" ++ String.ofList digits ++ "`"
  | text s => "string " ++ Text.quote (String.ofList s)
  | list => "sequence"
  | record => "map"

/-- What is said about a reason. -/
def Reason.message : Reason → String
  | endInList => "EOF while parsing a list"
  | endInRecord => "EOF while parsing an object"
  | endInText => "EOF while parsing a string"
  | endInValue => "EOF while parsing a value"
  | expectedColon => "expected `:`"
  | expectedListEnd => "expected `,` or `]`"
  | expectedRecordEnd => "expected `,` or `\x7d`"
  | expectedWord => "expected ident"
  | expectedValue => "expected value"
  | invalidEscape => "invalid escape"
  | invalidNumber => "invalid number"
  | numberOutOfRange => "number out of range"
  | invalidCodePoint => "invalid unicode code point"
  | controlCharacter => "control character (\\u0000-\\u001F) found while parsing a string"
  | expectedKey => "key must be a string"
  | loneSurrogate => "lone leading surrogate in hex escape"
  | trailingComma => "trailing comma"
  | trailingCharacters => "trailing characters"
  | endOfEscape => "unexpected end of hex escape"
  | invalidType found expected => "invalid type: " ++ found.message ++ ", expected " ++ expected
  | invalidValue found expected => "invalid value: " ++ found.message ++ ", expected " ++ expected
  | invalidLength length expected =>
    "invalid length " ++ toString length ++ ", expected " ++ expected
  | duplicateField name => "duplicate field `" ++ name ++ "`"
  | missingField name => "missing field `" ++ name ++ "`"

/-- The octet that ends a line. -/
def lineEnd : UInt8 := 0x0a

/-- The line of a place, counted from one, and the column, counted from zero. -/
def lineColumn (document : List UInt8) (place : Nat) : Nat × Nat :=
  let before := document.take place
  (before.count lineEnd + 1, (before.reverse.takeWhile (· != lineEnd)).length)

/-- What is said about a fault in a document. -/
def Fault.message (document : List UInt8) (fault : Fault) : String :=
  match fault.place with
  | none => fault.reason.message
  | some place =>
    let (line, column) := lineColumn document place
    fault.reason.message ++ " at line " ++ toString line ++ " column " ++ toString column

end DohRelay.Document
