import DohRelay.Text.CodeTable
import DohRelay.Text.Utf8

/-!
# Percent encoding

Characters that have a meaning of their own in a part of a location are written there as a percent
sign and two digits for each of their octets.  Which characters these are depends on the part.

## Main definitions

* `percentByte`, `percentEncode` — the written form of an octet and of a text.
* `percentDecode` — the octets of a written form.
* `inUserInfo`, `inPath`, `inQuery`, `inFragment` and others — what is encoded in which part.
-/

namespace DohRelay.Url

/-- The upper-case digit of a number below sixteen. -/
def upperDigit (n : UInt8) : Char :=
  Char.ofNat (if n < 10 then '0'.toNat + n.toNat else 'A'.toNat + (n.toNat - 10))

/-- The written form of an octet. -/
def percentByte (b : UInt8) : List Char :=
  ['%', upperDigit (b / 16), upperDigit (b % 16)]

/-- The written form of a text in which some characters are encoded. -/
def percentEncode (encoded : Char → Bool) (s : List Char) : List Char :=
  s.flatMap fun c => if encoded c then (Text.utf8 [c]).flatMap percentByte else [c]

/-- The octets of a written form; a percent sign without two digits stands for itself. -/
def percentDecode : List UInt8 → List UInt8
  | [] => []
  | [a] => [a]
  | [a, b] => [a, b]
  | a :: b :: c :: rest =>
    match if a = 0x25 then digitPair? b c else none with
    | some byte => byte :: percentDecode rest
    | none => a :: percentDecode (b :: c :: rest)
where
  /-- The octet that two digits write. -/
  digitPair? (b c : UInt8) : Option UInt8 := do
    let high ← Text.CodeTable.hexValue? (Char.ofNat b.toNat)
    let low ← Text.CodeTable.hexValue? (Char.ofNat c.toNat)
    return UInt8.ofNat (high * 16 + low)

/-! ### What is encoded where -/

/-- Control characters and whatever is not ASCII. -/
def inAny (c : Char) : Bool :=
  c.toNat < 0x20 || 0x7f ≤ c.toNat

/-- Whether a list has the character. -/
def isOneOf (s : String) (c : Char) : Bool :=
  s.toList.contains c

/-- What is encoded in a fragment. -/
def inFragment (c : Char) : Bool :=
  inAny c || c == ' ' || c == '"' || c == '<' || c == '>' || c.toNat == 0x60

/-- What is encoded in a path. -/
def inPath (c : Char) : Bool :=
  inFragment c || c == '#' || c == '?' || c.toNat == 0x7b || c.toNat == 0x7d

/-- What is encoded in names and passwords. -/
def inUserInfo (c : Char) : Bool :=
  inPath c || isOneOf "/:;=@[\\]^|" c

/-- What is encoded in a query; a special scheme also encodes the apostrophe. -/
def inQuery (special : Bool) (c : Char) : Bool :=
  inAny c || c == ' ' || c == '"' || c == '#' || c == '<' || c == '>'
    || (special && c.toNat == 0x27)

end DohRelay.Url
