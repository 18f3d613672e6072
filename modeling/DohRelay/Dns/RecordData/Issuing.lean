import DohRelay.Dns.Name.International
import DohRelay.Url.Parser

/-!
# Issuing rules

A rule about who may issue certificates has a tag and a value.  The value of the tags that have a
meaning is brought into one form: a name and parameters for an issuer, a location for reports.
Values that do not have the form of their tag stay as they are.

## Main definitions

* `Issuing.Issuer`, `Issuing.Issuer.read`, `Issuing.Issuer.text` — an issuer, read and written.
* `Issuing.canonical` — a tag and a value in their one form.
-/

namespace DohRelay.Dns.Issuing

/-- An issuer of certificates. -/
structure Issuer where
  /-- The written form of the name of the issuer, if it is told. -/
  name : Option (List Char)
  /-- The parameters with their values. -/
  params : List (List Char × List Char)
  deriving DecidableEq, Repr

/-- The character that an octet stands for by itself. -/
def character (b : UInt8) : Char :=
  Char.ofNat b.toNat

/-- Whether a character below 256 is a letter or a numeral. -/
def isLetterOrNumeral (c : Char) : Bool :=
  let n := c.toNat
  c.isAlphanum || Text.isNumeral c || n == 0xaa || n == 0xb5 || n == 0xba ||
    (0xc0 ≤ n && n ≤ 0xff && n != 0xd7 && n != 0xf7)

/-- Whether some characters can be a key: letters and numerals, and dashes from the third on. -/
def isKey : List Char → Bool
  | [] => false
  | c :: rest =>
    isLetterOrNumeral c && (rest.take 1).all isLetterOrNumeral &&
      (rest.drop 1).all fun c => isLetterOrNumeral c || c == '-'

/-- The key and the value that a part writes, or nothing if the part is blank; the fault is a part
without sense. -/
def readPart (part : List Char) : Except Unit (Option (List Char × List Char)) :=
  let part := part.dropWhile fun c => c == ' ' || c == '\t'
  let key := part.takeWhile (· != '=')
  match part, part.dropWhile (· != '=') with
  | [], _ => .ok none
  | _, [] => .error ()
  | _, _ :: value => if isKey key then .ok (some (key, value)) else .error ()

/-- The parameters that some parts write, each after a semicolon. -/
def readParams (parts : List (List Char)) : Except Unit (List (List Char × List Char)) :=
  (parts.mapM readPart).map (·.filterMap id)

/-- The written form, for people, of a name that may lack its final dot. -/
def nameText (name : Name) (isComplete : Bool) : List Char :=
  Name.shownLabels name.labels ++ (if isComplete then ['.'] else [])

/-- The name of an issuer in its one form. -/
def readName (bytes : List UInt8) : Except Unit (Option (List Char)) :=
  if bytes.isEmpty then .ok none
  else
    match Text.utf8Decode? bytes with
    | none => .error ()
    | some s =>
      match Name.read Label.ofText s with
      | .ok (name, isComplete) => .ok (some (nameText name isComplete))
      | .error _ => .error ()

/-- The semicolon. -/
def semicolon : UInt8 := 0x3b

/-- The issuer that a value writes. -/
def Issuer.read (value : List UInt8) : Except Unit Issuer :=
  match value.splitOn semicolon with
  | [] => .ok ⟨none, []⟩
  | first :: parts => do
    let name ← readName first
    let params ← readParams (parts.map (·.map character))
    return ⟨name, params⟩

/-- The one form of an issuer. -/
def Issuer.text (issuer : Issuer) : List Char :=
  if issuer.name.isNone ∧ issuer.params.isEmpty then [';']
  else
    issuer.name.getD [] ++
      issuer.params.flatMap fun (key, value) => [';', ' '] ++ key ++ '=' :: value

/-- The tags whose values are issuers. -/
def issuerTags : List String := ["issue", "issuewild"]

/-- The tag whose value is a location. -/
def reportTag : String := "iodef"

/-- A value in the form of its tag, which is in lower case. -/
def canonicalValue (tag : String) (value : List UInt8) : List UInt8 :=
  if issuerTags.contains tag then
    match Issuer.read value with
    | .ok issuer => Text.utf8 issuer.text
    | .error () => value
  else
    match (Text.utf8Decode? value).map Url.parse with
    | some (.ok url) => Text.utf8 url.text
    | _ => value

/-- A tag and a value in their one form. -/
def canonical (tag value : List UInt8) : List UInt8 × List UInt8 :=
  let folded := tag.map foldByte
  let word := String.ofList (folded.map character)
  if word = reportTag ∨ issuerTags.contains word then (folded, canonicalValue word value)
  else (tag, value)

end DohRelay.Dns.Issuing
