import DohRelay.Text.Base64

/-!
# Certificates to trust

A file of certificates has sections between marked lines.  Only sections that are labelled as
certificates count, and those have to be certificates.

## Main definitions

* `Trust.sections` — the sections of a file.
* `Trust.isCertificate` — whether some octets have the outline of a certificate.
* `Trust.isUsable` — whether all that a file says about certificates makes sense.
-/

namespace DohRelay.Trust

/-- The mark before the label where a section begins. -/
def beginMark : List Char := "-----BEGIN ".toList

/-- The mark before the label where a section ends. -/
def endMark : List Char := "-----END ".toList

/-- The mark after a label. -/
def closingMark : List Char := "-----".toList

/-- Whether a character at the end of a line does not count. -/
def isLineBlank (c : Char) : Bool :=
  c == ' ' || c == '\r'

/-- The label of a line that begins a section; the fault is a label without end. -/
def beginLabel (line : List Char) : Option (Except Unit (List Char)) :=
  if beginMark.isPrefixOf line then
    let rest := (line.reverse.dropWhile isLineBlank).reverse.drop beginMark.length
    if closingMark.isSuffixOf rest then
      some (.ok (rest.take (rest.length - closingMark.length)))
    else some (.error ())
  else none

/-- The sections of a file with their labels, after the lines of a section that has begun; the fault
is a section without end. -/
def sectionsFrom : Option (List Char × List Char) → List (List Char) →
    Except Unit (List (List Char × List Char))
  | none, [] => .ok []
  | some _, [] => .error ()
  | current, line :: rest =>
    match beginLabel line, current with
    | some (.error ()), _ => .error ()
    | some (.ok label), _ => sectionsFrom (some (label, [])) rest
    | none, none => sectionsFrom none rest
    | none, some (label, content) =>
      if (endMark ++ label ++ closingMark).isPrefixOf line then
        (sectionsFrom none rest).map ((label, content) :: ·)
      else sectionsFrom (some (label, content ++ line.filter fun c => !isLineBlank c)) rest

/-- The sections of a file with their labels. -/
def sections (file : List UInt8) : Except Unit (List (List Char × List Char)) :=
  sectionsFrom none ((file.map fun b => Char.ofNat b.toNat).splitOn '\n')

/-- The label of certificates. -/
def certificateLabel : List Char := "CERTIFICATE".toList

/-- The other labels whose sections are read. -/
def keyLabels : List (List Char) :=
  ["PUBLIC KEY", "PRIVATE KEY", "RSA PRIVATE KEY", "EC PRIVATE KEY", "X509 CRL",
   "CERTIFICATE REQUEST", "ECHCONFIG"].map String.toList

/-- The octets of a section. -/
def contentBytes (content : List Char) : Option (List UInt8) :=
  let digits := (content.reverse.dropWhile (· == '=')).reverse
  let symbols := digits.map fun c => if c = '+' then '-' else if c = '/' then '_' else c
  if digits.any (fun c => c == '-' || c == '_') then none
  else (Text.Base64.decode (symbols.map fun c => UInt8.ofNat c.toNat)).toOption

/-- The tag, the content and what comes after it, of an element at the start of some octets. -/
def element (bytes : List UInt8) : Option (UInt8 × List UInt8 × List UInt8) :=
  match bytes with
  | tag :: first :: rest =>
    if first < 0x80 then
      if first.toNat ≤ rest.length then
        some (tag, rest.take first.toNat, rest.drop first.toNat)
      else none
    else
      let count := first.toNat - 0x80
      let length := (rest.take count).foldl (fun n b => 256 * n + b.toNat) 0
      let rest := rest.drop count
      if 0 < count ∧ count ≤ 4 ∧ length ≤ rest.length then
        some (tag, rest.take length, rest.drop length)
      else none
  | _ => none

/-- The tag of sequences. -/
def sequenceTag : UInt8 := 0x30

/-- The tag of strings of bits. -/
def bitStringTag : UInt8 := 0x03

/-- Whether some octets have the outline of a certificate: what is certified, how it is signed, and
the signature. -/
def isCertificate (bytes : List UInt8) : Bool :=
  match element bytes with
  | some (tag, content, []) =>
    tag == sequenceTag &&
      match element content with
      | some (tag, _, content) =>
        tag == sequenceTag &&
          match element content with
          | some (tag, _, content) =>
            tag == sequenceTag &&
              match element content with
              | some (tag, _, []) => tag == bitStringTag
              | _ => false
          | none => false
      | none => false
  | _ => false

/-- Whether a section makes sense; most sections do not matter. -/
def isUsableSection (label content : List Char) : Bool :=
  if label = certificateLabel then (contentBytes content).any isCertificate
  else !keyLabels.contains label || (contentBytes content).isSome

/-- Whether all that a file says about certificates makes sense. -/
def isUsable (file : List UInt8) : Bool :=
  match sections file with
  | .error () => false
  | .ok found => found.all fun (label, content) => isUsableSection label content

end DohRelay.Trust
