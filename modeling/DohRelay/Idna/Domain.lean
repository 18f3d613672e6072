import DohRelay.Idna.DirectionTable
import DohRelay.Idna.JoiningTable
import DohRelay.Idna.MappingTable
import DohRelay.Idna.MarkTable
import DohRelay.Idna.Normal
import DohRelay.Idna.Punycode

/-!
# International domains

A domain of any script has two forms: one that shows it, and one made of ASCII characters that
servers know it by.  Its characters are mapped to lower case and to the ones they are variants of,
the composed form is taken, and each label has to follow the rules of its script.

## Main definitions

* `Idna.labels?` — the labels of a domain that follow the rules.
* `Idna.toUnicode?` — the form that shows a domain.
* `Idna.toAscii?` — the form that servers know a domain by.
-/

namespace DohRelay.Idna

open Text

/-- What the ASCII form of a label of another script begins with. -/
def asciiMark : List Char := ['x', 'n', '-', '-']

/-- Whether all characters are ASCII. -/
def isAscii (s : List Char) : Bool :=
  s.all (·.toNat < 0x80)

/-! ### Mapping -/

/-- What a character is mapped to, if it is allowed. -/
def mapChar? (c : Char) : Option (List Char) :=
  match mappingTable.find? c.toNat with
  | none => none
  | some e =>
    if e.mark = '=' then some (e.values.map fun v => Char.ofNat (v + (c.toNat - e.first)))
    else if e.mark = '~' then
      some [if (c.toNat - e.first) % 2 = 0 then Char.ofNat (c.toNat + 1) else c]
    else if e.mark = ':' then some (e.values.map Char.ofNat)
    else some [c]

/-- What a text is mapped to, if all of it is allowed. -/
def map? (s : List Char) : Option (List Char) :=
  (s.mapM mapChar?).map List.flatten

/-! ### Rules for a label -/

/-- The class of a code point that joins the consonants around it. -/
def viramaClass : Nat := 9

/-- Whether letters on both sides of a non-joiner join across it, with `before` reversed. -/
def joinsAcross (before after : List Nat) : Bool :=
  let joins (side : Nat) (cs : List Nat) : Bool :=
    match cs.dropWhile (joiningTable.value · == 5) with
    | c :: _ => joiningTable.value c == side || joiningTable.value c == 3
    | [] => false
  joins 1 before && joins 2 after

/-- Whether the joiners of a label stand where they mean something.  `before` is reversed. -/
def joinersAllowed (before : List Nat) : List Nat → Bool
  | [] => true
  | c :: rest =>
    let afterVirama := before.head?.any (combiningClass · == viramaClass)
    (if c = 0x200c then afterVirama || joinsAcross before rest
      else c != 0x200d || afterVirama) && joinersAllowed (c :: before) rest

/-- Whether a label keeps to one direction of writing, as it must in a domain with any text that
runs from right to left. -/
def directionAllowed (cs : List Nat) : Bool :=
  let classes := cs.map directionTable.value
  let last := ((classes.reverse.dropWhile (· == 8)).head?).getD 0
  match classes with
  | [] => true
  | first :: _ =>
    if first = 1 ∨ first = 2 then
      classes.all (· != 0) && [1, 2, 3, 4].contains last &&
        !(classes.contains 3 && classes.contains 4)
    else if first = 0 then
      classes.all (fun k => k != 1 && k != 2 && k != 3) && [0, 4].contains last
    else false

/-- Whether a label has a character that runs from right to left. -/
def runsLeft (cs : List Nat) : Bool :=
  cs.any fun c => [1, 2, 3].contains (directionTable.value c)

/-- Whether a mapped label follows the rules for its characters. -/
def labelAllowed (label : List Char) : Bool :=
  let cs := label.map Char.toNat
  !(cs.head?.any markTable.contains) && !label.contains '.' && joinersAllowed [] cs

/-- The label that an ASCII form stands for. -/
def decodeLabel? (form : List Char) : Option (List Char) :=
  match Punycode.decode? form with
  | none => none
  | some label =>
    if !isAscii label && map? label == some label && normalize label == label then some label
    else none

/-- A label of a mapped domain as it is shown, if it follows the rules. -/
def showLabel? (label : List Char) : Option (List Char) :=
  let shown :=
    if asciiMark.isPrefixOf label then decodeLabel? (label.drop asciiMark.length)
    else some label
  shown.filter fun label => isAscii label || labelAllowed label

/-! ### Domains -/

/-- The labels of a domain as they are shown, if all follow the rules. -/
def labels? (domain : List Char) : Option (List (List Char)) := do
  let mapped ← map? domain
  let labels ← ((normalize mapped).splitOn '.').mapM showLabel?
  let points := labels.map (·.map Char.toNat)
  if points.any runsLeft && !points.all directionAllowed then none else some labels

/-- Labels with dots between them. -/
def joinLabels (labels : List (List Char)) : List Char :=
  List.intercalate ['.'] labels

/-- The form that shows a domain. -/
def toUnicode? (domain : List Char) : Option (List Char) :=
  (labels? domain).map joinLabels

/-- The ASCII form of a label. -/
def asciiLabel (label : List Char) : List Char :=
  if isAscii label then label else asciiMark ++ Punycode.encode label

/-- The form that servers know a domain by, provided that no character of it is denied. -/
def toAscii? (denied : Char → Bool) (domain : List Char) : Option (List Char) := do
  let labels ← labels? domain
  if labels.any (·.any fun c => c.toNat < 0x80 && denied c) then none
  else some (joinLabels (labels.map asciiLabel))

end DohRelay.Idna
