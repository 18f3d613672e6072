import DohRelay.Dns.Name
import DohRelay.Text.Blank
import DohRelay.Text.Numeral
import DohRelay.Text.Utf8

/-!
# The ASCII text of names

A name is written as its labels with a dot after each, and the root as a single dot.  Octets that
could be taken for something else are escaped: a visible one by a backslash before it, any other by
a backslash and its three octal digits.

Reading is stricter than writing.  An escape may stand for any character, but the label it ends up
in has to be made of letters, digits, underscores, dots, dashes that are not first and asterisks
that are, so many written names cannot be read back.

## Main definitions

* `Label.text`, `Name.text` — the written form.
* `Name.TextFault` — why a text is no name.
* `Name.readLabels` — the labels of a text, and the last one apart if no dot follows it.
* `Name.ofText` — the name that a text stands for, its final dot being optional.
-/

namespace DohRelay.Dns

/-! ### Writing -/

/-- Whether an octet of a label is written as its character alone. -/
def isPlainByte (first : Bool) (b : UInt8) : Bool :=
  let c := Char.ofNat b.toNat
  b < 0x80 && (c.isAlphanum || c == '_' || (c == '-' && !first) || (c == '*' && first))

/-- The octal digit of a number below eight. -/
def octalDigit (n : Nat) : Char :=
  Char.ofNat ('0'.toNat + n)

/-- The written form of one octet of a label. -/
def escapeByte (first : Bool) (b : UInt8) : List Char :=
  if isPlainByte first b then [Char.ofNat b.toNat]
  else if 0x20 < b ∧ b < 0x7f then ['\\', Char.ofNat b.toNat]
  else
    ['\\', octalDigit (b.toNat / 64), octalDigit (b.toNat / 8 % 8), octalDigit (b.toNat % 8)]

/-- The written form of some octets, the first of which may begin the label. -/
def escapeBytes (first : Bool) : List UInt8 → List Char
  | [] => []
  | b :: rest => escapeByte first b ++ escapeBytes false rest

/-- The written form of a label. -/
def Label.text (l : Label) : List Char :=
  escapeBytes true l.bytes

/-- The written form of a name. -/
def Name.text (n : Name) : List Char :=
  if n.isRoot then ['.'] else n.labels.flatMap fun l => l.text ++ ['.']

@[simp] theorem Name.text_root : Name.root.text = ['.'] := rfl

/-! ### Reading -/

/-- Why a text is no name. -/
inductive Name.TextFault
  /-- A blank or control character, or a character that cannot continue an octal escape. -/
  | unrecognized (c : Char)
  /-- A numeral that is no octal digit. -/
  | illegal (c : Char)
  /-- A label takes too many octets. -/
  | labelTooLong (length : Nat)
  /-- A label is empty or has a character that labels do not have. -/
  | malformed (label : List Char)
  /-- The labels together are too long. -/
  | nameTooLong (length : Nat)
  deriving DecidableEq, Repr

/-- What is said about a text that is no name. -/
def Name.TextFault.message : Name.TextFault → String
  | unrecognized c => "unrecognized char: " ++ String.singleton c
  | illegal c => "illegal char: " ++ String.singleton c
  | labelTooLong n => "label bytes exceed 63: " ++ toString n
  | malformed label => "Malformed label: " ++ String.ofList label
  | nameTooLong n => "name label data exceed 255: " ++ toString n

/-- Whether a label may have the character, at its start or after it. -/
def isLabelChar (first : Bool) (c : Char) : Bool :=
  c.isAlphanum || c == '_' || c == '.' || (c == '-' && !first) || (c == '*' && first)

/-- Whether some characters can be a label. -/
def isLabelText : List Char → Bool
  | [] => false
  | c :: rest => isLabelChar true c && rest.all (isLabelChar false)

/-- The label that some characters stand for. -/
def Label.ofText (s : List Char) : Except Name.TextFault Label :=
  let bytes := Text.utf8 s
  if bytes.length > maxLength then .error (.labelTooLong bytes.length)
  else if isLabelText s then
    match ofBytes? bytes with
    | some label => .ok label
    | none => .error (.malformed s)
  else .error (.malformed s)

/-- The labels with one more behind them, if there is room for it. -/
def Name.append (labels : List Label) (label : Label) : Except Name.TextFault (List Label) :=
  let length := sizeOfLabels (labels ++ [label])
  if length > maxLength then .error (.nameTooLong length) else .ok (labels ++ [label])

/-- The value of an octal digit, the fault being told for a numeral. -/
def octalValue (c : Char) : Except Name.TextFault Nat :=
  if !Text.isNumeral c then .error (.unrecognized c)
  else if '0' ≤ c ∧ c ≤ '7' then .ok (c.toNat - '0'.toNat)
  else .error (.illegal c)

/-- The character that an escape stands for, and how many characters the escape takes; `none` if
the text ends within it.  The argument is what comes after the backslash. -/
def unescape : List Char → Except Name.TextFault (Option (Char × Nat))
  | [] => .ok none
  | c :: rest =>
    if !Text.isNumeral c then .ok (some (c, 1))
    else do
      let high ← octalValue c
      let d :: rest := rest | return none
      let middle ← octalValue d
      let e :: _ := rest | return none
      let low ← octalValue e
      return some (Char.ofNat (high * 64 + middle * 8 + low), 3)

namespace Name

/-- How the characters of one label are read. -/
abbrev LabelReader := List Char → Except TextFault Label

/-- The labels with one more behind them, given by its characters. -/
def appendText (read : LabelReader) (labels : List Label) (s : List Char) :
    Except TextFault (List Label) :=
  match read s with
  | .error fault => .error fault
  | .ok label => append labels label

/-- Reads the labels of a text after those already read, with the characters of the label at hand.
The last label comes back apart when no dot follows it. -/
def readLabels (read : LabelReader) (labels : List Label) (pending : List Char) (s : List Char) :
    Except TextFault (List Label × List Char) :=
  match s with
  | [] => .ok (labels, pending)
  | '.' :: rest =>
    match appendText read labels pending with
    | .error fault => .error fault
    | .ok labels => readLabels read labels [] rest
  | '\\' :: rest =>
    match unescape rest with
    | .error fault => .error fault
    | .ok none => .ok (labels, pending)
    | .ok (some (c, taken)) => readLabels read labels (pending ++ [c]) (rest.drop taken)
  | c :: rest =>
    if Text.isControl c || Text.isBlank c then .error (.unrecognized c)
    else readLabels read labels (pending ++ [c]) rest
termination_by s.length
decreasing_by
  · simp
  · simp only [List.length_drop, List.length_cons]
    omega
  · simp

/-- The name that a text stands for, and whether a dot ends it. -/
def read (read : LabelReader) (s : List Char) : Except TextFault (Name × Bool) :=
  if s = ['.'] then .ok (root, true)
  else
    match readLabels read [] [] s with
    | .error fault => .error fault
    | .ok (labels, []) => .ok (⟨labels⟩, !s.isEmpty)
    | .ok (labels, pending) => (appendText read labels pending).map fun labels => (⟨labels⟩, false)

/-- The name that a text of ASCII characters stands for; its final dot may be missing. -/
def ofText (s : List Char) : Except TextFault Name :=
  (read Label.ofText s).map Prod.fst

end Name

end DohRelay.Dns
