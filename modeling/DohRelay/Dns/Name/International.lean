import DohRelay.Dns.Name.Text
import DohRelay.Idna.Domain

/-!
# Names of any script

Names are shown to people with the characters that their ASCII labels stand for, and host names may
be given in any script.

## Main definitions

* `Name.shown` — the form of a name for people.
* `Name.ofHost` — the name that a host name of any script stands for.
-/

namespace DohRelay.Dns

/-- The form of a label for people: its characters of another script if it is the ASCII form of
some. -/
def Label.shown (l : Label) : List Char :=
  let international :=
    if (Text.utf8 Idna.asciiMark).isPrefixOf l.bytes then
      Idna.toUnicode? (Text.utf8DecodeLossy l.bytes)
    else none
  international.getD l.text

/-- The form of some labels for people, with a dot after each but the last. -/
def Name.shownLabels (labels : List Label) : List Char :=
  List.intercalate ['.'] (labels.map Label.shown)

/-- The form of a name for people. -/
def Name.shown (n : Name) : List Char :=
  Name.shownLabels n.labels ++ ['.']

/-- Whether a host name cannot have the ASCII character. -/
def isDeniedInHost (c : Char) : Bool :=
  !(c.isAlphanum || c == '-')

/-- The label of a host name of any script: an asterisk alone and whatever begins with an underscore
is taken as it is. -/
def Label.ofHost (s : List Char) : Except Name.TextFault Label :=
  if s = ['*'] ∨ s.head? = some '_' then ofText s
  else
    match Idna.toAscii? isDeniedInHost s with
    | none => .error (.malformed s)
    | some form => ofText form

/-- The name that a host name stands for: one of any script, or else one of ASCII characters. -/
def Name.ofHost (s : List Char) : Except Name.TextFault Name :=
  match read Label.ofHost s with
  | .ok (name, _) => .ok name
  | .error _ => ofText s

end DohRelay.Dns
