/-!
# Headers

The headers of a request are values under names; the names are compared without letter case and are
kept in lower case.  A name may have several values, whose order counts.  There is room for a number
of names only, and whoever puts a value more into headers that are full dies of it.

## Main definitions

* `Headers` — the headers of a request, in the order they were given.
* `Headers.parseName`, `Headers.isValue` — what can be a name, and a value.
* `Headers.values`, `Headers.names`, `Headers.grouped`, `Headers.without` — looking up.
* `Headers.isFull`, `Headers.append?`, `Headers.replacing?` — adding values while there is room.
-/

namespace DohRelay.Http

/-- Values under names, in the order they were given. -/
abbrev Headers := List (String × String)

namespace Headers

/-- The longest name. -/
def maxNameLength : Nat := 65535

/-- Whether a name may have the character. -/
def isNameChar (c : Char) : Bool :=
  c.isAlphanum || "!#$%&'*+-.^_|~".toList.contains c || c.toNat == 0x60

/-- The name that some text is, in lower case. -/
def parseName (s : String) : Option String :=
  if s.isEmpty || maxNameLength < s.length || !s.toList.all isNameChar then none
  else some (String.ofList (s.toList.map Char.toLower))

/-- Whether a value may have the character. -/
def isValueChar (c : Char) : Bool :=
  c == '\t' || (0x20 ≤ c.toNat && c.toNat != 0x7f)

/-- Whether some text can be a value. -/
def isValue (s : String) : Bool :=
  s.toList.all isValueChar

/-- The values of a name. -/
def values (h : Headers) (name : String) : List String :=
  (h.filter (·.1 == name)).map Prod.snd

/-- The names, each once, in the order of their first values. -/
def names (h : Headers) : List String :=
  (h.map Prod.fst).eraseDups

/-- The greatest number of names. -/
def maxNames : Nat := 24576

/-- How many different texts are in a list where equal ones stand together. -/
def countRuns : List String → Nat
  | [] => 0
  | [_] => 1
  | a :: b :: rest => (if a = b then 0 else 1) + countRuns (b :: rest)

/-- How many names there are.  Where there are many, they are put in order first. -/
def countNames (h : Headers) : Nat :=
  if h.length < maxNames then h.names.length
  else countRuns ((h.map Prod.fst).mergeSort (· ≤ ·))

/-- The headers as they are gone through: the values of a name come together, at the place of the
first. -/
def grouped (h : Headers) : Headers :=
  if h.countNames = h.length then h else h.names.flatMap fun name => h.filter (·.1 == name)

/-- The headers without those of some names. -/
def without (h : Headers) (names : List String) : Headers :=
  h.filter fun entry => !names.contains entry.1

/-! ### Room -/

/-- Whether there is no room for another value, be it one of a name that is there. -/
def isFull (h : Headers) : Bool :=
  maxNames ≤ h.length && maxNames ≤ h.countNames

/-- The headers with others behind them, if there is room for each in its turn; so there must be
some before the last. -/
def append? (h others : Headers) : Option Headers :=
  if others.isEmpty || !(h ++ others.dropLast).isFull then some (h ++ others) else none

/-- The headers with others that take the place of those with the same names, if there is room. -/
def replacing? (h others : Headers) : Option Headers :=
  (h.without (others.map Prod.fst)).append? others.grouped

end Headers

end DohRelay.Http
