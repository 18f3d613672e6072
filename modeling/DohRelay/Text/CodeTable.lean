/-!
# Tables of code points

A table says something about some of the code points, by ranges.  Tables are written as lines of
text, one entry after another with a blank between them: a code point or two with a dash between
them, then a mark and further numbers if the entry has any, all numbers in base sixteen.

## Main definitions

* `CodeTable.Entry` — one entry of a table.
* `CodeTable.parse` — the table that some lines write.
* `CodeTable.find?` — the entry about a code point.
-/

namespace DohRelay.Text

/-- What a table says about a range of code points. -/
structure CodeTable.Entry where
  /-- The first code point of the range. -/
  first : Nat
  /-- The last code point of the range. -/
  last : Nat
  /-- The kind of the entry; a blank if it only lists its range. -/
  mark : Char
  /-- The numbers of the entry. -/
  values : List Nat
  deriving Repr, Inhabited

/-- Entries by ascending code points, no two of them about the same. -/
abbrev CodeTable := Array CodeTable.Entry

namespace CodeTable

/-- The value of a digit of base sixteen. -/
def hexValue? (c : Char) : Option Nat :=
  if c.isDigit then some (c.toNat - '0'.toNat)
  else if 'a' ≤ c ∧ c ≤ 'f' then some (c.toNat - 'a'.toNat + 10)
  else if 'A' ≤ c ∧ c ≤ 'F' then some (c.toNat - 'A'.toNat + 10)
  else none

/-- The number written by the digits of base sixteen among some characters. -/
def hexNumber (s : List Char) : Nat :=
  s.foldl (fun n c => match hexValue? c with
    | some d => n * 16 + d
    | none => n) 0

/-- The entry that some characters write. -/
def parseEntry (s : List Char) : Entry :=
  let isPart (c : Char) := (hexValue? c).isSome || c == '-'
  let range := (s.takeWhile isPart).splitOn '-'
  let first := hexNumber (range.headD [])
  let last := hexNumber (range.getLastD [])
  match s.dropWhile isPart with
  | [] => ⟨first, last, ' ', []⟩
  | mark :: [] => ⟨first, last, mark, []⟩
  | mark :: values => ⟨first, last, mark, (values.splitOn ',').map hexNumber⟩

/-- The table that some lines write. -/
def parse (lines : List String) : CodeTable :=
  (lines.flatMap fun line => (line.toList.splitOn ' ').map parseEntry).toArray

/-- Looks for the entry about a code point among those from `lo` to before `hi`, halving their
number `fuel` times at most. -/
def findBetween (t : CodeTable) (c : Nat) : Nat → Nat → Nat → Option Entry
  | 0, _, _ => none
  | fuel + 1, lo, hi =>
    if hi ≤ lo then none
    else
      let middle := (lo + hi) / 2
      match t[middle]? with
      | none => none
      | some e =>
        if c < e.first then findBetween t c fuel lo middle
        else if e.last < c then findBetween t c fuel (middle + 1) hi
        else some e

/-- The entry about a code point. -/
def find? (t : CodeTable) (c : Nat) : Option Entry :=
  findBetween t c (t.size.log2 + 2) 0 t.size

/-- Whether a table lists a code point. -/
def contains (t : CodeTable) (c : Nat) : Bool :=
  (t.find? c).isSome

/-- The first number that a table gives for a code point, zero if there is none. -/
def value (t : CodeTable) (c : Nat) : Nat :=
  ((t.find? c).bind (·.values.head?)).getD 0

end CodeTable

end DohRelay.Text
