/-!
# Blanks

White space in texts of any script, and the two things done with it: cutting it off at the ends of
a text, and splitting a text into the fields between it.

## Main definitions

* `isBlank` — white space of any script.
* `isControl` — the control characters.
* `trim` — a text without the blanks at either end.
* `fields` — the maximal runs of characters that are not blank.
-/

namespace DohRelay.Text

/-- White space of any script. -/
def isBlank (c : Char) : Bool :=
  let n := c.toNat
  (0x09 ≤ n && n ≤ 0x0d) || n == 0x20 || n == 0x85 || n == 0xa0 || n == 0x1680 ||
    (0x2000 ≤ n && n ≤ 0x200a) || n == 0x2028 || n == 0x2029 || n == 0x202f || n == 0x205f ||
    n == 0x3000

/-- Control characters: the two blocks below the space and above the tilde. -/
def isControl (c : Char) : Bool :=
  c.toNat < 0x20 || (0x7f ≤ c.toNat && c.toNat ≤ 0x9f)

/-- The text without the blanks at its end. -/
def trimEnd (s : List Char) : List Char :=
  (s.reverse.dropWhile isBlank).reverse

/-- The text without the blanks at its ends. -/
def trim (s : List Char) : List Char :=
  trimEnd (s.dropWhile isBlank)

/-- The maximal runs of characters that are not blank, in order. -/
def fields (s : List Char) : List (List Char) :=
  (s.splitOnP isBlank).filter fun field => !field.isEmpty

@[simp] theorem trim_nil : trim [] = [] := rfl

end DohRelay.Text
