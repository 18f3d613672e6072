import DohRelay.Text.Unprintable

/-!
# Quoted text

The form in which messages show a text they complain about: between double quotes, with the quote,
the backslash and everything that cannot be seen written as an escape.

## Main definitions

* `quoteChar` — the form of one character.
* `quote` — the form of a text.
-/

namespace DohRelay.Text

/-- The digits of a number in base sixteen, lower case and without leading zeros. -/
def hexDigits (n : Nat) : List Char :=
  Nat.toDigits 16 n

/-- One character of a quoted text: the usual two-character escapes, and `\u` with the code point
in braces for whatever else cannot be seen. -/
def quoteChar (c : Char) : List Char :=
  if c = '"' then ['\\', '"']
  else if c = '\\' then ['\\', '\\']
  else if c = '\n' then ['\\', 'n']
  else if c = '\r' then ['\\', 'r']
  else if c = '\t' then ['\\', 't']
  else if c.toNat = 0 then ['\\', '0']
  else if isUnprintable c then ['\\', 'u', '\x7b'] ++ hexDigits c.toNat ++ ['\x7d']
  else [c]

/-- A text between double quotes, with escapes. -/
def quote (s : String) : String :=
  "\"" ++ String.ofList (s.toList.flatMap quoteChar) ++ "\""

end DohRelay.Text
