import DohRelay.Url.Basic
import DohRelay.Url.Percent

/-!
# Pairs in a query

A query often is a list of keys with values: an equal sign stands between key and value, an
ampersand between pairs, a plus sign for a blank, and all but a few characters are encoded.

## Main definitions

* `Url.encodePair`, `Url.appendPair`, `Url.appendPairs` — the written form of a pair, and locations
  with more of them.
* `Url.pairs` — the pairs in the query of a location.
-/

namespace DohRelay.Url

/-- Whether a character stands for itself in a pair. -/
def isPlainInPair (c : Char) : Bool :=
  (c.toNat < 0x80 && c.isAlphanum) || c == '*' || c == '-' || c == '.' || c == '_'

/-- The written form of a key or a value. -/
def encodePart (s : List Char) : List Char :=
  s.flatMap fun c =>
    if c = ' ' then ['+']
    else if isPlainInPair c then [c]
    else (Text.utf8 [c]).flatMap percentByte

/-- The written form of a pair. -/
def encodePair (key value : List Char) : List Char :=
  encodePart key ++ '=' :: encodePart value

/-- The location with one more pair behind those in its query. -/
def appendPair (u : Url) (key value : List Char) : Url :=
  { u with query := some (match u.query with
      | none => encodePair key value
      | some [] => encodePair key value
      | some query => query ++ '&' :: encodePair key value) }

/-- The location with more pairs behind those in its query. -/
def appendPairs (u : Url) (pairs : List (List Char × List Char)) : Url :=
  pairs.foldl (fun u (key, value) => u.appendPair key value) u

/-- The key or value that a written form stands for. -/
def decodePart (s : List Char) : List Char :=
  let blanks := s.map fun c => if c = '+' then ' ' else c
  Text.utf8DecodeLossy (percentDecode (Text.utf8 blanks))

/-- The pairs in the query of a location. -/
def pairs (u : Url) : List (List Char × List Char) :=
  (((u.query.getD []).splitOn '&').filter (!·.isEmpty)).map fun pair =>
    (decodePart (pair.takeWhile (· != '=')), decodePart ((pair.dropWhile (· != '=')).drop 1))

end DohRelay.Url
