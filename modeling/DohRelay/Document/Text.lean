import DohRelay.Document.Reader
import DohRelay.Text.CodeTable
import DohRelay.Text.Utf8

/-!
# Texts in documents

A text stands between quotes; a backslash begins an escape.  Characters beyond sixteen bits may be
escaped as a pair of halves.

## Main definitions

* `Document.Text.read` — reads a text after its first quote.
* `Document.Text.skip` — moves over one; what its escapes stand for does not matter then.
-/

namespace DohRelay.Document.Text

open Reader

/-- The quote. -/
def quote : UInt8 := 0x22

/-- The backslash. -/
def backslash : UInt8 := 0x5c

/-- The letter of escapes that are numbers. -/
def numberMark : UInt8 := 0x75

/-- Whether an octet stands for itself in a text. -/
def isPlain (b : UInt8) : Bool :=
  0x20 ≤ b && b != quote && b != backslash

/-- The escapes of one letter, with what they stand for. -/
def letterEscapes : List (UInt8 × UInt8) :=
  [(0x22, 0x22), (0x5c, 0x5c), (0x2f, 0x2f), (0x62, 0x08), (0x66, 0x0c), (0x6e, 0x0a),
   (0x72, 0x0d), (0x74, 0x09)]

/-- The next octet, which must be there. -/
def peekInText : Reader UInt8 := do
  match ← peek? with
  | some b => return b
  | none => failHere .endInText

/-- Reads the next octet, which must be there. -/
def nextInText : Reader UInt8 := do
  let b ← peekInText
  advance
  return b

/-- The value of a hexadecimal digit. -/
def hexValue? (b : UInt8) : Option Nat :=
  DohRelay.Text.CodeTable.hexValue? (Char.ofNat b.toNat)

/-- Reads the four digits of an escape. -/
def readHex : Reader Nat := do
  let c ← get
  match c.rest with
  | x :: y :: z :: w :: _ =>
    modify (·.skip 4)
    match [x, y, z, w].mapM hexValue? with
    | some digits => return digits.foldl (fun n d => 16 * n + d) 0
    | none => failHere .invalidEscape
  | short =>
    modify (·.skip short.length)
    failHere .endInText

/-- Whether a number is the first half of a pair. -/
def isHighHalf (n : Nat) : Bool :=
  0xd800 ≤ n && n ≤ 0xdbff

/-- Whether a number is the second half of a pair. -/
def isLowHalf (n : Nat) : Bool :=
  0xdc00 ≤ n && n ≤ 0xdfff

/-- Reads an octet that must continue an escape. -/
def continueEscape (expected : UInt8) : Reader Unit := do
  let b ← peekInText
  advance
  if b ≠ expected then failHere .endOfEscape

/-- Reads a character that is escaped as a number or as two. -/
def readCodePoint : Reader Char := do
  let n ← readHex
  if isLowHalf n then failHere .loneSurrogate
  if !isHighHalf n then return Char.ofNat n
  continueEscape backslash
  continueEscape numberMark
  let m ← readHex
  if !isLowHalf m then failHere .loneSurrogate
  return Char.ofNat ((n - 0xd800) * 0x400 + (m - 0xdc00) + 0x10000)

/-- Reads an escape after its backslash. -/
def readEscape : Reader (List UInt8) := do
  let b ← nextInText
  match letterEscapes.lookup b with
  | some meant => return [meant]
  | none =>
    if b = numberMark then return DohRelay.Text.utf8 [← readCodePoint]
    else failHere .invalidEscape

/-- Reads a text with at most `fuel` escapes up to its last quote, after the parts already read. -/
def readFrom (parts : List (List UInt8)) : Nat → Reader (List UInt8)
  | 0 => failHere .endInText
  | fuel + 1 => do
    let plain ← takeWhile isPlain
    let b ← peekInText
    if b = quote then return (plain :: parts).reverse.flatten
    advance
    if b = backslash then
      let escaped ← readEscape
      readFrom (escaped :: plain :: parts) fuel
    else failHere .controlCharacter

/-- Reads a text after its first quote. -/
def read : Reader (List Char) := do
  let octets ← readFrom [] (← bound)
  match DohRelay.Text.utf8Decode? octets with
  | some s => advance; return s
  | none => failHere .invalidCodePoint

/-! ### Moving over a text -/

/-- Moves over an escape after its backslash. -/
def skipEscape : Reader Unit := do
  let b ← nextInText
  if b = numberMark then
    let _ ← readHex
  else if (letterEscapes.lookup b).isNone then failHere .invalidEscape

/-- Moves over the rest of a text that has at most `fuel` escapes. -/
def skipFrom : Nat → Reader Unit
  | 0 => failHere .endInText
  | fuel + 1 => do
    let _ ← takeWhile isPlain
    let b ← peekInText
    if b = quote then advance
    else if b = backslash then
      advance
      skipEscape
      skipFrom fuel
    else failHere .controlCharacter

/-- Moves over a text after its first quote. -/
def skip : Reader Unit := do
  skipFrom (← bound)

end DohRelay.Document.Text
