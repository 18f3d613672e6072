/-!
# UTF-8

The octets of a text, and reading texts from octets that may not be one.

## Main definitions

* `utf8` — the octets of a text.
* `utf8Char?` — the first character of some octets, if they begin with a whole one.
* `utf8Decode?` — the text that octets are, if they are one.
* `utf8DecodeLossy` — the text with every broken piece shown as the replacement character.
-/

namespace DohRelay.Text

/-- The octets of a text. -/
def utf8 (s : List Char) : List UInt8 :=
  s.flatMap String.utf8EncodeChar

/-- Whether an octet continues a character that another began. -/
def isContinuation (b : UInt8) : Bool :=
  b &&& 0xc0 == 0x80

/-- The six bits that a continuing octet carries. -/
def payload (b : UInt8) : Nat :=
  (b &&& 0x3f).toNat

/-- The octets that may follow the first octet of a character: how many continue it, and the range
of the first of those.  `none` where no character begins with the octet. -/
def following (b : UInt8) : Option (Nat × UInt8 × UInt8) :=
  if b < 0x80 then some (0, 0x80, 0xbf)
  else if b < 0xc2 then none
  else if b < 0xe0 then some (1, 0x80, 0xbf)
  else if b = 0xe0 then some (2, 0xa0, 0xbf)
  else if b = 0xed then some (2, 0x80, 0x9f)
  else if b < 0xf0 then some (2, 0x80, 0xbf)
  else if b = 0xf0 then some (3, 0x90, 0xbf)
  else if b < 0xf4 then some (3, 0x80, 0xbf)
  else if b = 0xf4 then some (3, 0x80, 0x8f)
  else none

/-- The first character of some octets, with how many octets it takes; or, where they do not begin
with one, how many octets are the broken piece. -/
def utf8Char? : List UInt8 → Except Nat (Char × Nat)
  | [] => .error 0
  | b :: rest =>
    match following b, rest with
    | none, _ => .error 1
    | some (0, _, _), _ => .ok (Char.ofNat b.toNat, 1)
    | some (_, _, _), [] => .error 1
    | some (n, lo, hi), c :: rest =>
      if c < lo || hi < c then .error 1
      else match n, rest with
        | 1, _ => .ok (Char.ofNat ((b &&& 0x1f).toNat * 64 + payload c), 2)
        | _, [] => .error 2
        | 2, d :: _ =>
          if isContinuation d then
            .ok (Char.ofNat (((b &&& 0x0f).toNat * 64 + payload c) * 64 + payload d), 3)
          else .error 2
        | _, d :: rest =>
          if isContinuation d then
            match rest with
            | [] => .error 3
            | e :: _ =>
              if isContinuation e then
                .ok (Char.ofNat
                  ((((b &&& 0x07).toNat * 64 + payload c) * 64 + payload d) * 64 + payload e), 4)
              else .error 3
          else .error 2

/-- Reads characters until the octets end, handing every broken piece to `broken`. -/
def utf8DecodeWith (broken : Option Char) : Nat → List UInt8 → Option (List Char)
  | 0, _ => some []
  | _, [] => some []
  | fuel + 1, bytes =>
    match utf8Char? bytes, broken with
    | .ok (c, n), _ => (utf8DecodeWith broken fuel (bytes.drop n)).map (c :: ·)
    | .error n, some c => (utf8DecodeWith broken fuel (bytes.drop n)).map (c :: ·)
    | .error _, none => none

/-- The text that some octets are, if they are the octets of one. -/
def utf8Decode? (bytes : List UInt8) : Option (List Char) :=
  utf8DecodeWith none bytes.length bytes

/-- The text of some octets, with the replacement character for every broken piece. -/
def utf8DecodeLossy (bytes : List UInt8) : List Char :=
  (utf8DecodeWith (some '\ufffd') bytes.length bytes).getD []

@[simp] theorem utf8_nil : utf8 [] = [] := rfl

@[simp] theorem utf8_append (s t : List Char) : utf8 (s ++ t) = utf8 s ++ utf8 t := by
  simp [utf8]

end DohRelay.Text
