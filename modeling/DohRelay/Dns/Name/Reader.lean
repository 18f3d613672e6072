import DohRelay.Dns.Wire.Reader

/-!
# Names on the wire, read

A name is its labels, each with a length octet before it, and a zero octet; or a pointer to the rest
of it, which must lie before the labels at hand.  The labels that a pointer leads to must end before
the labels that the pointer stands after, so no octet is read twice and reading comes to an end.

## Main definitions

* `Name.readLabels` — the labels of a stretch of octets and of all it points to.
* `Reader.name` — the reader of a name.
-/

namespace DohRelay.Dns

/-- A pointer has the two upper bits of its first octet set. -/
def isPointerOctet (b : UInt8) : Bool :=
  b &&& 0xc0 == 0xc0

/-- A length octet has neither of its two upper bits set. -/
def isLengthOctet (b : UInt8) : Bool :=
  b &&& 0xc0 == 0

/-- The labels of a name so far, with one more read after them. -/
def Name.extend (labels : List Label) (bytes : List UInt8) : Except Fault (List Label) :=
  match Label.ofBytes? bytes with
  | none => .error (.labelCode 0)
  | some label =>
    if sizeOfLabels labels + (bytes.length + 1) > maxLength then .error (.nameTooLong bytes.length)
    else .ok (labels ++ [label])

/-- Reads the labels at `p` after those already known.  The stretch of labels at hand began at
`start`, and must end before `limit` if something points to it.  The outcome comes with the position
behind the name. -/
def Name.readFrom (message : Array UInt8) (start : Nat) (limit : Option Nat) (known : List Label)
    (p : Nat) : EStateM.Result Fault Nat (List Label) :=
  if limit.any (· ≤ p) then .error (.overlap start (limit.getD 0)) p
  else if Name.length ⟨known⟩ ≥ maxLength then .error (.nameTooLong (Name.length ⟨known⟩)) p
  else
    match _h : message[p]? with
    | none => .error .endOfInput p
    | some b =>
      if b = 0 then .ok known (p + 1)
      else if isPointerOctet b then
        match message[p + 1]? with
        | none => .error .endOfInput p
        | some c =>
          let target := (b &&& 0x3f).toNat * 256 + c.toNat
          if target < start then
            match readFrom message target (some start) known target with
            | .ok labels _ => .ok labels (p + 2)
            | .error fault _ => .error fault (p + 2)
          else .error (.pointerAhead p target) (p + 2)
      else if isLengthOctet b then
        let n := b.toNat
        if p + 1 + n ≤ message.size then
          match extend known (message.extract (p + 1) (p + 1 + n)).toList with
          | .ok known => readFrom message start limit known (p + 1 + n)
          | .error fault => .error fault (p + 1 + n)
        else .error .endOfInput (p + 1)
      else .error (.labelCode b) p
termination_by (start, message.size - p)
decreasing_by
  · exact Prod.Lex.left _ _ (by assumption)
  · have : p < message.size := by
      rw [Array.getElem?_eq_some_iff] at _h
      exact _h.1
    exact Prod.Lex.right _ (by omega)

/-- The reader of a name. -/
def Reader.name : Reader Name :=
  fun message p =>
    match Name.readFrom message p none [] p with
    | .ok labels p => .ok ⟨labels⟩ p
    | .error fault p => .error fault p

end DohRelay.Dns
