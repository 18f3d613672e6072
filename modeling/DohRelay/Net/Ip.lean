/-!
# Internet addresses

Addresses of both families as numbers, with the octets they are made of and their text.

## Main definitions

* `Ipv4`, `Ipv6`, `Ip` — the types.
* `Ipv4.bytes`, `Ipv6.bytes` — the octets, most significant first.
* `Ipv4.text`, `Ipv6.text`, `Ip.text` — the text forms.
-/

namespace DohRelay.Net

/-- An address of 32 bits. -/
structure Ipv4 where
  /-- The bits of the address. -/
  bits : BitVec 32
  deriving DecidableEq, Repr

/-- An address of 128 bits. -/
structure Ipv6 where
  /-- The bits of the address. -/
  bits : BitVec 128
  deriving DecidableEq, Repr

/-- An address of either family. -/
inductive Ip
  /-- An address of the older family. -/
  | v4 (a : Ipv4)
  /-- An address of the newer family. -/
  | v6 (a : Ipv6)
  deriving DecidableEq, Repr

/-! ### Octets and groups -/

/-- The number that some digits write, most significant first. -/
def ofDigits (base : Nat) (ds : List Nat) : Nat :=
  ds.foldl (fun n d => n * base + d) 0

/-- The `count` lowest digits of a number, most significant first. -/
def toDigits (base : Nat) : Nat → Nat → List Nat
  | 0, _ => []
  | count + 1, n => toDigits base count (n / base) ++ [n % base]

/-- The address that some octets make. -/
def Ipv4.ofBytes (bytes : List UInt8) : Ipv4 :=
  ⟨BitVec.ofNat 32 (ofDigits 256 (bytes.map UInt8.toNat))⟩

/-- The four octets of an address. -/
def Ipv4.bytes (a : Ipv4) : List UInt8 :=
  (toDigits 256 4 a.bits.toNat).map UInt8.ofNat

/-- The address that some octets make. -/
def Ipv6.ofBytes (bytes : List UInt8) : Ipv6 :=
  ⟨BitVec.ofNat 128 (ofDigits 256 (bytes.map UInt8.toNat))⟩

/-- The sixteen octets of an address. -/
def Ipv6.bytes (a : Ipv6) : List UInt8 :=
  (toDigits 256 16 a.bits.toNat).map UInt8.ofNat

/-- The address that some groups of sixteen bits make. -/
def Ipv6.ofGroups (groups : List Nat) : Ipv6 :=
  ⟨BitVec.ofNat 128 (ofDigits 0x10000 groups)⟩

/-- The eight groups of sixteen bits of an address. -/
def Ipv6.groups (a : Ipv6) : List Nat :=
  toDigits 0x10000 8 a.bits.toNat

/-! ### Text -/

/-- The decimal octets of an address with dots between them. -/
def Ipv4.text (a : Ipv4) : List Char :=
  List.intercalate ['.'] (a.bytes.map fun b => Nat.toDigits 10 b.toNat)

/-- The hexadecimal groups with colons between them. -/
def groupsText (groups : List Nat) : List Char :=
  List.intercalate [':'] (groups.map (Nat.toDigits 16))

/-- The first of the longest runs of zeros in a list: where it starts and how long it is.  `run` is
the length of the run that ends before the list, which stands at `position`. -/
def longestZeros (best : Nat × Nat) (position run : Nat) : List Nat → Nat × Nat
  | [] => best
  | g :: rest =>
    if g = 0 then
      let run := run + 1
      let best := if run > best.2 then (position + 1 - run, run) else best
      longestZeros best (position + 1) run rest
    else longestZeros best (position + 1) 0 rest

/-- The groups of an address in hexadecimal: the first of the longest runs of two or more zero
groups is left out between two colons. -/
def Ipv6.hexText (a : Ipv6) : List Char :=
  let groups := a.groups
  let (start, count) := longestZeros (0, 0) 0 0 groups
  if count > 1 then
    groupsText (groups.take start) ++ [':', ':'] ++ groupsText (groups.drop (start + count))
  else groupsText groups

/-- The text of an address: its groups, except that an address that stands for one of the older
family shows that one at its end. -/
def Ipv6.text (a : Ipv6) : List Char :=
  if a.bits.toNat / 0x100000000 = 0xffff then
    [':', ':', 'f', 'f', 'f', 'f', ':'] ++ Ipv4.text ⟨BitVec.ofNat 32 a.bits.toNat⟩
  else a.hexText

/-- The text of an address of either family. -/
def Ip.text : Ip → List Char
  | v4 a => a.text
  | v6 a => a.text

/-- The number of bits of an address of the family. -/
def Ip.width : Ip → Nat
  | v4 _ => 32
  | v6 _ => 128

@[simp] theorem length_toDigits (base count n : Nat) : (toDigits base count n).length = count := by
  induction count generalizing n with
  | zero => rfl
  | succ count ih => simp [toDigits, ih]

@[simp] theorem Ipv4.length_bytes (a : Ipv4) : a.bytes.length = 4 := by
  simp [Ipv4.bytes]

@[simp] theorem Ipv6.length_bytes (a : Ipv6) : a.bytes.length = 16 := by
  simp [Ipv6.bytes]

end DohRelay.Net
