import DohRelay.Dns.Wire.Reader

/-!
# Sets of types

A set of record types travels as blocks: the upper octet that some types share, the length of a map
of bits, and the map, in which each type of the block has a bit.

## Main definitions

* `TypeSet.read` — the types of a number of octets.
* `TypeSet.bytes` — the blocks of some types, each as short as it can be, by ascending upper octet.
-/

namespace DohRelay.Dns.TypeSet

/-- The positions of the bits set in an octet, from the most significant. -/
def bitsOf (b : UInt8) : List Nat :=
  (List.range 8).filter fun i => (b.toNat >>> (7 - i)) % 2 = 1

/-- The types of one octet of a map, `done` octets into the block with the given upper octet. -/
def typesOf (upper : UInt8) (done : Nat) (b : UInt8) : Except Fault (List UInt16) :=
  if bitsOf b = [] ∨ done < 32 then
    .ok ((bitsOf b).map fun i => UInt16.ofNat (upper.toNat * 256 + done * 8 + i))
  else .error .typeBlockTooLong

/-- Reads the octets of one map, of which `done` have been read and `left` are left, and then
further blocks, with `n` octets in all. -/
def readBlocks : Nat → Option (UInt8 × Nat × Nat) → Reader (List UInt16)
  | 0, _ => return []
  | 1, none => do
    let _ ← Reader.octet
    return []
  | n + 2, none => do
    let upper ← Reader.octet
    let length ← Reader.octet
    readBlocks n (some (upper, 0, length.toNat))
  | n + 1, some (upper, done, left) => do
    let b ← Reader.octet
    let types ← Reader.ofExcept (typesOf upper done b)
    if left = 0 then Reader.fail .typeBlockEmpty
    let rest ← readBlocks n (if left = 1 then none else some (upper, done + 1, left - 1))
    return types ++ rest

/-- The types of `n` octets of blocks.  A map that is cut off counts as far as it goes. -/
def read (n : Nat) : Reader (List UInt16) :=
  readBlocks n none

/-- The octet of a map in which the given lower octets have their bits, at position `i`. -/
def mapOctet (lowers : List Nat) (i : Nat) : UInt8 :=
  (List.range 8).foldl (fun octet k =>
    if lowers.contains (i * 8 + k) then octet ||| ((0x80 : UInt8) >>> UInt8.ofNat k) else octet) 0

/-- The block of the types with the given upper octet. -/
def block (types : List Nat) (upper : Nat) : List UInt8 :=
  let lowers := (types.filter (· / 256 = upper)).map (· % 256)
  match lowers.max? with
  | none => []
  | some greatest =>
    let length := greatest / 8 + 1
    UInt8.ofNat upper :: UInt8.ofNat length :: (List.range length).map (mapOctet lowers)

/-- The blocks of some types. -/
def bytes (types : List UInt16) : List UInt8 :=
  (List.range 256).flatMap (block (types.map UInt16.toNat))

end DohRelay.Dns.TypeSet
