import DohRelay.Net.Ip.Parser

/-!
# Networks

A network is an address and the number of leading bits that its members share with it.  The other
bits of the address, those of the host, are zero in a truncated network.

## Main definitions

* `Network` — the type.
* `Network.truncated` — the network with the bits of the host set to zero.
* `Network.contains` — membership of an address.
* `Network.text`, `Network.parse` — the text form, written and read.
-/

namespace DohRelay.Net

/-- The bits of a number from the left, `n` of `width`, the others set to zero. -/
def leadingBits (width n : Nat) (bits : BitVec width) : BitVec width :=
  (bits >>> (width - n)) <<< (width - n)

/-- The address with all but the `n` leading bits set to zero. -/
def Ip.leading (n : Nat) : Ip → Ip
  | v4 a => v4 ⟨leadingBits 32 n a.bits⟩
  | v6 a => v6 ⟨leadingBits 128 n a.bits⟩

/-- An address and the number of its leading bits that matter. -/
structure Network where
  /-- The address. -/
  address : Ip
  /-- How many leading bits matter. -/
  length : Nat
  /-- There are no more bits than the address has. -/
  length_le : length ≤ address.width
  deriving DecidableEq, Repr

@[simp] theorem Ip.width_leading (n : Nat) (a : Ip) : (a.leading n).width = a.width := by
  cases a <;> rfl

namespace Network

/-- The network with the bits of the host set to zero. -/
def truncated (net : Network) : Network where
  address := net.address.leading net.length
  length := net.length
  length_le := by simpa using net.length_le

/-- Whether an address belongs to a network. -/
def contains (net : Network) (a : Ip) : Bool :=
  a.width == net.address.width && a.leading net.length == net.address.leading net.length

/-- The text of a network: the address, a slash and the number of bits. -/
def text (net : Network) : List Char :=
  net.address.text ++ '/' :: Nat.toDigits 10 net.length

/-- The network of an address and a number of bits, if it has so many. -/
def of? (a : Ip) (length : Nat) : Option Network :=
  if h : length ≤ a.width then some ⟨a, length, h⟩ else none

/-- A network of the older family at the start of a text. -/
def readV4 (s : List Char) : Option (Network × List Char) := do
  let (a, s) ← readIpv4 .lenient s
  let (length, s) ← readNumber 10 (some 2) 33 true (← readChar '/' s)
  return (← of? (.v4 a) length, s)

/-- A network of the newer family at the start of a text. -/
def readV6 (s : List Char) : Option (Network × List Char) := do
  let (a, s) ← readIpv6 .lenient s
  let (length, s) ← readNumber 10 (some 3) 129 true (← readChar '/' s)
  return (← of? (.v6 a) length, s)

/-- The network that a text is.  Addresses of networks are read by the lenient grammar. -/
def parse (s : List Char) : Option Network :=
  whole (readV4 s <|> readV6 s)

variable {net other : Network}

/-- Networks are the same if they are as long and have the same address. -/
theorem ext_iff : net = other ↔ net.length = other.length ∧ net.address = other.address := by
  cases net
  cases other
  rw [mk.injEq, and_comm]

/-- The length of a network fits an octet. -/
theorem toNat_length (net : Network) : (UInt8.ofNat net.length).toNat = net.length := by
  have hwidth : net.address.width ≤ 128 := by
    cases net.address with
    | v4 => exact (by decide : 32 ≤ 128)
    | v6 => exact Nat.le_refl 128
  have hle : net.length ≤ 128 := Nat.le_trans net.length_le hwidth
  exact UInt8.toNat_ofNat_of_lt' (Nat.lt_of_le_of_lt hle (by decide))

end Network

end DohRelay.Net
