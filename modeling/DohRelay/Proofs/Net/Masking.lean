import DohRelay.Net.Network

/-!
# Networks, bit by bit

Setting the bits of the host to zero leaves the leading bits of an address as they are, so a network
that is truncated tells these and nothing else: two addresses are in the same network just if they
have the same leading bits.

## Main definitions

* `Ip.bit` — a bit of an address, counted from the left.
* `Ip.Agree` — two addresses of one family begin with the same bits.
* `Network.Shows` — a network tells the leading bits of an address and no others.

## Main results

* `Ip.bit_leading` — what is left of an address.
* `Network.shows_truncated`, `Network.shows_iff` — **a truncated network shows the leading bits**,
  and no other network does.
* `Network.truncated_eq_iff` — **it is the same for two addresses just if they agree in these.**
-/

namespace DohRelay.Net

/-! ### Bits -/

/-- The bits from the left stay, and the others are zero. -/
theorem getMsbD_leadingBits {width : Nat} (n i : Nat) (bits : BitVec width) :
    (leadingBits width n bits).getMsbD i = (decide (i < n) && bits.getMsbD i) := by
  rw [leadingBits, BitVec.getMsbD_shiftLeft, BitVec.getMsbD_ushiftRight]
  by_cases hwidth : width ≤ i
  · rw [BitVec.getMsbD_of_ge bits i hwidth, Bool.and_false]
    have hout : decide (i + (width - n) < width) = false := decide_eq_false (by omega)
    rw [hout, Bool.false_and]
  · have hin : decide (i + (width - n) < width) = decide (i < n) :=
      decide_eq_decide.mpr (by omega)
    have hshift : decide (i + (width - n) < width - n) = false := decide_eq_false (by omega)
    rw [hin, hshift, Bool.not_false, Bool.true_and, Nat.add_sub_cancel]

namespace Ip

/-- The bit of an address at a place, counted from the left; there are none beyond its end. -/
def bit : Ip → Nat → Bool
  | v4 a, i => a.bits.getMsbD i
  | v6 a, i => a.bits.getMsbD i

/-- Two addresses are of one family, and the first bits of them are the same. -/
structure Agree (n : Nat) (a b : Ip) : Prop where
  /-- They are of one family. -/
  width : a.width = b.width
  /-- The bits at the first places are the same. -/
  bit : ∀ i < n, a.bit i = b.bit i

variable {a b : Ip} {n : Nat}

/-- The leading bits of an address stay, and the others are zero. -/
@[simp] theorem bit_leading (n : Nat) (a : Ip) (i : Nat) :
    (a.leading n).bit i = (decide (i < n) && a.bit i) := by
  cases a <;> exact getMsbD_leadingBits n i _

/-- An address is its bits. -/
theorem eq_of_bit (hwidth : a.width = b.width) (h : ∀ i, a.bit i = b.bit i) : a = b := by
  cases a with
  | v4 a =>
    cases b with
    | v4 b => exact congrArg (v4 ⟨·⟩) (BitVec.eq_of_getMsbD_eq fun i _ => h i)
    | v6 b => cases hwidth
  | v6 a =>
    cases b with
    | v4 b => cases hwidth
    | v6 b => exact congrArg (v6 ⟨·⟩) (BitVec.eq_of_getMsbD_eq fun i _ => h i)

/-- What is left of two addresses is the same just if they agree. -/
theorem leading_eq_iff : a.leading n = b.leading n ↔ Agree n a b := by
  constructor
  · intro h
    refine ⟨by simpa using congrArg width h, fun i hi => ?_⟩
    simpa [hi] using congrArg (bit · i) h
  · intro h
    refine eq_of_bit (by simpa using h.width) fun i => ?_
    by_cases hi : i < n
    · simp [h.bit i hi]
    · simp [hi]

/-- Nothing more is set to zero of what is left. -/
@[simp] theorem leading_leading (n : Nat) (a : Ip) : (a.leading n).leading n = a.leading n :=
  leading_eq_iff.mpr ⟨by simp, fun i hi => by simp [hi]⟩

end Ip

/-! ### Networks -/

namespace Network

/-- A network tells the first bits of an address, and all other bits of its own address are zero. -/
structure Shows (net : Network) (n : Nat) (a : Ip) : Prop where
  /-- The network is as long as that, -/
  length_eq : net.length = n
  /-- the address belongs to it, -/
  contains : net.contains a = true
  /-- and it has no further bits. -/
  bit_eq : ∀ i, n ≤ i → net.address.bit i = false

variable {net other : Network} {a : Ip}

/-- The members of a network are those that agree with its address. -/
theorem contains_iff : net.contains a = true ↔ Ip.Agree net.length a net.address := by
  rw [contains, Bool.and_eq_true, beq_iff_eq, beq_iff_eq, Ip.leading_eq_iff]
  exact ⟨And.right, fun h => ⟨h.width, h⟩⟩

/-- **A truncated network shows the leading bits** of the address that it was made of. -/
theorem shows_truncated (net : Network) : net.truncated.Shows net.length net.address where
  length_eq := rfl
  contains := contains_iff.mpr ⟨(Ip.width_leading _ _).symm, fun i hi => by
    have hlt : i < net.length := hi
    simp [truncated, hlt]⟩
  bit_eq i hi := by simp [truncated, Nat.not_lt.mpr hi]

/-- No other network shows these bits. -/
theorem shows_iff : net.Shows other.length other.address ↔ net = other.truncated := by
  constructor
  · rintro ⟨hlength, hcontains, hbits⟩
    have hagree := contains_iff.mp hcontains
    rw [hlength] at hagree
    refine ext_iff.mpr ⟨hlength, Ip.eq_of_bit ?_ fun i => ?_⟩
    · rw [← hagree.width]
      exact (Ip.width_leading _ _).symm
    · by_cases hi : i < other.length
      · simp [truncated, hi, hagree.bit i hi]
      · simp [truncated, hi, hbits i (Nat.not_lt.mp hi)]
  · rintro rfl
    exact shows_truncated other

/-- **Truncated networks are the same** just if they are as long and their addresses agree in so
many bits. -/
theorem truncated_eq_iff : net.truncated = other.truncated ↔
    net.length = other.length ∧ Ip.Agree net.length net.address other.address := by
  rw [ext_iff]
  constructor
  · rintro ⟨hlength, haddress⟩
    have hlength : net.length = other.length := hlength
    change net.address.leading net.length = other.address.leading other.length at haddress
    rw [← hlength] at haddress
    exact ⟨hlength, Ip.leading_eq_iff.mp haddress⟩
  · rintro ⟨hlength, hagree⟩
    refine ⟨hlength, ?_⟩
    change net.address.leading net.length = other.address.leading other.length
    rw [← hlength]
    exact Ip.leading_eq_iff.mpr hagree

/-- A truncated network stays as it is. -/
@[simp] theorem truncated_truncated (net : Network) : net.truncated.truncated = net.truncated :=
  ext_iff.mpr ⟨rfl, Ip.leading_leading _ _⟩

end Network

end DohRelay.Net
