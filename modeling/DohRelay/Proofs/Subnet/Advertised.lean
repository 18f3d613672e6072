import DohRelay.Exchange.Wire
import DohRelay.Proofs.Net.Grammar
import DohRelay.Proofs.Net.Masking
import DohRelay.Subnet.Mode

/-!
# The networks that are advertised

Whether a network was detected or given, what is advertised shows the leading bits of an address and
nothing else of it: those of a detected address up to a fixed place, and those of a network in the
configuration as far as it says.

## Main definitions

* `Wire.Reveals` — a message tells the leading bits of an address and no others.

## Main results

* `Subnet.Mode.parse_eq_fixed_iff` — a text is taken as a network just if it is one.
* `Subnet.Mode.parse_text` — what is taken is taken again as it is.
* `Wire.reveals_advertising` — the option tells what the network shows.
* `Subnet.leading_bits_are_advertised` — **only the leading bits are advertised.**
-/

namespace DohRelay

open Net

/-! ### The option -/

/-- The option of a message tells a number of bits, so many first bits of an address, and zeros. -/
def Wire.Reveals (m : Dns.Message) (n : Nat) (a : Ip) : Prop :=
  ∃ edns option, m.edns = some edns ∧ edns.options.subnet = some option ∧
    option.source.toNat = n ∧ Ip.Agree n a option.address ∧
    ∀ i, n ≤ i → option.address.bit i = false

/-- A message that advertises a network tells what the network shows. -/
theorem Wire.reveals_advertising (m : Dns.Message) {net : Network} {n : Nat} {a : Ip}
    (h : net.Shows n a) : Reveals (advertising m net) n a := by
  obtain ⟨rfl, hcontains, hbits⟩ := h
  exact ⟨_, clientSubnet net, rfl, rfl, net.toNat_length, Network.contains_iff.mp hcontains, hbits⟩

namespace Subnet

/-! ### Detected networks -/

/-- A detected address has enough bits, so there always is a network to truncate. -/
theorem ofAddress_eq (a : Ip) :
    ∃ net, Network.of? a (detectedLength a) = some net ∧ ofAddress a = net.truncated :=
  ⟨⟨a, detectedLength a, detectedLength_le a⟩, dif_pos (detectedLength_le a), rfl⟩

/-- The network of a detected address shows its first bits. -/
theorem shows_ofAddress (a : Ip) : (ofAddress a).Shows (detectedLength a) a :=
  Network.shows_truncated _

/-- Addresses of one family have as many bits advertised. -/
theorem detectedLength_congr {a b : Ip} (h : a.width = b.width) :
    detectedLength a = detectedLength b := by
  cases a <;> cases b <;> first | rfl | cases h

/-- Two addresses have the same network just if they agree in the bits that are advertised. -/
theorem ofAddress_eq_iff {a b : Ip} :
    ofAddress a = ofAddress b ↔ Ip.Agree (detectedLength a) a b := by
  rw [ofAddress, ofAddress, Network.truncated_eq_iff]
  exact ⟨And.right, fun h => ⟨detectedLength_congr h.width, h⟩⟩

/-! ### Given networks -/

namespace Mode

variable {s lookupUrl : String} {refresh : Option Nat} {net : Network}

/-- There is a slash in a network. -/
theorem ne_of_literal {word : String} (hword : '/' ∉ word.toList)
    (h : Network.Literal s.toList net) : s ≠ word := by
  rintro rfl
  obtain ⟨address, digits, hs, -⟩ := h
  rw [hs] at hword
  exact hword (List.mem_append_right _ List.mem_cons_self)

/-- A text is taken as a network just if it is one, without the bits of the host. -/
theorem parse_eq_fixed_iff : parse s lookupUrl refresh = .ok (.fixed net) ↔
    ∃ given, Network.Literal s.toList given ∧ net = given.truncated := by
  constructor
  · intro h
    unfold parse at h
    split at h
    case isTrue => cases h
    case isFalse =>
      split at h
      case isTrue => cases h
      case isFalse =>
        split at h
        case h_1 given hgiven =>
          cases h
          exact ⟨given, Network.parse_eq_some_iff.mp hgiven, rfl⟩
        case h_2 => cases h
  · rintro ⟨given, hgiven, rfl⟩
    rw [parse, if_neg (ne_of_literal (by decide) hgiven), if_neg (ne_of_literal (by decide) hgiven),
      Network.parse_eq_some_iff.mpr hgiven]

/-- The text of a truncated network is taken as that network, -/
theorem parse_text (hnet : net.truncated = net) (lookupUrl : String) (refresh : Option Nat) :
    parse (String.ofList net.text) lookupUrl refresh = .ok (.fixed net) := by
  refine parse_eq_fixed_iff.mpr ⟨net, ?_, hnet.symm⟩
  rw [String.toList_ofList]
  exact Network.parse_eq_some_iff.mp net.parse_text

end Mode

/-! ### Whatever is advertised -/

/-- **Only the leading bits are advertised.**  The network of a detected address shows the first 24
or 56 bits; there always is one, and it is the same for two addresses just if they agree in these
bits.  A text of the configuration is taken as the network that shows as many bits as it says of the
address that it says, and the text of that network is taken as the same again.  The option of a
message tells what the network shows that it advertises. -/
theorem leading_bits_are_advertised :
    (∀ a : Ipv4, (ofAddress (.v4 a)).Shows 24 (.v4 a)) ∧
    (∀ a : Ipv6, (ofAddress (.v6 a)).Shows 56 (.v6 a)) ∧
    (∀ a, ∃ net, Network.of? a (detectedLength a) = some net ∧ ofAddress a = net.truncated) ∧
    (∀ a b, ofAddress a = ofAddress b ↔ Ip.Agree (detectedLength a) a b) ∧
    (∀ s lookupUrl refresh net, Mode.parse s lookupUrl refresh = .ok (.fixed net) ↔
      ∃ given, Network.Literal s.toList given ∧ net.Shows given.length given.address) ∧
    (∀ s lookupUrl refresh net, Mode.parse s lookupUrl refresh = .ok (.fixed net) →
      ∀ lookupUrl' refresh',
        Mode.parse (String.ofList net.text) lookupUrl' refresh' = .ok (.fixed net)) ∧
    ∀ net n a, net.Shows n a → ∀ m, Wire.Reveals (Wire.advertising m net) n a := by
  refine ⟨fun a => shows_ofAddress (.v4 a), fun a => shows_ofAddress (.v6 a), ofAddress_eq,
    fun a b => ofAddress_eq_iff, ?_, ?_, ?_⟩
  · intro s lookupUrl refresh net
    simp only [Mode.parse_eq_fixed_iff, Network.shows_iff]
  · intro s lookupUrl refresh net h lookupUrl' refresh'
    obtain ⟨given, -, rfl⟩ := Mode.parse_eq_fixed_iff.mp h
    exact Mode.parse_text given.truncated_truncated lookupUrl' refresh'
  · intro net n a h m
    exact Wire.reveals_advertising m h

/-- A network of the configuration, with bits of the host, and its address after that. -/
theorem leading_bits_are_advertised_given :
    Mode.parse "66.66.66.66/20" defaultLookupUrl none =
      .ok (.fixed ⟨.v4 ⟨0x42424000⟩, 20, by decide⟩) ∧
    Mode.parse "66.66.64.0/20" defaultLookupUrl none =
      .ok (.fixed ⟨.v4 ⟨0x42424000⟩, 20, by decide⟩) ∧
    Wire.Reveals (Wire.advertising Dns.Message.empty ⟨.v4 ⟨0x42424000⟩, 20, by decide⟩) 20
      (.v4 ⟨0x42424242⟩) := by
  obtain ⟨-, -, -, -, hgiven, hagain, hreveals⟩ := leading_bits_are_advertised
  have hliteral : Network.Literal "66.66.66.66/20".toList ⟨.v4 ⟨0x42424242⟩, 20, by decide⟩ :=
    Network.parse_eq_some_iff.mp (by decide)
  have hshows : Network.Shows ⟨.v4 ⟨0x42424000⟩, 20, by decide⟩ 20 (.v4 ⟨0x42424242⟩) :=
    Network.shows_truncated ⟨.v4 ⟨0x42424242⟩, 20, by decide⟩
  have htaken := (hgiven "66.66.66.66/20" defaultLookupUrl none _).mpr ⟨_, hliteral, hshows⟩
  exact ⟨htaken, hagain _ _ _ _ htaken _ _, hreveals _ _ _ hshows _⟩

end Subnet

end DohRelay
