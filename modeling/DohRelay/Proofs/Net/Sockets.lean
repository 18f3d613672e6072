import DohRelay.Net.SocketAddr
import DohRelay.Proofs.Net.Grammar

/-!
# Addresses with ports, read

An address of the older family stands before a colon and a port as it is.  One of the newer has
colons itself, so it stands in brackets, where the number of a link may follow it.  Before the mark
behind it each address is read as if the text ended there; a text is therefore an address with a
port just if it is made of these parts, and the text that is written for one is read as that one.

## Main definitions

* `SocketAddr.WritesLink` — a text is what is written of a link.
* `SocketAddr.Literal` — a text is an address with a port.

## Main results

* `SocketAddr.parse_eq_some_iff` — **a text is read as an address with a port just if it is one.**
* `SocketAddr.literal_text_v4`, `SocketAddr.literal_text_v6` — **an address with a port is read as
  it was written.**
-/

namespace DohRelay.Net

theorem readChar_self (c : Char) (s : List Char) : readChar c (c :: s) = some s :=
  if_pos rfl

theorem names_v4_iff {g : Grammar} {s : List Char} {ip : Ipv4} :
    Names g s (.v4 ip) ↔ readIpv4 g s = some (ip, []) := by
  constructor
  · rintro (h | _)
    exact h
  · exact .v4

theorem names_v6_iff {g : Grammar} {s : List Char} {ip : Ipv6} :
    Names g s (.v6 ip) ↔ readIpv6 g s = some (ip, []) := by
  constructor
  · rintro (_ | h)
    exact h
  · exact .v6

/-- The text of an address is that address. -/
theorem names_text (ip : Ip) : Names .strict ip.text ip := by
  cases ip with
  | v4 ip =>
    have hread := readIpv4_text (g := .strict) ip (noDigit_nil 10)
    rw [List.append_nil] at hread
    exact .v4 hread
  | v6 ip =>
    have hread := readIpv6_text (g := .strict) ip (Nat.le_refl 1) endsGroups_nil
    rw [List.append_nil] at hread
    exact .v6 hread

/-- No address of the older family begins with a bracket. -/
theorem readIpv4_bracket {g : Grammar} (s : List Char) : readIpv4 g ('[' :: s) = none := by
  rw [← List.nil_append ('[' :: s)]
  exact readIpv4_eq_none (fun _ hc => absurd hc List.not_mem_nil) (noDigit_cons.mpr rfl) (by simp)

/-- A number is written by its digits. -/
theorem writes_toDigits (n : Nat) : Writes 10 none (Nat.toDigits 10 n) n where
  ne_nil := Nat.toDigits_ne_nil
  digits _ := isSome_of_mem_toDigits (by decide) (by decide)
  length_le := nofun
  value := numberIn_toDigits (by decide) (by decide) n

namespace SocketAddr

variable {s : List Char} {port : UInt16} {link : UInt32}

/-! ### Ports and links -/

/-- A text is what is written of a link: nothing, or its number behind a percent sign. -/
inductive WritesLink : List Char → UInt32 → Prop
  /-- There is no link. -/
  | none : WritesLink [] 0
  /-- There is a number. -/
  | number {digits : List Char} {link : UInt32} (h : Writes 10 none digits link.toNat) :
      WritesLink ('%' :: digits) link

/-- A port behind a colon is read up to the end just if its digits write it. -/
theorem readPort_eq_some_nil : readPort s = some (port, []) ↔
    ∃ digits, s = ':' :: digits ∧ Writes 10 none digits port.toNat := by
  simp only [readPort, Option.bind_eq_bind, Option.bind_eq_some_iff, Prod.exists, Option.pure_def,
    Option.some.injEq, Prod.mk.injEq]
  constructor
  · rintro ⟨digits, hcolon, n, _, hnumber, rfl, rfl⟩
    obtain ⟨hwrites, hlt⟩ := readNumber_eq_some_nil.mp hnumber
    refine ⟨digits, readChar_eq_some hcolon, ?_⟩
    rwa [UInt16.toNat_ofNat_of_lt' hlt]
  · rintro ⟨digits, rfl, hwrites⟩
    exact ⟨digits, readChar_self _ _, port.toNat, [],
      readNumber_eq_some_nil.mpr ⟨hwrites, port.toNat_lt⟩, UInt16.ofNat_toNat, rfl⟩

/-- A link is read up to the end just if it is written. -/
theorem readScope_eq_nil : readScope s = (link, []) ↔ WritesLink s link := by
  unfold readScope
  constructor
  · intro h
    split at h
    case h_1 n rest hnumber =>
      simp only [Prod.mk.injEq] at h
      obtain ⟨rfl, rfl⟩ := h
      obtain ⟨digits, hpercent, hnumber⟩ := Option.bind_eq_some_iff.mp hnumber
      obtain ⟨hwrites, hlt⟩ := readNumber_eq_some_nil.mp hnumber
      rw [readChar_eq_some hpercent]
      refine .number ?_
      rwa [UInt32.toNat_ofNat_of_lt' hlt]
    case h_2 =>
      simp only [Prod.mk.injEq] at h
      obtain ⟨rfl, rfl⟩ := h
      exact .none
  · intro h
    cases h with
    | none => rfl
    | number hwrites =>
      have hlt : link.toNat < UInt32.size := link.toNat_lt
      rw [readChar_self, Option.bind_some, readNumber_eq_some_nil.mpr ⟨hwrites, hlt⟩]
      exact congrArg (·, []) UInt32.ofNat_toNat

/-- Links stop at a bracket. -/
theorem stops_readScope : Stops ']' fun s => some (readScope s) := by
  have hbracket : digitIn? 10 ']' = none := rfl
  have hnumber := (stops_readNumber hbracket none UInt32.size true).map UInt32.ofNat
  have hread : (fun s => some (readScope s)) = fun s =>
      ((readChar '%' s).bind fun s => (readNumber 10 none UInt32.size true s).map fun n =>
        (UInt32.ofNat n.1, n.2)).or (some (0, s)) := by
    funext s
    unfold readScope
    cases readChar '%' s with
    | none => rfl
    | some s =>
      simp only [Option.bind_some]
      cases readNumber 10 none UInt32.size true s <;> rfl
  rw [hread]
  exact (hnumber.afterChar (by decide)).orElse (.pure 0)

/-! ### Addresses -/

/-- A text is an address with a port. -/
inductive Literal : List Char → SocketAddr → Prop
  /-- The address is one of the older family. -/
  | v4 {address digits : List Char} {ip : Ipv4} {port : UInt16}
      (haddress : Names .strict address (.v4 ip)) (hport : Writes 10 none digits port.toNat) :
      Literal (address ++ ':' :: digits) (of (.v4 ip) port)
  /-- It is one of the newer, in brackets with what is written of its link. -/
  | v6 {address scope digits : List Char} {ip : Ipv6} {link : UInt32} {port : UInt16}
      (haddress : Names .strict address (.v6 ip)) (hscope : WritesLink scope link)
      (hport : Writes 10 none digits port.toNat) :
      Literal ('[' :: (address ++ scope ++ ']' :: ':' :: digits)) ⟨.v6 ip, port, link⟩

/-- An address of the older family is read with a port just if a colon stands between them. -/
theorem readV4_eq_some_nil {a : SocketAddr} : readV4 s = some (a, []) ↔
    ∃ address digits ip port, s = address ++ ':' :: digits ∧ Names .strict address (.v4 ip) ∧
      Writes 10 none digits port.toNat ∧ a = of (.v4 ip) port := by
  have hstops : Stops ':' (readIpv4 .strict) := stops_readIpv4 rfl (by decide)
  simp only [readV4, Option.bind_eq_bind, Option.bind_eq_some_iff, Prod.exists, Option.pure_def,
    Option.some.injEq, Prod.mk.injEq]
  constructor
  · rintro ⟨ip, t, haddress, port, _, hport, rfl, rfl⟩
    obtain ⟨digits, rfl, hwrites⟩ := readPort_eq_some_nil.mp hport
    obtain ⟨address, rfl, hused⟩ := hstops.eq_some_iff.mp haddress
    exact ⟨address, digits, ip, port, rfl, .v4 hused, hwrites, rfl⟩
  · rintro ⟨address, digits, ip, port, rfl, haddress, hwrites, rfl⟩
    exact ⟨ip, ':' :: digits, hstops.eq_some_iff.mpr ⟨address, rfl, names_v4_iff.mp haddress⟩, port,
      [], readPort_eq_some_nil.mpr ⟨digits, rfl, hwrites⟩, rfl, rfl⟩

/-- What stands in brackets is read: an address of the newer family, and its link. -/
def readScoped (s : List Char) : Option ((Ipv6 × UInt32) × List Char) :=
  (readIpv6 .strict s).bind fun (ip, s) =>
    (some (readScope s)).map fun (link, s) => ((ip, link), s)

theorem stops_readScoped : Stops ']' readScoped :=
  (stops_readIpv6 rfl (by decide) (by decide)).bind fun ip => stops_readScope.map (ip, ·)

/-- A link is read behind the address that it belongs to. -/
theorem readScoped_eq_some_nil {ip : Ipv6} : readScoped s = some ((ip, link), []) ↔
    ∃ address scope, s = address ++ scope ∧ Names .strict address (.v6 ip) ∧
      WritesLink scope link := by
  have hstops : Stops '%' (readIpv6 .strict) := stops_readIpv6 rfl (by decide) (by decide)
  simp only [readScoped, Option.bind_eq_some_iff, Option.map_eq_some_iff, Prod.exists,
    Option.some.injEq, Prod.mk.injEq, names_v6_iff]
  constructor
  · rintro ⟨_, t, haddress, _, _, hscope, ⟨rfl, rfl⟩, rfl⟩
    -- without a link the address is all of the text, and otherwise a percent sign ends it
    cases readScope_eq_nil.mp hscope with
    | none => exact ⟨s, [], (List.append_nil s).symm, haddress, .none⟩
    | number hwrites =>
      obtain ⟨address, rfl, hused⟩ := hstops.eq_some_iff.mp haddress
      exact ⟨address, _, rfl, hused, .number hwrites⟩
  · rintro ⟨address, scope, rfl, haddress, hscope⟩
    have hread : readIpv6 .strict (address ++ scope) = some (ip, scope) := by
      cases hscope with
      | none => rwa [List.append_nil]
      | number => exact hstops.eq_some_iff.mpr ⟨address, rfl, haddress⟩
    exact ⟨ip, scope, hread, link, [], readScope_eq_nil.mpr hscope, ⟨rfl, rfl⟩, rfl⟩

/-- An address of the newer family is read with a port just if it stands in brackets. -/
theorem readV6_eq_some_nil {a : SocketAddr} : readV6 s = some (a, []) ↔
    ∃ address scope digits ip link port,
      s = '[' :: (address ++ scope ++ ']' :: ':' :: digits) ∧ Names .strict address (.v6 ip) ∧
      WritesLink scope link ∧ Writes 10 none digits port.toNat ∧ a = ⟨.v6 ip, port, link⟩ := by
  have hread : readV6 s = (readChar '[' s).bind fun s => (readScoped s).bind fun r =>
      (readChar ']' r.2).bind fun s =>
        (readPort s).map fun p => (⟨.v6 r.1.1, p.1, r.1.2⟩, p.2) := by
    simp only [readV6, readScoped, Option.bind_eq_bind, Option.map_eq_bind, Option.bind_assoc,
      Option.bind_some]
    rfl
  simp only [hread, Option.bind_eq_some_iff, Option.map_eq_some_iff, Prod.exists, Prod.mk.injEq]
  constructor
  · rintro ⟨_, hopen, ip, link, t, hscoped, _, hclose, port, _, hport, rfl, rfl⟩
    obtain ⟨digits, rfl, hwrites⟩ := readPort_eq_some_nil.mp hport
    rw [readChar_eq_some hclose] at hscoped
    obtain ⟨used, rfl, hused⟩ := stops_readScoped.eq_some_iff.mp hscoped
    obtain ⟨address, scope, rfl, haddress, hscope⟩ := readScoped_eq_some_nil.mp hused
    exact ⟨address, scope, digits, ip, link, port, readChar_eq_some hopen, haddress, hscope,
      hwrites, rfl⟩
  · rintro ⟨address, scope, digits, ip, link, port, rfl, haddress, hscope, hwrites, rfl⟩
    have hused := readScoped_eq_some_nil.mpr ⟨address, scope, rfl, haddress, hscope⟩
    exact ⟨_, readChar_self _ _, ip, link, _, stops_readScoped.eq_some_iff.mpr ⟨_, rfl, hused⟩, _,
      readChar_self _ _, port, [], readPort_eq_some_nil.mpr ⟨digits, rfl, hwrites⟩, rfl, rfl⟩

/-- **A text is read as an address with a port just if it is one.** -/
theorem parse_eq_some_iff {a : SocketAddr} : parse s = some a ↔ Literal s a := by
  rw [parse, whole_eq_some_iff, Option.orElse_eq_orElse, Option.orElse_eq_or, Option.or_eq_some_iff]
  constructor
  · rintro (h | ⟨-, h⟩)
    · obtain ⟨address, digits, ip, port, rfl, haddress, hport, rfl⟩ := readV4_eq_some_nil.mp h
      exact .v4 haddress hport
    · obtain ⟨address, scope, digits, ip, link, port, rfl, haddress, hscope, hport, rfl⟩ :=
        readV6_eq_some_nil.mp h
      exact .v6 haddress hscope hport
  · intro h
    cases h with
    | v4 haddress hport =>
      exact .inl (readV4_eq_some_nil.mpr ⟨_, _, _, _, rfl, haddress, hport, rfl⟩)
    | v6 haddress hscope hport =>
      refine .inr ⟨?_,
        readV6_eq_some_nil.mpr ⟨_, _, _, _, _, _, rfl, haddress, hscope, hport, rfl⟩⟩
      rw [readV4, readIpv4_bracket]
      rfl

/-! ### What was written -/

/-- **An address of the older family with a port is read as it was written**, -/
theorem literal_text_v4 (ip : Ipv4) (port : UInt16) :
    Literal (of (.v4 ip) port).text (of (.v4 ip) port) :=
  .v4 (names_text (.v4 ip)) (writes_toDigits port.toNat)

/-- **and so is one of the newer, with its link.** -/
theorem literal_text_v6 (ip : Ipv6) (port : UInt16) (link : UInt32) :
    Literal (text ⟨.v6 ip, port, link⟩) ⟨.v6 ip, port, link⟩ := by
  have hscope : WritesLink (if link = 0 then [] else '%' :: Nat.toDigits 10 link.toNat) link := by
    split
    case isTrue h => exact h ▸ .none
    case isFalse => exact .number (writes_toDigits link.toNat)
  have h := Literal.v6 (names_text (.v6 ip)) hscope (writes_toDigits port.toNat)
  simpa [text, Ip.text] using h

end SocketAddr

end DohRelay.Net
