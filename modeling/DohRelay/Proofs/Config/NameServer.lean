import DohRelay.Config
import DohRelay.Proofs.Net.Brackets
import DohRelay.Proofs.Net.Sockets

/-!
# The server for names, as it is given

The server that is to be asked for names is given by its address, with a port or without.  Only an
address of the newer family has brackets, and with a port it needs them.  What is understood besides
is an address without a port that has other brackets around it: more than one pair, some on one side
only, or a pair around an address of the older family.

## Main definitions

* `GivesServer` — a text gives the address of a server in one of the four ways.
* `Straying` — a text is an address with brackets that do not belong there.

## Main results

* `parseDnsResolver_eq_ok_iff` — a text is understood just if it is an address with a port or one
  with any brackets.
* `servers_are_understood_iff` — **a text is understood just if it gives the address of a server, or
  would without some brackets.**
-/

namespace DohRelay

namespace Net

variable {s : List Char} {ip : Ip}

/-- What ends with a number does not end with a bracket. -/
theorem Writes.getLast?_append_ne {n : Nat} {maxDigits : Option Nat} {digits : List Char}
    (h : Writes 10 maxDigits digits n) (before : List Char) :
    (before ++ digits).getLast? ≠ some ']' := by
  rw [List.getLast?_append]
  cases hlast : digits.getLast? with
  | none => exact absurd (List.getLast?_eq_none_iff.mp hlast) h.ne_nil
  | some c =>
    rw [Option.some_or]
    rintro ⟨⟩
    exact absurd (h.digits ']' (List.mem_of_getLast? hlast)) (by decide)

/-- Without a bracket at its end, an address with brackets has just those before it. -/
theorem Bracketed.of_getLast?_ne (h : Bracketed s ip) (hlast : s.getLast? ≠ some ']') :
    ∃ opening address, s = List.replicate opening '[' ++ address ∧ Names .strict address ip := by
  obtain ⟨opening, closing, address, rfl, haddress⟩ := h
  cases closing with
  | zero => exact ⟨opening, address, by simp, haddress⟩
  | succ closing =>
    refine absurd ?_ hlast
    rw [List.replicate_succ', ← List.append_assoc, ← List.append_assoc, List.getLast?_append]
    rfl

/-- **An address with a port is none without**, whatever brackets may be around that. -/
theorem SocketAddr.Literal.not_bracketed {a : SocketAddr} (h : SocketAddr.Literal s a) :
    ¬ Bracketed s ip := by
  intro hbracketed
  cases h with
  | @v4 address digits a port haddress hport =>
    have hlast : (address ++ ':' :: digits).getLast? ≠ some ']' := by
      rw [List.append_cons]
      exact hport.getLast?_append_ne _
    obtain ⟨opening, other, heq, hother⟩ := hbracketed.of_getLast?_ne hlast
    have hread : readIpv4 .strict (address ++ ':' :: digits) = some (a, ':' :: digits) :=
      (stops_readIpv4 rfl (by decide)).eq_some_iff.mpr ⟨address, rfl, names_v4_iff.mp haddress⟩
    cases opening with
    | zero =>
      rw [List.replicate_zero, List.nil_append] at heq
      rw [← heq] at hother
      cases hother with
      | v4 hother => cases hread.symm.trans hother
      | v6 hother => cases (readIpv6_eq_none hread).symm.trans hother
    | succ opening =>
      rw [heq, List.replicate_succ, List.cons_append, readIpv4_bracket] at hread
      cases hread
  | @v6 address scope digits a link port haddress hscope hport =>
    have hlast : ('[' :: (address ++ scope ++ ']' :: ':' :: digits)).getLast? ≠ some ']' := by
      rw [List.append_cons, List.append_cons, ← List.cons_append]
      exact hport.getLast?_append_ne _
    obtain ⟨opening, other, heq, hother⟩ := hbracketed.of_getLast?_ne hlast
    -- the bracket that closes would be part of the address
    have hmem : ']' ∈ List.replicate opening '[' ++ other := by
      rw [← heq]
      simp
    rcases List.mem_append.mp hmem with hmem | hmem
    · exact absurd (List.eq_of_mem_replicate hmem) (by decide)
    · exact hother.not_mem rfl (by decide) (by decide) hmem

end Net

namespace Config

open Net

variable {s : String} {a : SocketAddr}

/-! ### What is understood -/

/-- A text is understood just if it is an address with a port, or one with any brackets. -/
theorem parseDnsResolver_eq_ok_iff : parseDnsResolver s = .ok a ↔
    SocketAddr.Literal s.toList a ∨ ∃ ip, Bracketed s.toList ip ∧ a = .of ip dnsPort := by
  unfold parseDnsResolver
  cases hsocket : SocketAddr.parse s.toList with
  | some other =>
    have hliteral := SocketAddr.parse_eq_some_iff.mp hsocket
    have hbracketed : ¬ ∃ ip, Bracketed s.toList ip ∧ a = .of ip dnsPort :=
      fun ⟨_, h, _⟩ => hliteral.not_bracketed h
    rw [or_iff_left hbracketed, ← SocketAddr.parse_eq_some_iff, hsocket, Except.ok.injEq,
      Option.some.injEq]
  | none =>
    have hliteral : ¬ SocketAddr.Literal s.toList a := by
      rw [← SocketAddr.parse_eq_some_iff, hsocket]
      exact nofun
    simp only [or_iff_right hliteral, ← parseIp_withoutBrackets]
    cases parseIp (withoutBrackets s.toList) <;> simp [eq_comm]

/-- Whatever is not understood is a fault of the configuration. -/
theorem parseDnsResolver_cases (s : String) : (∃ a, parseDnsResolver s = .ok a) ∨
    parseDnsResolver s = .error (.config ("invalid dns resolver " ++ Text.quote s ++
      ": " ++ "invalid IP address syntax")) := by
  unfold parseDnsResolver
  split
  case h_1 a _ => exact .inl ⟨a, rfl⟩
  case h_2 =>
    split
    case h_1 => exact .inl ⟨_, rfl⟩
    case h_2 => exact .inr rfl

/-- A text gives the address of a server. -/
inductive GivesServer : List Char → SocketAddr → Prop
  /-- It is the address, whose port is the usual one. -/
  | bare {address : List Char} {ip : Ip} (h : Names .strict address ip) :
      GivesServer address (.of ip 53)
  /-- The address is of the newer family and stands in brackets. -/
  | bracketed {address : List Char} {ip : Ipv6} (h : Names .strict address (.v6 ip)) :
      GivesServer ('[' :: (address ++ [']'])) (.of (.v6 ip) 53)
  /-- The address comes with a port. -/
  | ported {text : List Char} {a : SocketAddr} (h : SocketAddr.Literal text a) : GivesServer text a

/-- A text is an address with brackets that do not belong there: there are some, but they are not
just the pair around an address of the newer family. -/
def Straying (s : List Char) (ip : Ip) : Prop :=
  ∃ opening closing address,
    s = List.replicate opening '[' ++ (address ++ List.replicate closing ']') ∧
    Names .strict address ip ∧ (opening, closing) ≠ (0, 0) ∧
    ((opening, closing) = (1, 1) → ∃ older, ip = .v4 older)

/-- An address with any brackets is given as it should be, or its brackets do not belong there. -/
theorem bracketed_iff {s : List Char} {ip : Ip} : Bracketed s ip ↔
    Names .strict s ip ∨ (∃ address newer, s = '[' :: (address ++ [']']) ∧ ip = .v6 newer ∧
      Names .strict address ip) ∨ Straying s ip := by
  constructor
  · rintro ⟨opening, closing, address, rfl, h⟩
    by_cases hnone : (opening, closing) = (0, 0)
    · cases hnone
      exact .inl (by simpa using h)
    by_cases hpair : (opening, closing) = (1, 1)
    · cases hpair
      cases ip with
      | v4 older => exact .inr (.inr ⟨1, 1, address, rfl, h, hnone, fun _ => ⟨older, rfl⟩⟩)
      | v6 newer => exact .inr (.inl ⟨address, newer, rfl, rfl, h⟩)
    · exact .inr (.inr ⟨opening, closing, address, rfl, h, hnone, fun h => absurd h hpair⟩)
  · rintro (h | ⟨address, newer, rfl, rfl, h⟩ | ⟨opening, closing, address, rfl, h, -⟩)
    · exact ⟨0, 0, s, by simp, h⟩
    · exact ⟨1, 1, address, rfl, h⟩
    · exact ⟨opening, closing, address, rfl, h⟩

/-- **A text is understood just if it gives the address of a server, or would without brackets that
do not belong there**; it is a fault of the configuration otherwise.  What is written for an address
with a port is understood as that, and what is written for an address, in brackets if it is one of
the newer family, as that address with the usual port. -/
theorem servers_are_understood_iff (s : String) :
    (∀ a, parseDnsResolver s = .ok a ↔
      GivesServer s.toList a ∨ ∃ ip, Straying s.toList ip ∧ a = .of ip 53) ∧
    ((∃ a, parseDnsResolver s = .ok a) ∨
      parseDnsResolver s = .error (.config ("invalid dns resolver " ++ Text.quote s ++
        ": " ++ "invalid IP address syntax"))) ∧
    (∀ ip port, parseDnsResolver (String.ofList (SocketAddr.of (.v4 ip) port).text) =
      .ok (.of (.v4 ip) port)) ∧
    (∀ ip port link, parseDnsResolver (String.ofList (SocketAddr.text ⟨.v6 ip, port, link⟩)) =
      .ok ⟨.v6 ip, port, link⟩) ∧
    (∀ ip, parseDnsResolver (String.ofList ip.text) = .ok (.of ip 53)) ∧
    ∀ ip : Ipv6, parseDnsResolver (String.ofList ('[' :: (ip.text ++ [']']))) =
      .ok (.of (.v6 ip) 53) := by
  have hiff (s a) : parseDnsResolver s = .ok a ↔
      GivesServer s.toList a ∨ ∃ ip, Straying s.toList ip ∧ a = .of ip 53 := by
    rw [parseDnsResolver_eq_ok_iff]
    constructor
    · rintro (h | ⟨ip, h, rfl⟩)
      · exact .inl (.ported h)
      · rcases bracketed_iff.mp h with h | ⟨address, newer, hs, rfl, h⟩ | h
        · exact .inl (.bare h)
        · exact .inl (hs ▸ .bracketed h)
        · exact .inr ⟨ip, h, rfl⟩
    · rintro (h | ⟨ip, h, rfl⟩)
      · generalize s.toList = text at h
        cases h with
        | bare h => exact .inr ⟨_, bracketed_iff.mpr (.inl h), rfl⟩
        | bracketed h => exact .inr ⟨_, bracketed_iff.mpr (.inr (.inl ⟨_, _, rfl, rfl, h⟩)), rfl⟩
        | ported h => exact .inl h
      · exact .inr ⟨ip, bracketed_iff.mpr (.inr (.inr h)), rfl⟩
  have hgiven {text : List Char} {a : SocketAddr} (h : GivesServer text a) :
      parseDnsResolver (String.ofList text) = .ok a := by
    rw [hiff, String.toList_ofList]
    exact .inl h
  exact ⟨hiff s, parseDnsResolver_cases s,
    fun ip port => hgiven (.ported (SocketAddr.literal_text_v4 ip port)),
    fun ip port link => hgiven (.ported (SocketAddr.literal_text_v6 ip port link)),
    fun ip => hgiven (.bare (names_text ip)),
    fun ip => hgiven (.bracketed (names_text (.v6 ip)))⟩

/-- The loopback address is understood in brackets, and behind two that open. -/
theorem servers_are_understood_iff_loopback :
    parseDnsResolver "[::1]" = .ok (.of (.v6 ⟨1⟩) 53) ∧
    parseDnsResolver "[[::1" = .ok (.of (.v6 ⟨1⟩) 53) ∧
    parseDnsResolver "[fe80::1%3]:5353" =
      .ok ⟨.v6 ⟨0xfe800000000000000000000000000001⟩, 5353, 3⟩ := by
  have hloopback : Names .strict "::1".toList (.v6 ⟨1⟩) := parseIp_eq_some_iff.mp (by decide)
  have htext : String.ofList (SocketAddr.text
      ⟨.v6 ⟨0xfe800000000000000000000000000001⟩, 5353, 3⟩) = "[fe80::1%3]:5353" := by decide
  obtain ⟨hiff, -, -, hlink, -, hbrackets⟩ := servers_are_understood_iff "[[::1"
  exact ⟨hbrackets ⟨1⟩, (hiff _).mpr (.inr ⟨.v6 ⟨1⟩, ⟨2, 0, "::1".toList, by decide, hloopback,
    by decide, fun h => absurd h (by decide)⟩, rfl⟩), htext ▸ hlink _ _ _⟩

/-- Brackets that open and do not close are understood, though such a text gives no server. -/
theorem stray_brackets_understood :
    parseDnsResolver "[[::1" = .ok (.of (.v6 ⟨1⟩) 53) ∧
      ∀ a, ¬ GivesServer "[[::1".toList a := by
  have hip : parseIp "[[::1".toList = none := by decide
  have hsocket : SocketAddr.parse "[[::1".toList = none := by decide
  have hlast : "[[::1".toList.getLast? = some '1' := by decide
  refine ⟨parseDnsResolver_eq_ok_iff.mpr (.inr ⟨_, parseIp_withoutBrackets.mp (by decide), rfl⟩),
    fun a h => ?_⟩
  generalize "[[::1".toList = text at h hip hsocket hlast
  cases h with
  | bare h => cases hip.symm.trans (parseIp_eq_some_iff.mpr h)
  | bracketed =>
    rw [← List.cons_append, List.getLast?_append] at hlast
    cases hlast
  | ported h => cases hsocket.symm.trans (SocketAddr.parse_eq_some_iff.mpr h)

end Config

end DohRelay
