import DohRelay.Cache.Fingerprint
import DohRelay.Proofs.Dns.NameReading
import Mathlib.Data.List.Forall2

/-!
# Fingerprints tell questions apart

A fingerprint holds a name as its escaped text in lower case.  That text tells the labels of the
name, where one ends and the next begins and every octet in them, up to the case of ASCII letters.
So two queries have one fingerprint just if they ask the same: about the same labels up to case, for
the same type and class, on behalf of the same network and with the same two flags.

## Main definitions

* `Octet.Alike`, `Label.Alike`, `Name.Alike` — equality up to the case of ASCII letters, octet by
  octet and label by label.
* `Message.WantsSignatures` — a query carries extensions that ask for signatures.
* `Fingerprint.AsksTheSame` — two queries ask the same.

## Main results

* `Name.alike_iff` — names are alike just if they have one text in lower case.
* `Name.ofText_of_append_dot` — a final dot that is missing makes no difference.
* `Fingerprint.ofQuery_eq_iff_asks_the_same` — **two queries have one fingerprint just if they ask
  the same.**
-/

namespace DohRelay

namespace Dns

/-! ### Equality up to case -/

/-- Two octets are equal, or they are the capital and the small form of one ASCII letter. -/
def Octet.Alike (b c : UInt8) : Prop :=
  b = c ∨ ('A'.toNat ≤ b.toNat ∧ b.toNat ≤ 'Z'.toNat ∧ c.toNat = b.toNat + 32) ∨
    ('A'.toNat ≤ c.toNat ∧ c.toNat ≤ 'Z'.toNat ∧ b.toNat = c.toNat + 32)

/-- Two labels have as many octets, which are alike one by one. -/
def Label.Alike (l m : Label) : Prop :=
  List.Forall₂ Octet.Alike l.bytes m.bytes

/-- Two names have as many labels, which are alike one by one. -/
def Name.Alike (n m : Name) : Prop :=
  List.Forall₂ Label.Alike n.labels m.labels

/-- A query carries extensions, and they ask for signatures. -/
def Message.WantsSignatures (query : Message) : Prop :=
  ∃ extensions, query.edns = some extensions ∧ extensions.dnssecOk = true

/-- The lower case of an octet as a number. -/
theorem toNat_foldByte (b : UInt8) :
    (foldByte b).toNat = if 65 ≤ b.toNat ∧ b.toNat ≤ 90 then b.toNat + 32 else b.toNat := by
  have hcapital : (0x41 ≤ b ∧ b ≤ 0x5a) ↔ (65 ≤ b.toNat ∧ b.toNat ≤ 90) := by
    rw [UInt8.le_iff_toNat_le, UInt8.le_iff_toNat_le]
    rfl
  unfold foldByte
  by_cases h : 65 ≤ b.toNat ∧ b.toNat ≤ 90
  · rw [if_pos (hcapital.mpr h), if_pos h, UInt8.toNat_add]
    show (b.toNat + 32) % 256 = b.toNat + 32
    omega
  · rw [if_neg (hcapital.not.mpr h), if_neg h]

/-- Octets are alike just if they have one lower case. -/
theorem Octet.alike_iff (b c : UInt8) : Octet.Alike b c ↔ foldByte b = foldByte c := by
  rw [← UInt8.toNat_inj, toNat_foldByte, toNat_foldByte, Octet.Alike, ← UInt8.toNat_inj]
  show _ ∨ (65 ≤ b.toNat ∧ b.toNat ≤ 90 ∧ _) ∨ (65 ≤ c.toNat ∧ c.toNat ≤ 90 ∧ _) ↔ _
  split <;> split <;> omega

/-- Lists are related one by one just if a function that decides the relation takes them to one
list. -/
theorem forall₂_iff_map_eq {α β : Type} {related : α → α → Prop} {f : α → β}
    (h : ∀ a b, related a b ↔ f a = f b) {as bs : List α} :
    List.Forall₂ related as bs ↔ as.map f = bs.map f := by
  rw [← List.forall₂_eq_eq_eq, List.forall₂_map_left_iff, List.forall₂_map_right_iff]
  exact ⟨.imp fun a b => (h a b).mp, .imp fun a b => (h a b).mpr⟩

/-- Labels are alike just if they have one lower case. -/
theorem Label.alike_iff (l m : Label) : l.Alike m ↔ l.fold = m.fold := by
  refine (forall₂_iff_map_eq Octet.alike_iff).trans ?_
  constructor
  · intro h
    unfold fold
    simp only [h]
  · exact congrArg bytes

/-- **Names are alike just if they have one text in lower case**, however their octets are
escaped. -/
theorem Name.alike_iff {n m : Name} : n.Alike m ↔ n.fold.text = m.fold.text := by
  rw [text_inj]
  refine (forall₂_iff_map_eq Label.alike_iff).trans ?_
  exact ⟨congrArg mk, congrArg labels⟩

theorem Message.dnssecOk_iff {query : Message} : query.dnssecOk = true ↔ query.WantsSignatures := by
  unfold dnssecOk WantsSignatures
  cases query.edns with
  | none => simp
  | some extensions => simp

/-! ### What cannot be seen of a name -/

/-- An octet that no character shows. -/
def Octet.hidden? (b : UInt8) : Option UInt8 :=
  if 0x20 < b ∧ b < 0x7f then none else some b

/-- How long the labels of a name are, and which octets no character shows. -/
def Name.outline (n : Name) : List (List (Option UInt8)) :=
  n.labels.map fun l => l.bytes.map Octet.hidden?

theorem Octet.hidden?_foldByte (b : UInt8) : hidden? (foldByte b) = hidden? b := by
  have hall : ∀ b, hidden? (foldByte b) = hidden? b := forall_octet (by decide +kernel)
  exact hall b

/-- Names that are alike have their labels end at the same places, with the same octets where no
character shows them. -/
theorem Name.Alike.outline_eq {n m : Name} (h : n.Alike m) : n.outline = m.outline := by
  have hfold (n : Name) : n.fold.outline = n.outline := by
    simp only [outline, fold, List.map_map, Function.comp_def, Label.fold, Octet.hidden?_foldByte]
  rw [← hfold n, ← hfold m, text_inj.mp (alike_iff.mp h)]

/-! ### The final dot -/

/-- With a dot behind it, an escape is what it was, or it takes the dot, or it cannot be read. -/
theorem unescape_append_dot (s : List Char) :
    s = [] ∨ (∃ fault, unescape (s ++ ['.']) = .error fault) ∨
      ∃ c taken, unescape s = .ok (some (c, taken)) ∧
        unescape (s ++ ['.']) = .ok (some (c, taken)) ∧ taken ≤ s.length := by
  have hdot : octalValue '.' = .error (.unrecognized '.') := rfl
  cases s with
  | nil => exact .inl rfl
  | cons d rest =>
    right
    cases hnumeral : Text.isNumeral d with
    | false =>
      right
      exact ⟨d, 1, by simp [unescape, hnumeral], by simp [unescape, hnumeral], by simp⟩
    | true =>
      -- the dot would have to be the second or the third of three digits
      rcases rest with _ | ⟨e, _ | ⟨f, rest⟩⟩
      · left
        cases hhigh : octalValue d <;>
          simp [unescape, hnumeral, hhigh, hdot, bind, Except.bind]
      · left
        cases hhigh : octalValue d <;> cases hmiddle : octalValue e <;>
          simp [unescape, hnumeral, hhigh, hmiddle, hdot, bind, Except.bind]
      · cases hhigh : octalValue d <;> cases hmiddle : octalValue e <;>
          cases hlow : octalValue f <;>
            simp [unescape, hnumeral, hhigh, hmiddle, hlow, bind, Except.bind, pure, Except.pure]

namespace Name

variable {read : LabelReader} {ls ls' : List Label} {pending s : List Char}

/-- A dot that is none of an escape ends the label at hand at the end of a text. -/
theorem readLabels_of_append_dot (h : readLabels read ls pending (s ++ ['.']) = .ok (ls', [])) :
    ∃ ls₁ pending₁, readLabels read ls pending s = .ok (ls₁, pending₁) ∧
      appendText read ls₁ pending₁ = .ok ls' := by
  fun_induction readLabels read ls pending s with
  | case1 ls pending =>
    refine ⟨ls, pending, rfl, ?_⟩
    rw [List.nil_append, readLabels] at h
    split at h
    case h_1 => cases h
    case h_2 happend =>
      rw [readLabels] at h
      cases h
      exact happend
  | case2 ls pending rest fault happend =>
    rw [List.cons_append, readLabels, happend] at h
    cases h
  | case3 ls pending rest labels happend ih =>
    rw [List.cons_append, readLabels, happend] at h
    exact ih h
  | case4 ls pending rest fault hescape =>
    rw [List.cons_append, readLabels] at h
    rcases unescape_append_dot rest with rfl | ⟨fault, hfault⟩ | ⟨c, taken, hbefore, -, -⟩
    · cases hescape
    · rw [hfault] at h
      cases h
    · rw [hescape] at hbefore
      cases hbefore
  | case5 ls pending rest hescape =>
    rw [List.cons_append, readLabels] at h
    rcases unescape_append_dot rest with rfl | ⟨fault, hfault⟩ | ⟨c, taken, hbefore, -, -⟩
    · -- the dot is part of the escape, and so of the label at hand
      change readLabels read ls (pending ++ ['.']) [] = _ at h
      rw [readLabels] at h
      simp at h
    · rw [hfault] at h
      cases h
    · rw [hescape] at hbefore
      cases hbefore
  | case6 ls pending rest c taken hescape ih =>
    rw [List.cons_append, readLabels] at h
    rcases unescape_append_dot rest with rfl | ⟨fault, hfault⟩ | ⟨d, count, hbefore, hbehind, hle⟩
    · cases hescape
    · rw [hfault] at h
      cases h
    · rw [hescape] at hbefore
      cases hbefore
      rw [hbehind] at h
      dsimp only at h
      rw [List.drop_append_of_le_length hle] at h
      exact ih h
  | case7 ls pending c rest hdot hslash hblank =>
    rw [List.cons_append, readLabels, if_pos hblank] at h
    · cases h
    · exact hdot
    · exact hslash
  | case8 ls pending c rest hdot hslash hplain ih =>
    rw [List.cons_append, readLabels, if_neg hplain] at h
    · exact ih h
    · exact hdot
    · exact hslash

/-- No label is empty. -/
theorem appendText_nil (ls : List Label) :
    appendText Label.ofText ls [] = .error (.malformed []) := rfl

/-- **A final dot that is missing makes no difference** to what name is read. -/
theorem ofText_of_append_dot {n : Name}
    (h : Name.read Label.ofText (s ++ ['.']) = .ok (n, true)) : ofText s = .ok n := by
  by_cases hnil : s = []
  · subst hnil
    cases h
    rw [ofText, Name.read, if_neg (by decide), readLabels]
    rfl
  have hone : s ++ ['.'] ≠ ['.'] := fun h => hnil (List.append_left_eq_self.mp h)
  rw [Name.read, if_neg hone] at h
  split at h
  case h_1 => cases h
  case h_2 ls' hread =>
    obtain rfl : (⟨ls'⟩ : Name) = n := (Prod.mk.inj (Except.ok.inj h)).1
    obtain ⟨ls, pending, hbefore, happend⟩ := readLabels_of_append_dot hread
    have hother : s ≠ ['.'] := by
      rintro rfl
      rw [readLabels, appendText_nil] at hbefore
      cases hbefore
    obtain ⟨c, pending, rfl⟩ : ∃ c pending', pending = c :: pending' := by
      refine List.exists_cons_of_ne_nil ?_
      rintro rfl
      rw [appendText_nil] at happend
      cases happend
    rw [ofText, Name.read, if_neg hother, hbefore]
    dsimp only
    rw [happend]
    rfl
  case h_3 ls pending hpending hread =>
    -- the label at hand was not ended by a dot
    cases happend : appendText Label.ofText ls pending <;> rw [happend] at h <;> cases h

end Name

end Dns

namespace Fingerprint

open Dns

/-- Two queries ask the same, each about a question and on behalf of a network. -/
structure AsksTheSame (query : Message) (q : Question) (subnet : Option Net.Network)
    (other : Message) (r : Question) (network : Option Net.Network) : Prop where
  /-- The names have the same labels up to the case of ASCII letters. -/
  name : q.name.Alike r.name
  /-- The types are the same. -/
  type : q.type = r.type
  /-- The classes are the same. -/
  qclass : q.qclass = r.qclass
  /-- The networks are the same. -/
  subnet : subnet = network
  /-- Both want signatures, or neither does. -/
  signatures : query.WantsSignatures ↔ other.WantsSignatures
  /-- Both want data that may not be authentic, or neither does. -/
  checkingDisabled : query.checkingDisabled = other.checkingDisabled

variable {query other : Message} {q r : Question} {subnet network : Option Net.Network}

theorem ofQuery_eq_iff : ofQuery query q subnet = ofQuery other r network ↔
    AsksTheSame query q subnet other r network := by
  rw [ofQuery, ofQuery, Fingerprint.mk.injEq]
  show q.name.fold.text = r.name.fold.text ∧ q.type.code = r.type.code ∧ _ ↔ _
  rw [← Name.alike_iff, ← Bool.coe_iff_coe, Message.dnssecOk_iff, Message.dnssecOk_iff,
    ← RecordType.mk.injEq]
  constructor
  · rintro ⟨hname, htype, hclass, hsubnet, hsignatures, hchecking⟩
    exact ⟨hname, htype, hclass, hsubnet, hsignatures, hchecking⟩
  · rintro ⟨hname, htype, hclass, hsubnet, hsignatures, hchecking⟩
    exact ⟨hname, htype, hclass, hsubnet, hsignatures, hchecking⟩

/-- **Two queries have one fingerprint just if they ask the same.**  A name that is written without
its final dot is the same name.  Names whose labels end at other places share no fingerprint, and
neither do names that differ in an octet no character shows. -/
theorem ofQuery_eq_iff_asks_the_same (query other : Message) (q r : Question)
    (subnet network : Option Net.Network) :
    (ofQuery query q subnet = ofQuery other r network ↔
      AsksTheSame query q subnet other r network) ∧
    (∀ s n, Name.read Label.ofText (s ++ ['.']) = .ok (n, true) → Name.ofText s = .ok n) ∧
    (q.name.outline ≠ r.name.outline → ofQuery query q subnet ≠ ofQuery other r network) := by
  refine ⟨ofQuery_eq_iff, fun s n => Name.ofText_of_append_dot, ?_⟩
  intro houtline h
  exact houtline (ofQuery_eq_iff.mp h).name.outline_eq

/-- The question for the addresses of a name. -/
def addressesOf (labels : List Label) : Question :=
  ⟨⟨labels⟩, .a, classIn⟩

/-- `A` and `a` are one name, and so are `a.` and `a`; but a dot within a label is not taken for one
between two. -/
theorem ofQuery_eq_iff_asks_the_same_dots :
    ofQuery .empty (addressesOf [⟨[0x41], by decide, by decide⟩]) none =
      ofQuery .empty (addressesOf [⟨[0x61], by decide, by decide⟩]) none ∧
    Name.ofText ['a'] = .ok ⟨[⟨[0x61], by decide, by decide⟩]⟩ ∧
    ofQuery .empty (addressesOf [⟨[0x61, 0x2e, 0x62], by decide, by decide⟩]) none ≠
      ofQuery .empty (addressesOf [⟨[0x61], by decide, by decide⟩, ⟨[0x62], by decide, by decide⟩])
        none := by
  have hcontrol : Text.isControl 'a' = false := by decide
  have hblank : Text.isBlank 'a' = false := by decide
  have hletter : Label.ofText ['a'] = .ok ⟨[0x61], by decide, by decide⟩ := rfl
  have hread : Name.read Label.ofText ['a', '.'] =
      .ok (⟨[⟨[0x61], by decide, by decide⟩]⟩, true) := by
    have happend : Name.appendText Label.ofText [] ['a'] =
        .ok [⟨[0x61], by decide, by decide⟩] := by
      rw [Name.appendText, hletter]
      rfl
    have hlabels : Name.readLabels Label.ofText [] [] ['a', '.'] =
        .ok ([⟨[0x61], by decide, by decide⟩], []) := by
      simp [Name.readLabels, hcontrol, hblank, happend]
    rw [Name.read, if_neg (by decide), hlabels]
    rfl
  refine ⟨(ofQuery_eq_iff_asks_the_same _ _ _ _ _ _).1.mpr ?_,
    (ofQuery_eq_iff_asks_the_same .empty .empty (addressesOf []) (addressesOf []) none none).2.1
      ['a'] _ hread,
    (ofQuery_eq_iff_asks_the_same _ _ _ _ _ _).2.2 (by decide)⟩
  have halike : Octet.Alike 0x41 0x61 := .inr (.inl (by decide))
  exact ⟨.cons (.cons halike .nil) .nil, rfl, rfl, rfl, Iff.rfl, rfl⟩

end Fingerprint

end DohRelay
