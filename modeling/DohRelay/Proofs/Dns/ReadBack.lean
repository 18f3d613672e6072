import DohRelay.Proofs.Dns.Written
import Mathlib.Data.List.Forall2

/-!
# What readers make of written messages

A reader that succeeds on octets of a known form ends right behind them, wherever in a message they
stand.  What a record says about the length of its data is enough for that, since data that turns
out to have another length is refused: nothing of what is in the data has to be understood.  So a
message that was written and is read again keeps its header, and its response code as far as there
is room for it.

## Main definitions

* `Stands` — octets stand at a position of a message.
* `Reader.Takes` — a reader takes octets and ends behind them.
* `Kept` — what a message keeps of the one it was written from.

## Main results

* `Reader.Takes.bind` — one reader after another.
* `takes_record`, `takes_additional` — records are taken, and the extension record is found.
* `kept_of_decode` — **a message that is written and read keeps its header.**
-/

namespace DohRelay.Dns

/-! ### Readers -/

/-- Some octets stand in a message, from a position on. -/
def Stands (bytes : List UInt8) (message : Array UInt8) (p : Nat) : Prop :=
  bytes <+: message.toList.drop p

namespace Stands

variable {x y : List UInt8} {message : Array UInt8} {p : Nat}

theorem self (bytes : List UInt8) : Stands bytes bytes.toArray 0 :=
  List.prefix_refl bytes

theorem left (h : Stands (x ++ y) message p) : Stands x message p :=
  (List.prefix_append x y).trans h

theorem right (h : Stands (x ++ y) message p) : Stands y message (p + x.length) := by
  obtain ⟨rest, hrest⟩ := h
  refine ⟨rest, ?_⟩
  rw [← List.drop_drop, ← hrest, List.append_assoc, List.drop_left]

theorem getElem? {b : UInt8} (h : Stands (b :: x) message p) : message[p]? = some b := by
  obtain ⟨rest, hrest⟩ := h
  rw [← Array.getElem?_toList, ← List.head?_drop, ← hrest]
  rfl

theorem le_size (h : Stands x message p) (hne : x ≠ []) : p + x.length ≤ message.size := by
  have hlength := h.length_le
  have hpos : 0 < x.length := List.length_pos_iff.mpr hne
  have hsize : message.toList.length = message.size := Array.length_toList
  rw [List.length_drop, hsize] at hlength
  omega

/-- Octets that stand in a message are a part of it. -/
theorem extract (h : Stands x message p) : (message.extract p (p + x.length)).toList = x := by
  obtain ⟨rest, hrest⟩ := h
  rw [Array.toList_extract, List.extract_eq_take_drop, ← hrest, Nat.add_sub_cancel_left,
    List.take_left]

end Stands

namespace Reader

/-- A reader that succeeds on some octets, wherever they stand, ends behind them with a value of
some kind. -/
def Takes {α : Type} (r : Reader α) (bytes : List UInt8) (kind : α → Prop) : Prop :=
  ∀ message p a p', Stands bytes message p → r message p = .ok a p' →
    p' = p + bytes.length ∧ kind a

theorem bind_of_ok {α β : Type} {r : Reader α} {k : α → Reader β} {message : Array UInt8}
    {p p' : Nat} {a : α} (h : r message p = .ok a p') : (r >>= k) message p = k a message p' :=
  Step.bind_of_ok (x := r message) (k := fun a => k a message) h

theorem bind_eq_ok {α β : Type} {r : Reader α} {k : α → Reader β} {message : Array UInt8}
    {p p'' : Nat} {b : β} (h : (r >>= k) message p = .ok b p'') :
    ∃ a p', r message p = .ok a p' ∧ k a message p' = .ok b p'' :=
  Step.bind_eq_ok (x := r message) (k := fun a => k a message) h

namespace Takes

variable {α β : Type} {r : Reader α} {kind wider : α → Prop} {x y : List UInt8}

theorem mono (h : Takes r x kind) (hmono : ∀ a, kind a → wider a) : Takes r x wider := by
  intro message p a p' hstands hr
  obtain ⟨hp, ha⟩ := h message p a p' hstands hr
  exact ⟨hp, hmono a ha⟩

theorem pure {a : α} (h : kind a) : Takes (Pure.pure a : Reader α) [] kind := by
  intro message p b p' _ hr
  cases hr
  exact ⟨rfl, h⟩

/-- One reader after another takes what stands behind the octets of the other. -/
theorem bind {k : α → Reader β} {both : β → Prop} (hr : Takes r x kind)
    (hk : ∀ a, kind a → Takes (k a) y both) : Takes (r >>= k) (x ++ y) both := by
  intro message p b p'' hstands h
  obtain ⟨a, p', hfirst, hsecond⟩ := bind_eq_ok h
  obtain ⟨rfl, ha⟩ := hr message p a p' hstands.left hfirst
  obtain ⟨rfl, hb⟩ := hk a ha message _ b p'' hstands.right hsecond
  exact ⟨by rw [List.length_append, Nat.add_assoc], hb⟩

/-- A reader after one that takes all the octets. -/
theorem bind_end {k : α → Reader β} {both : β → Prop} (hr : Takes r x kind)
    (hk : ∀ a, kind a → Takes (k a) [] both) : Takes (r >>= k) x both := by
  have h := hr.bind hk
  rwa [List.append_nil] at h

/-- A value is made of what a reader takes. -/
theorem map {k : α → β} {both : β → Prop} (hr : Takes r x kind) (hk : ∀ a, kind a → both (k a)) :
    Takes (r >>= fun a => Pure.pure (k a)) x both :=
  hr.bind_end fun a ha => .pure (hk a ha)

end Takes

/-- A reader behind a check that may fail succeeds only where nothing was found. -/
theorem guard_eq_ok {α : Type} {c : Prop} [Decidable c] {fault : Fault} {r : Reader α}
    {message : Array UInt8} {p p' : Nat} {a : α}
    (h : (if c then fail fault >>= fun _ : Unit => r else r) message p = .ok a p') :
    ¬ c ∧ r message p = .ok a p' := by
  split at h
  case isTrue =>
    obtain ⟨_, _, hfail, _⟩ := bind_eq_ok h
    cases hfail
  case isFalse hc => exact ⟨hc, h⟩

theorem takes_guard {α : Type} {c : Prop} [Decidable c] {fault : Fault} {r : Reader α}
    {bytes : List UInt8} {kind : α → Prop} (h : ¬ c → Takes r bytes kind) :
    Takes (if c then fail fault >>= fun _ : Unit => r else r) bytes kind := by
  intro message p a p' hstands hr
  obtain ⟨hc, hr⟩ := guard_eq_ok hr
  exact h hc message p a p' hstands hr

theorem takes_remaining : Takes remaining [] fun _ => True := by
  intro message p a p' _ hr
  cases hr
  exact ⟨rfl, trivial⟩

/-- A reader makes a value of some octets, wherever they stand, and ends behind them. -/
def Gives {α : Type} (r : Reader α) (bytes : List UInt8) (a : α) : Prop :=
  ∀ message p, Stands bytes message p → r message p = .ok a (p + bytes.length)

namespace Gives

variable {α β : Type} {r : Reader α} {a : α} {x y : List UInt8}

theorem takes (h : Gives r x a) : Takes r x fun b => b = a := by
  intro message p b p' hstands hr
  rw [h message p hstands] at hr
  cases hr
  exact ⟨rfl, rfl⟩

theorem pure {b : α} (h : b = a) : Gives (Pure.pure b : Reader α) [] a :=
  fun _ _ _ => h ▸ rfl

theorem bind {k : α → Reader β} {b : β} (hr : Gives r x a) (hk : Gives (k a) y b) :
    Gives (r >>= k) (x ++ y) b := by
  intro message p hstands
  rw [bind_of_ok (hr message p hstands.left), hk message _ hstands.right, List.length_append,
    Nat.add_assoc]

theorem bind_end {k : α → Reader β} {b : β} (hr : Gives r x a) (hk : Gives (k a) [] b) :
    Gives (r >>= k) x b := by
  have h := hr.bind hk
  rwa [List.append_nil] at h

end Gives

theorem gives_octet (b : UInt8) : Gives octet [b] b := by
  intro message p hstands
  unfold octet
  rw [hstands.getElem?]
  rfl

theorem gives_octets {bytes : List UInt8} (hne : bytes ≠ []) :
    Gives (octets bytes.length) bytes bytes := by
  intro message p hstands
  unfold octets
  rw [if_pos (hstands.le_size hne), hstands.extract]

/-- Sixteen bits are what their octets make. -/
theorem gives_word16 (n : UInt16) : Gives word16 (Writer.bytes16 n) n := by
  have hvalue : ((n >>> 8).toUInt8.toUInt16 <<< 8) ||| n.toUInt8.toUInt16 = n := by
    apply UInt16.eq_of_toBitVec_eq
    ext i hi
    -- the second octet has the bits below eight, the first one the others
    by_cases hlow : i < 8
    · simp [hlow, -UInt16.toUInt16_toUInt8, BitVec.getLsbD_eq_getElem hi]
    · have hi' : 8 + (i - 8) = i := by omega
      have hhigh : i - 8 < 8 := by omega
      simp [hlow, hi', hhigh, -UInt16.toUInt16_toUInt8, BitVec.getLsbD_eq_getElem hi]
  have hne : Writer.bytes16 n ≠ [] := by simp [Writer.bytes16]
  exact (gives_octets hne).bind_end (.pure hvalue)

/-- Thirty-two bits are what their octets make. -/
theorem gives_word32 (n : UInt32) : Gives word32 (Writer.bytes32 n) n := by
  have hvalue : ((n >>> 24).toUInt8.toUInt32 <<< 24) ||| ((n >>> 16).toUInt8.toUInt32 <<< 16) |||
      ((n >>> 8).toUInt8.toUInt32 <<< 8) ||| n.toUInt8.toUInt32 = n := by
    apply UInt32.eq_of_toBitVec_eq
    ext i hi
    rw [← BitVec.getLsbD_eq_getElem hi]
    simp only [UInt32.toBitVec_or]
    simp [-UInt32.toUInt32_toUInt8]
    grind
  have hne : Writer.bytes32 n ≠ [] := by simp [Writer.bytes32]
  exact (gives_octets hne).bind_end (.pure hvalue)

theorem takes_word16 (n : UInt16) : Takes word16 (Writer.bytes16 n) fun a => a = n :=
  (gives_word16 n).takes

theorem takes_word32 (n : UInt32) : Takes word32 (Writer.bytes32 n) fun a => a = n :=
  (gives_word32 n).takes

/-- Things in a row are taken one by one. -/
theorem takes_times {α β : Type} {form : α → List UInt8 → Prop} {r : Reader β}
    {kind : α → β → Prop} (hr : ∀ a x, form a x → Takes r x (kind a)) {as : List α}
    {bytes : List UInt8} (h : Listed form as bytes) :
    Takes (times r as.length) bytes (List.Forall₂ kind as) := by
  induction h with
  | nil => exact .pure .nil
  | cons head _ ih =>
    exact (hr _ _ head).bind fun b hb => ih.map fun bs hbs => .cons hb hbs

end Reader

open Reader

/-! ### Names -/

/-- The length of a label is no pointer, and not the end of a name. -/
theorem Label.length_octet (l : Label) :
    (UInt8.ofNat l.length).toNat = l.length ∧ UInt8.ofNat l.length ≠ 0 ∧
      isPointerOctet (UInt8.ofNat l.length) = false := by
  have hpos := l.length_pos
  have hshort : l.length < 64 := Nat.lt_succ_of_le l.short
  have hall : ∀ n : Fin 64, n ≠ 0 → (UInt8.ofNat n).toNat = n ∧ UInt8.ofNat n ≠ 0 ∧
      isPointerOctet (UInt8.ofNat n) = false := by decide
  exact hall ⟨l.length, hshort⟩ (by simp [Fin.ext_iff]; omega)

/-- How a name that is read goes on: it ends, a pointer leads to the rest of it, or one more label
is read. -/
theorem Name.readFrom_cases {message : Array UInt8} {start : Nat} {limit : Option Nat}
    {known labels : List Label} {p p' : Nat}
    (h : Name.readFrom message start limit known p = .ok labels p') :
    Name.length ⟨known⟩ < maxLength ∧ ∃ b, message[p]? = some b ∧
      ((b = 0 ∧ labels = known ∧ p' = p + 1) ∨
      (b ≠ 0 ∧ isPointerOctet b = true ∧ p' = p + 2 ∧ ∃ target < start, ∃ q,
        Name.readFrom message target (some start) known target = .ok labels q) ∨
      (b ≠ 0 ∧ isPointerOctet b = false ∧ ∃ more,
        Name.readFrom message start limit more (p + 1 + b.toNat) = .ok labels p')) := by
  rw [Name.readFrom] at h
  split at h
  case isTrue => cases h
  split at h
  case isTrue => cases h
  case isFalse hlength =>
    refine ⟨Nat.lt_of_not_le hlength, ?_⟩
    split at h
    case h_1 => cases h
    case h_2 b hb =>
      refine ⟨b, hb, ?_⟩
      split at h
      case isTrue hzero =>
        cases h
        exact .inl ⟨hzero, rfl, rfl⟩
      split at h
      case isTrue hne hpointer =>
        split at h
        case h_1 => cases h
        case h_2 c _ =>
          simp only at h
          split at h
          case isFalse => cases h
          case isTrue htarget =>
            split at h
            case h_2 => cases h
            case h_1 q hq =>
              cases h
              exact .inr (.inl ⟨hne, hpointer, rfl, _, htarget, q, hq⟩)
      split at h
      case isFalse => cases h
      case isTrue hne hpointer _ =>
        simp only at h
        split at h
        case isFalse => cases h
        case isTrue =>
          split at h
          case h_2 => cases h
          case h_1 more _ =>
            exact .inr (.inr ⟨hne, Bool.eq_false_iff.mpr hpointer, more, h⟩)

/-- A name ends where its octets end; if they say no labels, it has none. -/
theorem Name.readFrom_of_form {message : Array UInt8} {start : Nat} {limit : Option Nat}
    {ls : List Label} {bytes : List UInt8} (h : NameForm ls bytes) {known : List Label} {p : Nat}
    (hstands : Stands bytes message p) {labels : List Label} {p' : Nat}
    (hread : Name.readFrom message start limit known p = .ok labels p') :
    p' = p + bytes.length ∧ (ls = [] → labels = known) := by
  induction h generalizing known p with
  | root =>
    obtain ⟨-, b, hb, hcases⟩ := Name.readFrom_cases hread
    obtain rfl : 0 = b := Option.some.inj (hstands.getElem?.symm.trans hb)
    rcases hcases with ⟨-, rfl, rfl⟩ | ⟨hne, -⟩ | ⟨hne, -⟩
    · exact ⟨rfl, fun _ => rfl⟩
    · exact absurd rfl hne
    · exact absurd rfl hne
  | @pointer l rest high low hhigh =>
    obtain ⟨-, b, hb, hcases⟩ := Name.readFrom_cases hread
    obtain rfl : high = b := Option.some.inj (hstands.getElem?.symm.trans hb)
    -- wherever the pointer leads, the reader goes on right behind it
    rcases hcases with ⟨rfl, -⟩ | ⟨-, -, rfl, -⟩ | ⟨-, hlabel, -⟩
    · cases hhigh
    · exact ⟨rfl, fun h => by cases h⟩
    · rw [hhigh] at hlabel
      cases hlabel
  | @label l rest bytes _ ih =>
    obtain ⟨-, b, hb, hcases⟩ := Name.readFrom_cases hread
    obtain rfl : UInt8.ofNat l.length = b :=
      Option.some.inj (hstands.left.getElem?.symm.trans hb)
    obtain ⟨hvalue, hnonzero, hlabel⟩ := l.length_octet
    rcases hcases with ⟨hzero, -⟩ | ⟨-, hpointer, -⟩ | ⟨-, -, more, hmore⟩
    · exact absurd hzero hnonzero
    · rw [hlabel] at hpointer
      cases hpointer
    · rw [hvalue] at hmore
      have hrest : Stands bytes message (p + 1 + l.length) := by
        have h := hstands.right
        rwa [List.length_cons, Nat.add_comm _ 1, ← Nat.add_assoc, ← Label.length] at h
      obtain ⟨hp, -⟩ := ih hrest hmore
      refine ⟨?_, fun h => by cases h⟩
      rw [hp, List.length_append, List.length_cons, Label.length]
      omega

/-- A name is taken; it is the root if its octets say so. -/
theorem takes_name {ls : List Label} {bytes : List UInt8} (h : NameForm ls bytes) :
    Takes Reader.name bytes fun n => ls = [] → n.labels = [] := by
  intro message p n p' hstands hread
  unfold Reader.name at hread
  split at hread
  case h_1 labels p'' hlabels =>
    cases hread
    exact Name.readFrom_of_form h hstands hlabels
  case h_2 => cases hread

/-! ### Questions and records -/

theorem takes_question (q : Question) {bytes : List UInt8} (h : QuestionForm q bytes) :
    Takes readQuestion bytes fun _ => True := by
  obtain ⟨hname⟩ := h
  exact (takes_name hname).bind fun _ _ => (takes_word16 _).bind fun _ _ =>
    (takes_word16 _).map fun _ _ => trivial

theorem takes_class (owner : Name) (type : RecordType) (n : UInt16) :
    Takes (readClass owner type) (Writer.bytes16 n) fun _ => True := by
  unfold readClass
  split
  · exact takes_guard fun _ => (takes_word16 n).map fun _ _ => trivial
  · exact (takes_word16 n).mono fun _ _ => trivial

/-- Data is taken by its length, whatever it is. -/
theorem takes_data (type : RecordType) {bytes : List UInt8} (hne : bytes ≠ []) :
    Takes (readData type bytes.length) bytes fun _ => True := by
  unfold readData
  refine takes_guard fun _ => ?_
  intro message p d p'' _ h
  obtain ⟨start, _, hposition, h⟩ := bind_eq_ok h
  cases hposition
  obtain ⟨outcome, p', hattempt, h⟩ := bind_eq_ok h
  obtain ⟨stop, _, hposition, h⟩ := bind_eq_ok h
  cases hposition
  -- the reader of the data may end anywhere, but then its length is checked
  obtain ⟨hlength, h⟩ := guard_eq_ok h
  have hpos : 0 < bytes.length := List.length_pos_iff.mpr hne
  cases outcome with
  | error fault => cases h
  | ok d' =>
    cases h
    exact ⟨by omega, trivial⟩

/-- A record is taken, and its type and its time to live are read. -/
theorem takes_record (r : Record) {bytes : List UInt8} (h : RecordForm r bytes) :
    Takes readRecord bytes fun r' => r'.type = r.type ∧ r'.ttl = r.ttl := by
  obtain ⟨hname, hdata⟩ := h
  refine (takes_name hname).bind fun owner _ => (takes_word16 _).bind fun type htype =>
    (takes_class owner ⟨type⟩ _).bind fun rclass _ => (takes_word32 _).bind fun ttl httl =>
    (takes_word16 _).bind fun length hlength => takes_remaining.bind fun left _ => ?_
  have hcount : length.toNat = _ := hlength ▸ UInt16.toNat_ofNat_of_lt' hdata
  refine takes_guard fun _ => ?_
  rw [hcount]
  split
  case isTrue hnil =>
    rw [List.length_eq_zero_iff.mp hnil]
    exact .pure ⟨congrArg RecordType.mk htype, httl⟩
  case isFalse hne =>
    exact (takes_data ⟨type⟩ (List.length_eq_zero_iff.not.mp hne)).map fun _ _ =>
      ⟨congrArg RecordType.mk htype, httl⟩

/-- The last section is taken; of records that are no extension records, and one that is or none
behind them, that one is found. -/
theorem takes_additional {rs : List Record} (hplain : ∀ r ∈ rs, r.type ≠ .opt) {ext : Option Record}
    (hext : ∀ r ∈ ext, r.type = .opt) {bytes : List UInt8}
    (h : Listed RecordForm (rs ++ ext.toList) bytes) :
    Takes (readAdditional (rs ++ ext.toList).length none) bytes fun found =>
      found.1.length = rs.length ∧
        found.2.map Edns.rcodeHigh = ext.map fun r : Record => (r.ttl >>> 24).toUInt8 := by
  induction rs generalizing bytes with
  | nil =>
    cases ext with
    | none =>
      cases h
      exact .pure ⟨rfl, rfl⟩
    | some r =>
      cases h with
      | cons head tail =>
        cases tail
        refine (takes_record r head).bind fun r' hr' => ?_
        rw [if_pos (hr'.1.trans (hext r rfl))]
        refine takes_guard fun _ => ?_
        exact .pure ⟨rfl, by simp [Edns.ofRecord, hr'.2]⟩
  | cons r rest ih =>
    cases h with
    | cons head tail =>
      refine (takes_record r head).bind fun r' hr' => ?_
      -- the type is read as it was written, so this is no extension record
      rw [if_neg (hr'.1 ▸ hplain r List.mem_cons_self)]
      have hrest := ih (fun r hr => hplain r (List.mem_cons_of_mem _ hr)) tail
      refine hrest.bind_end fun found hfound => ?_
      exact .pure ⟨congrArg Nat.succ hfound.1, hfound.2⟩

/-! ### Response codes -/

namespace ResponseCode

@[simp] theorem toNat_low (c : ResponseCode) : c.low.toNat = c.toNat % 16 := by
  simp only [low, UInt16.toNat_toUInt8, UInt16.toNat_and, UInt16.reduceToNat]
  rw [Nat.and_two_pow_sub_one_eq_mod _ 4]
  omega

@[simp] theorem toNat_high (c : ResponseCode) : c.high.toNat = c.toNat / 16 % 256 := by
  simp [high, Nat.shiftRight_eq_div_pow]

theorem toNat_join (h : UInt8) {l : UInt8} (hl : l.toNat < 16) :
    (join h l).toNat = h.toNat * 16 + l.toNat := by
  have hbound : h.toNat <<< 4 < 65536 := by
    have := h.toNat_lt
    rw [Nat.shiftLeft_eq]
    omega
  have hshift : (h.toUInt16 <<< 4).toNat = h.toNat <<< 4 := by
    rw [UInt16.toNat_shiftLeft, UInt8.toNat_toUInt16]
    exact Nat.mod_eq_of_lt hbound
  rw [join, UInt16.toNat_or, hshift, UInt8.toNat_toUInt16,
    ← Nat.shiftLeft_add_eq_or_of_lt hl, Nat.shiftLeft_eq]

/-- A code of twelve bits is what both of its parts make. -/
theorem join_high_low {c : ResponseCode} (hc : c.toNat < 4096) : join c.high c.low = c := by
  rw [← UInt16.toNat_inj, toNat_join _ (by rw [toNat_low]; omega), toNat_low, toNat_high]
  omega

/-- Of a code, the header alone tells its four low bits. -/
theorem toNat_join_zero_low (c : ResponseCode) : (join 0 c.low).toNat = c.toNat % 16 := by
  rw [toNat_join _ (by rw [toNat_low]; omega), toNat_low]
  simp

theorem join_zero_low {c : ResponseCode} (hc : c.toNat < 16) : join 0 c.low = c := by
  rw [← UInt16.toNat_inj, toNat_join_zero_low, Nat.mod_eq_of_lt hc]

/-- All is well by the header alone for every code whose low bits are zero. -/
theorem join_zero_low_eq_noError {c : ResponseCode} :
    join 0 c.low = noError ↔ c.toNat % 16 = 0 := by
  rw [← UInt16.toNat_inj, toNat_join_zero_low]
  rfl

theorem low_join (h : UInt8) {l : UInt8} (hl : l.toNat < 16) : (join h l).low = l := by
  rw [← UInt8.toNat_inj, toNat_low, toNat_join _ hl]
  omega

end ResponseCode

private theorem dnssecFlag_high : ∀ (b : Bool) (i : Fin 8),
    (if b then (0x8000 : UInt32) else 0).toBitVec[24 + i.val] = false := by
  decide

/-- The extension record tells the upper bits of the code. -/
theorem Edns.high_ttl_record (e : Edns) (c : ResponseCode) :
    ((e.record c).ttl >>> 24).toUInt8 = c.high := by
  -- the version and the flag lie below the octet that is looked at
  apply UInt8.eq_of_toBitVec_eq
  ext i hi
  have hhigh : 24 + i < 32 ∧ ¬ 24 + i < 24 ∧ i < 32 := by omega
  have hflag := dnssecFlag_high e.dnssecOk ⟨i, hi⟩
  have hversion : e.version.toBitVec.getLsbD (24 + i - 16) = false :=
    BitVec.getLsbD_of_ge _ _ (by omega)
  simp [Edns.record, hflag, hversion, hhigh, BitVec.getLsbD_eq_getElem hi]

/-! ### Headers -/

/-- The first octet of the flags. -/
theorem flags_high (o : Opcode) (r a t d : Bool) :
    let b : UInt8 := (if r then (0x80 : UInt8) else 0) ||| (o.code <<< 3) |||
      (if a then 0x04 else 0) ||| (if t then 0x02 else 0) ||| (if d then 0x01 else 0)
    Opcode.ofCode? ((b >>> 3) &&& 0xf) = some o ∧ bit b 0x80 = r ∧ bit b 0x04 = a ∧
      bit b 0x02 = t ∧ bit b 0x01 = d := by
  cases o <;> revert r a t d <;> decide

/-- The second octet of the flags. -/
theorem flags_low (r a c : Bool) {l : UInt8} (hl : l.toNat < 16) :
    let b : UInt8 := (if r then (0x80 : UInt8) else 0) ||| (if a then 0x20 else 0) |||
      (if c then 0x10 else 0) ||| l
    bit b 0x80 = r ∧ bit b 0x20 = a ∧ bit b 0x10 = c ∧ b &&& 0x0f = l := by
  have hall : ∀ (n : Fin 16) (r a c : Bool),
      let b : UInt8 := (if r then (0x80 : UInt8) else 0) ||| (if a then 0x20 else 0) |||
        (if c then 0x10 else 0) ||| UInt8.ofNat n
      bit b 0x80 = r ∧ bit b 0x20 = a ∧ bit b 0x10 = c ∧ b &&& 0x0f = UInt8.ofNat n := by decide
  have h := hall ⟨l.toNat, hl⟩ r a c
  rwa [UInt8.ofNat_toNat] at h

/-- What the header says of a message. -/
def Message.header (m : Message) (truncated : Bool) : Message :=
  { Message.empty with
    id := m.id
    response := m.response
    opcode := m.opcode
    authoritative := m.authoritative
    truncated := truncated
    recursionDesired := m.recursionDesired
    recursionAvailable := m.recursionAvailable
    authenticData := m.authenticData
    checkingDisabled := m.checkingDisabled
    rcode := .join 0 m.rcode.low }

/-- A message with nothing but questions is its header and these, but for the upper bits of its
code. -/
theorem Message.IsBare.header_eq {m : Message} (h : m.IsBare) :
    { m.header m.truncated with questions := m.questions } =
      { m with rcode := .join 0 m.rcode.low } := by
  obtain ⟨hanswers, hauthority, hadditional, hedns⟩ := h
  cases m
  simp_all [header, empty]

theorem gives_header (m : Message) (truncated : Bool) :
    Gives readHeader (Writer.bytes16 m.id ++ m.flagBytes truncated) (m.header truncated) := by
  obtain ⟨hopcode, hr, ha, ht, hd⟩ :=
    flags_high m.opcode m.response m.authoritative truncated m.recursionDesired
  obtain ⟨hra, had, hcd, hcode⟩ := flags_low m.recursionAvailable m.authenticData
    m.checkingDisabled (l := m.rcode.low) (by rw [ResponseCode.toNat_low]; omega)
  refine (gives_word16 m.id).bind ((gives_octet _).bind (y := [_]) ?_)
  rw [hopcode]
  refine (gives_octet _).bind_end (.pure ?_)
  rw [hr, ha, ht, hd, hra, had, hcd, hcode]
  rfl

/-! ### Messages -/

/-- What a message keeps that is written and read again: its header, the number of its questions,
and its response code as far as the extension record is there to tell it. -/
structure Kept (m m' : Message) : Prop where
  id : m'.id = m.id
  response : m'.response = m.response
  opcode : m'.opcode = m.opcode
  authoritative : m'.authoritative = m.authoritative
  truncated : m.truncated = true → m'.truncated = true
  recursionDesired : m'.recursionDesired = m.recursionDesired
  recursionAvailable : m'.recursionAvailable = m.recursionAvailable
  authenticData : m'.authenticData = m.authenticData
  checkingDisabled : m'.checkingDisabled = m.checkingDisabled
  questions : m'.questions.length = m.questions.length
  /-- No extension record appears. -/
  edns : m'.edns.isSome = true → m.edns.isSome = true
  /-- The extension record tells the upper bits of the code. -/
  rcode : m'.rcode = if m'.edns.isSome then .join m.rcode.high m.rcode.low
    else .join 0 m.rcode.low

/-- The extension record of a message is written, or nothing is. -/
theorem Message.take_ednsRecords (m : Message) (n : Nat) :
    ∃ ext : Option Record, m.ednsRecords.take n = ext.toList ∧
      ∀ r ∈ ext, ∃ e, m.edns = some e ∧ r = e.record m.rcode := by
  unfold ednsRecords
  cases n with
  | zero => exact ⟨none, rfl, by simp⟩
  | succ n =>
    cases m.edns with
    | none => exact ⟨none, rfl, by simp⟩
    | some e => exact ⟨some (e.record m.rcode), by simp, by simp⟩

/-- As many things as octets have room for can be counted. -/
theorem Listed.toNat_length {α : Type} {form : α → List UInt8 → Prop} {least : Nat}
    (hpos : 0 < least) (hleast : ∀ a x, form a x → least ≤ x.length) {as : List α}
    {bytes : List UInt8} (h : Listed form as bytes) (hroom : bytes.length ≤ Writer.limit) :
    (UInt16.ofNat as.length).toNat = as.length := by
  have hlength := h.mul_length_le hleast
  have hle : as.length ≤ least * as.length := Nat.le_mul_of_pos_left _ hpos
  refine UInt16.toNat_ofNat_of_lt' ?_
  simp only [Writer.limit] at hroom
  simp only [UInt16.size]
  omega

/-- What was written of a message can be counted, since only so much finds room. -/
theorem BodyForm.toNat_counts {m : Message} {a n d : Nat} {body : List UInt8}
    (h : BodyForm m (a, n, d) body) (hroom : headerLength + body.length ≤ Writer.limit) :
    (UInt16.ofNat m.questions.length).toNat = m.questions.length ∧
      (UInt16.ofNat a).toNat = a ∧ (UInt16.ofNat n).toNat = n ∧ (UInt16.ofNat d).toNat = d := by
  cases h with
  | intro hquestions hanswers hauthority hadditional =>
    obtain ⟨hale, hanswers⟩ := hanswers
    obtain ⟨hnle, hauthority⟩ := hauthority
    obtain ⟨hdle, hele, hadditional⟩ := hadditional
    simp only [List.length_append] at hroom
    have hquestionCount := hquestions.toNat_length (by decide) QuestionForm.length_ge (by omega)
    have hanswerCount := hanswers.toNat_length (by decide) RecordForm.length_ge (by omega)
    have hauthorityCount := hauthority.toNat_length (by decide) RecordForm.length_ge (by omega)
    have hadditionalCount := hadditional.toNat_length (by decide) RecordForm.length_ge (by omega)
    rw [List.length_take_of_le hale] at hanswerCount
    rw [List.length_take_of_le hnle] at hauthorityCount
    rw [List.length_append, List.length_take_of_le hdle, List.length_take_of_le hele]
      at hadditionalCount
    exact ⟨hquestionCount, hanswerCount, hauthorityCount, hadditionalCount⟩

/-- A written message is taken as it was, as far as its header goes. -/
theorem takes_message {m : Message} (hplain : ∀ r ∈ m.additional, r.type ≠ .opt)
    {truncated : Bool} (htruncated : m.truncated = true → truncated = true) {a n d : Nat}
    {body : List UInt8} (hform : BodyForm m (a, n, d) body)
    (hroom : headerLength + body.length ≤ Writer.limit) :
    Takes Message.read (m.headerBytes truncated a n d ++ body) (Kept m) := by
  obtain ⟨hquestionsNat, hanswersNat, hauthorityNat, hadditionalNat⟩ := hform.toNat_counts hroom
  cases hform with
  | @intro _ _ additional extension q r s t hquestions hanswers hauthority hadditional =>
    obtain ⟨ext, hext, hrecord⟩ := m.take_ednsRecords extension
    obtain ⟨hale, hanswers⟩ := hanswers
    obtain ⟨hnle, hauthority⟩ := hauthority
    obtain ⟨hdle, hele, hadditional⟩ := hadditional
    have hda : (m.additional.take additional ++ m.ednsRecords.take extension).length =
        additional + extension := by
      rw [List.length_append, List.length_take_of_le hdle, List.length_take_of_le hele]
    have hbytes : m.headerBytes truncated a n (additional + extension) ++ (q ++ (r ++ (s ++ t))) =
        (Writer.bytes16 m.id ++ m.flagBytes truncated) ++
          (Writer.bytes16 (.ofNat m.questions.length) ++ (Writer.bytes16 (.ofNat a) ++
          (Writer.bytes16 (.ofNat n) ++ (Writer.bytes16 (.ofNat (additional + extension)) ++
          (q ++ (r ++ (s ++ t))))))) := by
      simp only [Message.headerBytes, List.append_assoc]
    rw [hbytes]
    -- one step for each field of the header, and one for each section
    refine (gives_header m truncated).takes.bind fun header hheader => ?_
    refine (takes_word16 _).bind fun questionCount hquestionCount => ?_
    refine (takes_word16 _).bind fun answerCount hanswerCount => ?_
    refine (takes_word16 _).bind fun authorityCount hauthorityCount => ?_
    refine (takes_word16 _).bind fun additionalCount hadditionalCount => ?_
    rw [hquestionCount, hquestionsNat, hanswerCount,
      hanswersNat.trans (List.length_take_of_le hale).symm, hauthorityCount,
      hauthorityNat.trans (List.length_take_of_le hnle).symm, hadditionalCount,
      hadditionalNat.trans hda.symm]
    refine (takes_times takes_question hquestions).bind fun questions hqs => ?_
    refine (takes_times takes_record hanswers).bind fun _ _ => ?_
    refine (takes_times takes_record hauthority).bind fun _ _ => ?_
    rw [hext] at hadditional ⊢
    have hplain' : ∀ r ∈ m.additional.take additional, r.type ≠ .opt := fun r hr =>
      hplain r (List.mem_of_mem_take hr)
    have hopt : ∀ r ∈ ext, r.type = .opt := by
      intro r hr
      obtain ⟨e, -, rfl⟩ := hrecord r hr
      rfl
    refine (takes_additional hplain' hopt hadditional).bind_end fun found hfound => ?_
    obtain ⟨records, edns⟩ := found
    have hlow : (ResponseCode.join 0 m.rcode.low).low = m.rcode.low :=
      ResponseCode.low_join 0 (by rw [ResponseCode.toNat_low]; omega)
    subst hheader
    -- the upper bits of the code are those that the extension record told, if it was found
    cases edns with
    | none =>
      exact .pure ⟨rfl, rfl, rfl, rfl, htruncated, rfl, rfl, rfl, rfl, hqs.length_eq.symm,
        (by simp), rfl⟩
    | some e' =>
      cases ext with
      | none => cases hfound.2
      | some r =>
        obtain ⟨e, he, rfl⟩ := hrecord r rfl
        have hhigh : e'.rcodeHigh = m.rcode.high :=
          (Option.some.inj hfound.2).trans (e.high_ttl_record m.rcode)
        refine .pure ⟨rfl, rfl, rfl, rfl, htruncated, rfl, rfl, rfl, rfl, hqs.length_eq.symm,
          fun _ => by rw [he]; rfl, ?_⟩
        change ResponseCode.join e'.rcodeHigh (ResponseCode.join 0 m.rcode.low).low = _
        rw [hhigh, hlow]
        rfl

/-- **A message that is written and read keeps its header.** -/
theorem kept_of_decode {m m' : Message} {bytes : List UInt8}
    (hplain : ∀ r ∈ m.additional, r.type ≠ .opt) (hwritten : m.encode = .ok bytes)
    (hread : Message.decode bytes = .ok m') : Kept m m' := by
  obtain ⟨a, n, d, body, hform, hroom, rfl⟩ := Message.encode_eq_ok hwritten
  unfold Message.decode Reader.run at hread
  split at hread
  case h_2 => cases hread
  case h_1 m'' p hm =>
    cases hread
    have htruncated : m.truncated = true → (m.truncated || !decide (a = m.answers.length ∧
        n = m.authority.length ∧ d = m.additional.length + m.edns.toList.length)) = true := by
      intro h
      rw [h, Bool.true_or]
    exact (takes_message hplain htruncated hform hroom _ 0 _ p (Stands.self _) hm).2

end DohRelay.Dns
