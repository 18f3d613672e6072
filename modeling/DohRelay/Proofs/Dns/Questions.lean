import DohRelay.Proofs.Dns.Decoded

/-!
# Questions, written and read

The questions of a message are read as they were written, letter case included, although a name
may end in a pointer to one that was written before it.  A pointer is only put where the labels that
are left stand at an earlier position as the end of a name, and that name was over before the one at
hand began; so the reader, which asks for no more than that, is led to the same labels.

## Main definitions

* `Spelled` — some labels can be read at a position of a message.
* `Writer.Recalled` — the remembered ends of names are spelled where they are said to be.
* `Writer.Lies` — what has been written lies in a message.

## Main results

* `Spelled.readFrom_eq` — labels that are spelled are read.
* `Writer.spelled_labels` — labels that are written are spelled.
* `read_writeQuestions` — **questions are read as they were written.**
* `Message.start_of_decode` — **a message that is written and read keeps what comes before its
  records.**
* `Message.IsBare.decode_encode` — a message with nothing but questions is read as it was written.
-/

namespace DohRelay.Dns

open Reader Writer

/-! ### Names that can be read -/

/-- Some labels can be read at a position of a message, in a stretch that began at `start` and ends
before `stop`. -/
inductive Spelled (message : Array UInt8) : Nat → List Label → Nat → Nat → Prop
  /-- The name is over. -/
  | root {start p : Nat} (h : message[p]? = some 0) : Spelled message start [] p (p + 1)
  /-- A label stands here, and those after it behind it. -/
  | label {start p stop : Nat} {l : Label} {rest : List Label}
      (h : Stands (UInt8.ofNat l.length :: l.bytes) message p)
      (tail : Spelled message start rest (p + 1 + l.length) stop) :
      Spelled message start (l :: rest) p stop
  /-- A pointer stands here, to a stretch that ends before this one began. -/
  | pointer {start p target stop : Nat} {l : Label} {rest : List Label}
      (h : Stands (bytes16 (0xc000 ||| UInt16.ofNat target)) message p) (near : target < 0x4000)
      (tail : Spelled message target (l :: rest) target stop) (before : stop ≤ start) :
      Spelled message start (l :: rest) p (p + 2)

namespace Spelled

variable {message : Array UInt8} {start p stop : Nat} {ls : List Label}

theorem lt_stop (h : Spelled message start ls p stop) : p < stop := by
  induction h with
  | root => omega
  | label => omega
  | pointer => omega

/-- A stretch that began earlier has less to point to. -/
theorem mono (h : Spelled message start ls p stop) {later : Nat} (hle : start ≤ later) :
    Spelled message later ls p stop := by
  induction h with
  | root h => exact .root h
  | label h _ ih => exact .label h (ih hle)
  | pointer h near tail before => exact .pointer h near tail (Nat.le_trans before hle)

end Spelled

/-- The length of a label has neither of the two upper bits set. -/
theorem Label.isLengthOctet (l : Label) : isLengthOctet (UInt8.ofNat l.length) = true := by
  have hshort : l.length < 64 := Nat.lt_succ_of_le l.short
  have hall : ∀ n : Fin 64, Dns.isLengthOctet (UInt8.ofNat n) = true := by decide
  exact hall ⟨l.length, hshort⟩

/-- A pointer tells its target. -/
theorem pointer_value {target : Nat} (h : target < 0x4000) :
    ∃ high low, bytes16 (0xc000 ||| UInt16.ofNat target) = [high, low] ∧ high ≠ 0 ∧
      isPointerOctet high = true ∧ (high &&& 0x3f).toNat * 256 + low.toNat = target := by
  have hsum : (0xc000 ||| UInt16.ofNat target).toNat = 0xc000 + target := by
    rw [UInt16.toNat_or, UInt16.toNat_ofNat_of_lt' (by simp only [UInt16.size]; omega)]
    exact (Nat.shiftLeft_add_eq_or_of_lt (i := 14) h 3).symm
  have hhigh : ((0xc000 ||| UInt16.ofNat target) >>> 8).toUInt8.toNat = 192 + target / 256 := by
    simp only [UInt16.toNat_toUInt8, UInt16.toNat_shiftRight, hsum, Nat.shiftRight_eq_div_pow]
    simp
    omega
  have hlow : (0xc000 ||| UInt16.ofNat target).toUInt8.toNat = target % 256 := by
    rw [UInt16.toNat_toUInt8, hsum]
    omega
  refine ⟨_, _, rfl, fun hzero => ?_, isPointerOctet_of_pointer _, ?_⟩
  · rw [hzero] at hhigh
    simp only [UInt8.toNat_zero] at hhigh
    omega
  · have hmask : (0x3f : UInt8).toNat = 2 ^ 6 - 1 := rfl
    rw [hlow, UInt8.toNat_and, hhigh, hmask, Nat.and_two_pow_sub_one_eq_mod]
    omega

/-- One more label after those that are known, if there is room for it. -/
theorem Name.extend_bytes {known : List Label} {l : Label}
    (hroom : Name.sizeOfLabels (known ++ [l]) ≤ Name.maxLength) :
    Name.extend known l.bytes = .ok (known ++ [l]) := by
  rw [Name.sizeOfLabels_append, Name.sizeOfLabels_cons, Name.sizeOfLabels_nil] at hroom
  rw [Name.extend, Label.ofBytes?_bytes]
  exact if_neg (by rw [Label.length] at hroom; omega)

/-- A name whose labels are not too many is not too long. -/
theorem Name.fits_of_sizeOfLabels {ls : List Label} (h : sizeOfLabels ls < maxLength) :
    Fits ⟨ls⟩ := by
  unfold Fits length
  split
  · decide
  · exact h

/-- A name that has room before a limit is read on. -/
private theorem Name.readFrom_guards {p stop : Nat} {limit : Option Nat} {known ls : List Label}
    (hlt : p < stop) (hlimit : ∀ n ∈ limit, stop ≤ n)
    (hfits : sizeOfLabels (known ++ ls) < maxLength) :
    ¬ limit.any (· ≤ p) = true ∧ ¬ Name.length ⟨known⟩ ≥ maxLength := by
  constructor
  · cases limit with
    | none => simp
    | some n =>
      have hle := hlimit n rfl
      simp
      omega
  · rw [sizeOfLabels_append] at hfits
    exact Nat.not_le.mpr (Name.fits_of_sizeOfLabels (by omega))

/-- **Labels that are spelled are read.** -/
theorem Spelled.readFrom_eq {message : Array UInt8} {start p stop : Nat} {ls : List Label}
    (h : Spelled message start ls p stop) {known : List Label} {limit : Option Nat}
    (hlimit : ∀ n ∈ limit, stop ≤ n)
    (hfits : Name.sizeOfLabels (known ++ ls) < Name.maxLength) :
    Name.readFrom message start limit known p = .ok (known ++ ls) stop := by
  induction h generalizing known limit with
  | @root start p hzero =>
    obtain ⟨hany, hlength⟩ := Name.readFrom_guards (Nat.lt_succ_self p) hlimit hfits
    rw [Name.readFrom, if_neg hany, if_neg hlength]
    split
    case h_1 hnone =>
      rw [hzero] at hnone
      cases hnone
    case h_2 b hb =>
      obtain rfl : 0 = b := Option.some.inj (hzero.symm.trans hb)
      rw [if_pos rfl, List.append_nil]
  | @label start p stop l rest hstands tail ih =>
    have hlt : p < stop := by
      have := tail.lt_stop
      omega
    obtain ⟨hany, hlength⟩ := Name.readFrom_guards hlt hlimit hfits
    obtain ⟨hvalue, hnonzero, hpointer⟩ := l.length_octet
    rw [Name.readFrom, if_neg hany, if_neg hlength]
    split
    case h_1 hnone =>
      rw [hstands.getElem?] at hnone
      cases hnone
    case h_2 b hb =>
      obtain rfl : UInt8.ofNat l.length = b := Option.some.inj (hstands.getElem?.symm.trans hb)
      have hbytes : Stands l.bytes message (p + 1) := Stands.right (x := [_]) hstands
      have hsize : p + 1 + l.length ≤ message.size := hbytes.le_size l.nonempty
      rw [if_neg hnonzero, if_neg (by simp [hpointer]), if_pos l.isLengthOctet]
      simp only [hvalue, if_pos hsize]
      have hextract : (message.extract (p + 1) (p + 1 + l.length)).toList = l.bytes :=
        hbytes.extract
      have hmore : known ++ [l] ++ rest = known ++ l :: rest := by simp
      rw [hextract, Name.extend_bytes]
      · simp only
        rw [ih hlimit (by rwa [hmore]), hmore]
      · rw [← hmore, Name.sizeOfLabels_append] at hfits
        omega
  | @pointer start p target stop l rest hstands near tail before ih =>
    obtain ⟨hany, hlength⟩ :=
      Name.readFrom_guards (Nat.lt_add_of_pos_right Nat.two_pos) hlimit hfits
    obtain ⟨high, low, hbytes, hnonzero, hpointer, hvalue⟩ := pointer_value near
    rw [hbytes] at hstands
    rw [Name.readFrom, if_neg hany, if_neg hlength]
    split
    case h_1 hnone =>
      rw [hstands.getElem?] at hnone
      cases hnone
    case h_2 b hb =>
      obtain rfl : high = b := Option.some.inj (hstands.getElem?.symm.trans hb)
      have hsecond : message[p + 1]? = some low := (Stands.right (x := [_]) hstands).getElem?
      have htarget : target < start := Nat.lt_of_lt_of_le tail.lt_stop before
      rw [if_neg hnonzero, if_pos hpointer, hsecond]
      simp only [hvalue]
      rw [if_pos htarget, ih (by simpa using before) hfits]

/-! ### Names that are written -/

namespace Writer

/-- The octets of a part that has been written, which a message has in their place. -/
structure Lies (message : Array UInt8) (out : Output) : Prop where
  /-- The part is among what has been written. -/
  size : out.reversed.length ≤ out.size
  /-- The message has its octets. -/
  stands : Stands out.reversed.reverse message (out.size - out.reversed.length)
  /-- The message is long enough. -/
  within : out.size ≤ message.size

/-- A pointer may lead to a position for some labels, in a stretch that begins behind `bound`. -/
def Recallable (message : Array UInt8) (bound : Nat) (ls : List Label) (p : Nat) : Prop :=
  p < 0x4000 ∧ ∃ stop ≤ bound, Spelled message p ls p stop

/-- The ends of names that are remembered are spelled where they are said to be. -/
def Recalled (message : Array UInt8) (out : Output) : Prop :=
  ∀ ls p, out.suffixes.lookup ls = some p → Recallable message out.size ls p

theorem Recallable.mono {message : Array UInt8} {bound more : Nat} {ls : List Label} {p : Nat}
    (h : Recallable message bound ls p) (hle : bound ≤ more) : Recallable message more ls p := by
  obtain ⟨hnear, stop, hstop, hspelled⟩ := h
  exact ⟨hnear, stop, Nat.le_trans hstop hle, hspelled⟩

/-- What was written before lies in a message that has all of it, and what was written last lies
behind that. -/
theorem Puts.lies {α : Type} {w : Writer α} {form : α → List UInt8 → Prop} (hw : Puts w form)
    {message : Array UInt8} {out out' : Output} {a : α} (hout : w out = .ok a out')
    (hroom : out.size ≤ limit) (h : Lies message out') :
    ∃ bytes, form a bytes ∧ Lies message out ∧ out'.size = out.size + bytes.length ∧
      Stands bytes message out.size := by
  obtain ⟨bytes, hreversed, hlength, -, hform⟩ := hw out a out' hroom hout
  have hsize : out.reversed.length ≤ out.size := by
    have hsize' := h.size
    rw [hlength, hreversed, List.length_append, List.length_reverse] at hsize'
    omega
  have hstart : out'.size - out'.reversed.length = out.size - out.reversed.length := by
    rw [hlength, hreversed, List.length_append, List.length_reverse]
    omega
  have hstands := h.stands
  rw [hstart, hreversed, List.reverse_append, List.reverse_reverse] at hstands
  have hwithin : out.size ≤ message.size :=
    Nat.le_trans (hlength ▸ Nat.le_add_right _ _) h.within
  refine ⟨bytes, hform, ⟨hsize, hstands.left, hwithin⟩, hlength, ?_⟩
  have hlast := hstands.right
  rwa [List.length_reverse, Nat.sub_add_cancel hsize] at hlast

/-- There was room for what has been written. -/
theorem Puts.room {α : Type} {w : Writer α} {form : α → List UInt8 → Prop} (hw : Puts w form)
    {out out' : Output} {a : α} (hout : w out = .ok a out') (hroom : out.size ≤ limit) :
    out'.size ≤ limit := by
  obtain ⟨_, _, _, hlimit, _⟩ := hw out a out' hroom hout
  exact hlimit

/-- Octets are put behind those written, and nothing is remembered. -/
theorem put_eq_ok {bytes : List UInt8} {out out' : Output} {u : Unit}
    (h : put bytes out = .ok u out') :
    out'.size = out.size + bytes.length ∧ out'.suffixes = out.suffixes := by
  simp only [put] at h
  split at h
  case isTrue => cases h
  case isFalse => cases h; exact ⟨rfl, rfl⟩

/-- A name is ended with one octet, unless it is too long then. -/
theorem endName_eq_ok {start : Nat} {out out' : Output} {u : Unit}
    (h : endName start out = .ok u out') :
    out.size + 1 - start ≤ Name.maxLength ∧ out'.suffixes = out.suffixes := by
  obtain ⟨_, out₁, hput, h⟩ := bind_eq_ok h
  obtain ⟨stop, _, hsize, h⟩ := bind_eq_ok h
  cases hsize
  obtain ⟨hsize, hsuffixes⟩ := put_eq_ok hput
  simp only [hsize] at h
  split at h
  case isTrue => cases h
  case isFalse hfits =>
    cases h
    exact ⟨Nat.le_of_not_lt hfits, hsuffixes⟩

/-- Labels are remembered where they begin, or not at all, and nothing else is put out. -/
theorem rememberUpTo_eq_ok {stop : Nat} {ls : List Label} {out out' : Output} {u : Unit}
    (h : rememberUpTo stop ls out = .ok u out') :
    out'.size = out.size ∧ ∀ ks p, out'.suffixes.lookup ks = some p →
      out.suffixes.lookup ks = some p ∨ ks = ls ∧ p = out.size ∧ stop < pointerLimit := by
  unfold rememberUpTo at h
  split at h
  case isFalse =>
    cases h
    exact ⟨rfl, fun _ _ => .inl⟩
  case isTrue hstop =>
    cases h
    refine ⟨rfl, fun ks p hp => ?_⟩
    rw [List.lookup_cons] at hp
    split at hp
    case h_1 heq =>
      cases hp
      exact .inr ⟨eq_of_beq heq, rfl, hstop⟩
    case h_2 => exact .inl hp

/-- What is remembered once some labels are written was remembered before, or is some of their last
ones, and those are spelled in the same stretch. -/
def Remembers (message : Array UInt8) (start : Nat) (out out' : Output) : Prop :=
  ∀ ls p, out'.suffixes.lookup ls = some p → out.suffixes.lookup ls = some p ∨
    p < 0x4000 ∧ start ≤ p ∧ Spelled message start ls p out'.size

/-- **Labels that are written are spelled.** -/
theorem spelled_labels {message : Array UInt8} {start stop : Nat} {ls : List Label}
    {out out' : Output} {u : Unit} (hout : labels start stop ls out = .ok u out')
    (hstart : start ≤ out.size) (hstop : out.size + Name.sizeOfLabels ls ≤ stop)
    (hroom : out.size ≤ limit) (hlies : Lies message out')
    (hrecalled : ∀ ks p, out.suffixes.lookup ks = some p → ks.length ≤ ls.length →
      Recallable message start ks p) :
    Spelled message start ls out.size out'.size ∧ Remembers message start out out' := by
  induction ls generalizing out with
  | nil =>
    obtain ⟨_, rfl, -, hsize, hstands⟩ := (puts_endName start).lies hout hroom hlies
    rw [hsize]
    refine ⟨.root hstands.getElem?, fun ks p hp => .inl ?_⟩
    rwa [(endName_eq_ok hout).2] at hp
  | cons l rest ih =>
    obtain ⟨found, _, hfind, hout⟩ := bind_eq_ok hout
    cases hfind
    cases hp : out.suffixes.lookup (l :: rest) with
    | some p =>
      rw [hp] at hout
      obtain ⟨hnear, stop', hbefore, hspelled⟩ := hrecalled _ p hp (Nat.le_refl _)
      obtain ⟨_, rfl, -, hsize, hstands⟩ := (puts_put _).lies hout hroom hlies
      rw [Nat.mod_eq_of_lt hnear] at hstands
      rw [hsize]
      refine ⟨.pointer hstands hnear hspelled hbefore, fun ks p hp => .inl ?_⟩
      rwa [(put_eq_ok hout).2] at hp
    | none =>
      rw [hp] at hout
      obtain ⟨_, out₁, hremember, hout⟩ := bind_eq_ok hout
      obtain ⟨_, out₂, hlabel, hout⟩ := bind_eq_ok hout
      obtain ⟨hsize₁, hlookup₁⟩ := rememberUpTo_eq_ok hremember
      have hroom₂ := (puts_put _).room hlabel (hsize₁ ▸ hroom)
      obtain ⟨_, -, hlies₂, -, -⟩ := (puts_labels start stop rest).lies hout hroom₂ hlies
      obtain ⟨_, rfl, -, hsize₂, hstands⟩ := (puts_put _).lies hlabel (hsize₁ ▸ hroom) hlies₂
      have hlength : out₂.size = out.size + 1 + l.length := by
        rw [hsize₂, hsize₁, List.length_cons, Label.length]
        omega
      rw [hsize₁] at hstands
      rw [Name.sizeOfLabels_cons] at hstop
      -- what has just been remembered has more labels than are left
      have hrecalled₂ : ∀ ks p, out₂.suffixes.lookup ks = some p → ks.length ≤ rest.length →
          Recallable message start ks p := by
        intro ks p hks hlength
        rw [(put_eq_ok hlabel).2] at hks
        rcases hlookup₁ ks p hks with hold | ⟨rfl, -⟩
        · exact hrecalled ks p hold (Nat.le_succ_of_le hlength)
        · exact absurd hlength (Nat.not_succ_le_self _)
      obtain ⟨htail, hremembers⟩ :=
        ih hout (by omega) (by omega) hroom₂ hrecalled₂
      have hspelled : Spelled message start (l :: rest) out.size out'.size :=
        .label hstands (hlength ▸ htail)
      refine ⟨hspelled, fun ks p hks => ?_⟩
      rcases hremembers ks p hks with hbefore | ⟨hnear, hle, htail⟩
      · rw [(put_eq_ok hlabel).2] at hbefore
        rcases hlookup₁ ks p hbefore with hold | ⟨rfl, rfl, hnear⟩
        · exact .inl hold
        · rw [pointerLimit] at hnear
          exact .inr ⟨by omega, hstart, hspelled⟩
      · exact .inr ⟨hnear, hle, htail⟩

/-- Where no end of some labels is remembered, they are written in full, so they are not too long.
-/
theorem sizeOfLabels_le_of_labels {start stop : Nat} {ls : List Label} {out out' : Output}
    {u : Unit} (hout : labels start stop ls out = .ok u out')
    (hnew : ∀ ks p, out.suffixes.lookup ks = some p → ls.length < ks.length) :
    out.size + Name.sizeOfLabels ls + 1 - start ≤ Name.maxLength := by
  induction ls generalizing out with
  | nil => exact (endName_eq_ok hout).1
  | cons l rest ih =>
    obtain ⟨found, _, hfind, hout⟩ := bind_eq_ok hout
    cases hfind
    cases hp : out.suffixes.lookup (l :: rest) with
    | some p => exact absurd (hnew _ p hp) (Nat.lt_irrefl _)
    | none =>
      rw [hp] at hout
      obtain ⟨_, out₁, hremember, hout⟩ := bind_eq_ok hout
      obtain ⟨_, out₂, hlabel, hout⟩ := bind_eq_ok hout
      obtain ⟨hsize₁, hlookup₁⟩ := rememberUpTo_eq_ok hremember
      obtain ⟨hsize₂, hsuffixes₂⟩ := put_eq_ok hlabel
      have hrest := ih hout fun ks p hks => by
        rw [hsuffixes₂] at hks
        rcases hlookup₁ ks p hks with hold | ⟨rfl, -⟩
        · exact Nat.lt_of_succ_lt (hnew ks p hold)
        · exact Nat.lt_succ_self _
      rw [hsize₂, hsize₁, List.length_cons] at hrest
      rw [Name.sizeOfLabels_cons, Label.length]
      omega

/-- The first question of a message is written only if its name fits. -/
theorem fits_of_writeQuestions {q : Question} {rest : List Question} {position : Nat} {out : Output}
    {u : Unit} (h : writeQuestions 0 (q :: rest) (blank position) = .ok u out) : q.name.Fits := by
  obtain ⟨_, out₁, hquestion, -⟩ := bind_eq_ok h
  split at hquestion
  case h_1 => cases hquestion
  case h_2 =>
    obtain ⟨_, out₂, hname, -⟩ := bind_eq_ok hquestion
    obtain ⟨start, _, hsize, hname⟩ := bind_eq_ok hname
    cases hsize
    obtain ⟨_, out₃, hreserve, hlabels⟩ := bind_eq_ok hname
    obtain ⟨rfl, -⟩ := reserve_eq_ok hreserve
    have hle := sizeOfLabels_le_of_labels hlabels (by simp [blank])
    have hlt : Name.sizeOfLabels q.name.labels < Name.maxLength := by omega
    exact Name.fits_of_sizeOfLabels hlt

/-! ### Names and questions that are read -/

/-- More octets are written, and nothing is remembered. -/
theorem Recalled.mono {message : Array UInt8} {out out' : Output} (h : Recalled message out)
    (hsuffixes : out'.suffixes = out.suffixes) (hsize : out.size ≤ out'.size) :
    Recalled message out' := by
  intro ls p hp
  rw [hsuffixes] at hp
  exact (h ls p hp).mono hsize

/-- A name that was spelled is read, and its ends are recalled as they are remembered. -/
theorem read_of_spelled {message : Array UInt8} {n : Name} {out out' : Output} (hfits : n.Fits)
    (hspelled : Spelled message out.size n.labels out.size out'.size)
    (hremembers : Remembers message out.size out out') (hrecalled : Recalled message out) :
    Reader.name message out.size = .ok n out'.size ∧ Recalled message out' := by
  constructor
  · have hread : Name.readFrom message out.size none [] out.size = .ok n.labels out'.size :=
      hspelled.readFrom_eq nofun hfits.sizeOfLabels_lt
    rw [Reader.name, hread]
  · intro ks p hks
    rcases hremembers ks p hks with hold | ⟨hnear, hle, hspelled'⟩
    · exact (hrecalled ks p hold).mono (Nat.le_of_lt hspelled.lt_stop)
    · exact ⟨hnear, out'.size, Nat.le_refl _, hspelled'.mono hle⟩

/-- A name is read as it was written. -/
theorem read_name {message : Array UInt8} {n : Name} {out out' : Output} {u : Unit}
    (hout : name n out = .ok u out') (hfits : n.Fits) (hroom : out.size ≤ limit)
    (hlies : Lies message out') (hrecalled : Recalled message out) :
    Reader.name message out.size = .ok n out'.size ∧ Recalled message out' := by
  obtain ⟨start, _, hsize, hout⟩ := bind_eq_ok hout
  cases hsize
  obtain ⟨_, out₁, hreserve, hout⟩ := bind_eq_ok hout
  obtain ⟨rfl, -⟩ := reserve_eq_ok hreserve
  obtain ⟨hspelled, hremembers⟩ := spelled_labels hout (Nat.le_refl _) (Nat.le_refl _) hroom hlies
    fun ks p hks _ => hrecalled ks p hks
  exact read_of_spelled hfits hspelled hremembers hrecalled

/-- A question is read as it was written. -/
theorem read_writeQuestion {message : Array UInt8} {q : Question} {out out' : Output} {u : Unit}
    (hout : writeQuestion q out = .ok u out') (hfits : q.name.Fits) (hroom : out.size ≤ limit)
    (hlies : Lies message out') (hrecalled : Recalled message out) :
    readQuestion message out.size = .ok q out'.size ∧ Recalled message out' := by
  obtain ⟨_, out₁, hname, hout⟩ := bind_eq_ok hout
  obtain ⟨_, out₂, htype, hclass⟩ := bind_eq_ok hout
  have hroom₁ := (puts_name q.name).room hname hroom
  have hroom₂ := (puts_word16 _).room htype hroom₁
  obtain ⟨_, rfl, hlies₂, hsize', hstands'⟩ := (puts_word16 _).lies hclass hroom₂ hlies
  obtain ⟨_, rfl, hlies₁, hsize₂, hstands₂⟩ := (puts_word16 _).lies htype hroom₁ hlies₂
  obtain ⟨hread, hrecalled₁⟩ := read_name hname hfits hroom hlies₁ hrecalled
  have hreadType := gives_word16 _ message _ hstands₂
  have hreadClass := gives_word16 _ message _ hstands'
  rw [← hsize₂] at hreadType
  rw [← hsize'] at hreadClass
  refine ⟨?_, (hrecalled₁.mono (put_eq_ok htype).2 (by omega)).mono (put_eq_ok hclass).2
    (by omega)⟩
  exact (Reader.bind_of_ok hread).trans ((Reader.bind_of_ok hreadType).trans
    ((Reader.bind_of_ok hreadClass).trans rfl))

/-- **Questions are read as they were written.** -/
theorem read_writeQuestions {message : Array UInt8} {written : Nat} {qs : List Question}
    {out out' : Output} {u : Unit} (hout : writeQuestions written qs out = .ok u out')
    (hfits : ∀ q ∈ qs, q.name.Fits) (hroom : out.size ≤ limit) (hlies : Lies message out')
    (hrecalled : Recalled message out) :
    times readQuestion qs.length message out.size = .ok qs out'.size ∧ Recalled message out' := by
  induction qs generalizing written out with
  | nil =>
    cases hout
    exact ⟨rfl, hrecalled⟩
  | cons q rest ih =>
    obtain ⟨hfirst, hothers⟩ := List.forall_mem_cons.mp hfits
    rw [writeQuestions] at hout
    obtain ⟨_, out₁, hq, hrest⟩ := bind_eq_ok hout
    split at hq
    case h_1 => cases hq
    case h_2 =>
      have hroom₁ := (puts_writeQuestion q).room hq hroom
      obtain ⟨_, -, hlies₁, -, -⟩ := (puts_writeQuestions _ rest).lies hrest hroom₁ hlies
      obtain ⟨hread, hrecalled₁⟩ := read_writeQuestion hq hfirst hroom hlies₁ hrecalled
      obtain ⟨hreadRest, hrecalled'⟩ := ih hrest hothers hroom₁ hrecalled₁
      exact ⟨(Reader.bind_of_ok hread).trans ((Reader.bind_of_ok hreadRest).trans rfl),
        hrecalled'⟩

/-- So many questions as are written can be counted. -/
theorem size_writeQuestions {qs : List Question} {out : Output} {u : Unit}
    (hout : writeQuestions 0 qs (blank headerLength) = .ok u out) :
    out.size = headerLength + out.reversed.length ∧
      (UInt16.ofNat qs.length).toNat = qs.length := by
  obtain ⟨bytes, hreversed, hsize, hlimit, hform⟩ :=
    puts_writeQuestions 0 qs _ _ _ (by decide) hout
  have hlength : out.reversed.length = bytes.length := by
    rw [hreversed, List.length_append, List.length_reverse]
    rfl
  refine ⟨by rw [hsize, hlength]; rfl, ?_⟩
  have hbytes : bytes.length ≤ limit := by
    rw [hsize] at hlimit
    exact Nat.le_trans (Nat.le_add_left _ _) hlimit
  exact hform.toNat_length (by decide) QuestionForm.length_ge hbytes

end Writer

/-! ### Messages -/

/-- A header is read, with the counts behind it. -/
theorem read_headerBytes {m : Message} {truncated : Bool} {a n d : Nat} {message : Array UInt8}
    (h : Stands (m.headerBytes truncated a n d) message 0) :
    readHeader message 0 = .ok (m.header truncated) 4 ∧
      word16 message 4 = .ok (.ofNat m.questions.length) 6 ∧
      word16 message 6 = .ok (.ofNat a) 8 ∧ word16 message 8 = .ok (.ofNat n) 10 ∧
      word16 message 10 = .ok (.ofNat d) 12 := by
  unfold Message.headerBytes at h
  exact ⟨gives_header m truncated message 0 h.left, gives_word16 _ message 4 h.right.left,
    gives_word16 _ message 6 h.right.right.left, gives_word16 _ message 8 h.right.right.right.left,
    gives_word16 _ message 10 h.right.right.right.right⟩

/-- The questions that are written behind a header are read behind it. -/
theorem read_questions {m : Message} (hfits : ∀ q ∈ m.questions, q.name.Fits) {out : Output}
    {u : Unit} (hout : writeQuestions 0 m.questions (blank headerLength) = .ok u out)
    {truncated : Bool} {a n d : Nat} {rest : List UInt8} {message : Array UInt8}
    (hmessage : message.toList = m.headerBytes truncated a n d ++ (out.reversed.reverse ++ rest)) :
    readHeader message 0 = .ok (m.header truncated) 4 ∧
      word16 message 4 = .ok (.ofNat m.questions.length) 6 ∧
      word16 message 6 = .ok (.ofNat a) 8 ∧ word16 message 8 = .ok (.ofNat n) 10 ∧
      word16 message 10 = .ok (.ofNat d) 12 ∧
      times readQuestion (UInt16.ofNat m.questions.length).toNat message 12 =
        .ok m.questions out.size := by
  obtain ⟨hsize, hcount⟩ := size_writeQuestions hout
  have hstands : Stands (m.headerBytes truncated a n d ++ (out.reversed.reverse ++ rest))
      message 0 := by
    rw [← hmessage]
    exact List.prefix_refl _
  have hbody : Stands (out.reversed.reverse ++ rest) message headerLength := by
    have h := hstands.right
    rwa [Message.length_headerBytes, Nat.zero_add] at h
  obtain ⟨hheader, hcount', ha, hn, hd⟩ := read_headerBytes hstands.left
  refine ⟨hheader, hcount', ha, hn, hd, ?_⟩
  have hstart : out.size - out.reversed.length = headerLength := by omega
  have hwithin : out.size ≤ message.size := by
    rw [← Array.length_toList, hmessage, List.length_append, List.length_append,
      Message.length_headerBytes, List.length_reverse]
    omega
  have hlies : Lies message out := ⟨by omega, by rw [hstart]; exact hbody.left, hwithin⟩
  rw [hcount]
  exact (read_writeQuestions hout hfits (by decide) hlies (by simp [Recalled, blank])).1

/-- A message whose first question has a name that does not fit is not written. -/
theorem Message.fits_of_encode {m : Message} {q : Question} (hquestions : m.questions = [q])
    {bytes : List UInt8} (h : m.encode = .ok bytes) : ∀ q ∈ m.questions, q.name.Fits := by
  unfold encode at h
  split at h
  case h_1 => cases h
  case h_2 hout =>
    obtain ⟨_, out, hwritten, -⟩ := Writer.bind_eq_ok hout
    rw [hquestions] at hwritten ⊢
    simpa using fits_of_writeQuestions hwritten

/-- **A message that is written and read keeps what comes before its records**: its questions, and
its header but for what depends on the records. -/
theorem Message.start_of_decode {m m' : Message} (hfits : ∀ q ∈ m.questions, q.name.Fits)
    {bytes : List UInt8} (hwritten : m.encode = .ok bytes) (hread : decode bytes = .ok m') :
    ∃ truncated, m' = { m.header truncated with
      rcode := m'.rcode
      questions := m.questions
      answers := m'.answers
      authority := m'.authority
      additional := m'.additional
      edns := m'.edns } := by
  obtain ⟨a, n, d, out, hout, hbytes⟩ := writeBody_of_encode hwritten
  obtain ⟨_, out₁, hquestions, hrecords⟩ := Writer.bind_eq_ok hout
  have hroom := (puts_writeQuestions 0 m.questions).room hquestions (by decide)
  -- what is written behind the questions leaves them where they are
  have hputs : Puts (do
      let answers ← writeRecords m.answers
      let authority ← writeRecords m.authority
      let additional ← writeRecords m.additional
      let extension ← writeRecords m.ednsRecords
      return (answers, authority, additional + extension)) fun _ _ => True :=
    (puts_writeRecords _).bind_any fun _ => (puts_writeRecords _).bind_any fun _ =>
      (puts_writeRecords _).bind_any fun _ => (puts_writeRecords _).bind_any fun _ =>
        .pure trivial
  obtain ⟨rest, hreversed, -⟩ := hputs out₁ _ out hroom hrecords
  rw [hreversed, List.reverse_append, List.reverse_reverse] at hbytes
  have hmessage : bytes.toArray.toList = _ := hbytes
  obtain ⟨hheader, hcount, ha, hn, hd, hquestions⟩ := read_questions hfits hquestions hmessage
  unfold decode Reader.run at hread
  split at hread
  case h_2 => cases hread
  case h_1 m'' p hm =>
    cases hread
    have h := hm
    unfold Message.read at h
    rw [Reader.bind_of_ok hheader, Reader.bind_of_ok hcount, Reader.bind_of_ok ha,
      Reader.bind_of_ok hn, Reader.bind_of_ok hd, Reader.bind_of_ok hquestions] at h
    obtain ⟨_, _, _, h⟩ := Reader.bind_eq_ok h
    obtain ⟨_, _, _, h⟩ := Reader.bind_eq_ok h
    obtain ⟨_, _, _, h⟩ := Reader.bind_eq_ok h
    cases h
    exact ⟨_, rfl⟩

/-- A message that is written and read keeps its questions. -/
theorem Message.questions_of_decode {m m' : Message} (hfits : ∀ q ∈ m.questions, q.name.Fits)
    {bytes : List UInt8} (hwritten : m.encode = .ok bytes) (hread : decode bytes = .ok m') :
    m'.questions = m.questions := by
  obtain ⟨_, h⟩ := start_of_decode hfits hwritten hread
  rw [h]

/-- A message with nothing but questions is read, but for the upper bits of its code, if they are
read behind its header. -/
theorem Message.IsBare.decode_of_questions {m : Message} (hm : m.IsBare) {bytes body : List UInt8}
    (hbytes : bytes = m.headerBytes m.truncated 0 0 0 ++ body) {p : Nat}
    (hquestions : times readQuestion (UInt16.ofNat m.questions.length).toNat bytes.toArray 12 =
      .ok m.questions p) : decode bytes = .ok { m with rcode := .join 0 m.rcode.low } := by
  have hstands : Stands (m.headerBytes m.truncated 0 0 0 ++ body) bytes.toArray 0 :=
    hbytes ▸ Stands.self bytes
  obtain ⟨hheader, hcount, ha, hn, hd⟩ := read_headerBytes hstands.left
  have hread : Message.read bytes.toArray 0 = .ok { m with rcode := .join 0 m.rcode.low } p := by
    unfold Message.read
    rw [Reader.bind_of_ok hheader, Reader.bind_of_ok hcount, Reader.bind_of_ok ha,
      Reader.bind_of_ok hn, Reader.bind_of_ok hd, Reader.bind_of_ok hquestions]
    -- no records are counted, so none are read
    exact congrArg (fun m => EStateM.Result.ok m p) hm.header_eq
  rw [decode, Reader.run, hread]

/-- **A message with nothing but questions is read as it was written**, but for the upper bits of
its code, for which there is no room. -/
theorem Message.IsBare.decode_encode {m : Message} (hm : m.IsBare)
    (hfits : ∀ q ∈ m.questions, q.name.Fits) {bytes : List UInt8} (h : m.encode = .ok bytes) :
    decode bytes = .ok { m with rcode := .join 0 m.rcode.low } := by
  rw [hm.encode_eq, Writer.run] at h
  split at h
  case h_2 => cases h
  case h_1 out hout =>
    rw [Except.map, Except.ok.injEq] at h
    have hbytes : bytes.toArray.toList =
        m.headerBytes m.truncated 0 0 0 ++ (out.reversed.reverse ++ []) := by
      rw [List.append_nil, h]
    obtain ⟨-, -, -, -, -, hquestions⟩ := read_questions hfits hout hbytes
    exact hm.decode_of_questions h.symm hquestions

end DohRelay.Dns
