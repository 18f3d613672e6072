import DohRelay.Proofs.Dns.Questions

/-!
# Readers that undo writers

A reader undoes a writer if, in every message that has what the writer put out in its place, it
makes a certain value of that and ends behind it.  This is closed under one after the other, so it
is told of a part of a message by the parts of that part.  Names make it depend on what was written
before, of which it is enough to know that the remembered ends of names are spelled where they are
said to be; and writers keep that.

## Main definitions

* `Reader.Makes` — a reader makes a value of some octets within a message.
* `Writer.Plain` — a writer puts out certain octets and remembers nothing.
* `Writer.ReadBy` — a reader undoes a writer.

## Main results

* `Writer.ReadBy.bind` — one writer after another is undone by one reader after another.
* `Writer.ReadBy.of_plain` — a reader of certain octets undoes the writer of these octets.
* `Writer.readBy_name`, `Writer.readBy_nameInFull` — **names are read as they are written.**
* `Writer.ReadBy.withLength` — what is written with its length is read with it.
-/

namespace DohRelay.Dns

namespace Reader

/-! ### Readers of octets that may be none -/

/-- A reader makes a value of some octets, wherever they stand within a message, and ends behind
them.  Within a message even no octets can be read, but not beyond its end. -/
def Makes {α : Type} (r : Reader α) (bytes : List UInt8) (a : α) : Prop :=
  ∀ message p, p ≤ message.size → Stands bytes message p → r message p = .ok a (p + bytes.length)

theorem Gives.makes {α : Type} {r : Reader α} {bytes : List UInt8} {a : α} (h : Gives r bytes a) :
    Makes r bytes a :=
  fun message p _ hstands => h message p hstands

/-- A reader behind a check that finds nothing reads as it does by itself. -/
theorem guard_of_not {α : Type} {c : Prop} [Decidable c] {fault : Fault} {r : Reader α}
    {message : Array UInt8} {p : Nat} (hc : ¬ c) :
    (if c then fail fault >>= fun _ : Unit => r else r) message p = r message p := by
  rw [if_neg hc]

/-- Octets that stand within a message end within it. -/
theorem le_size_of_stands {bytes : List UInt8} {message : Array UInt8} {p : Nat}
    (hp : p ≤ message.size) (h : Stands bytes message p) : p + bytes.length ≤ message.size := by
  cases bytes with
  | nil => exact hp
  | cons b rest => exact h.le_size (List.cons_ne_nil b rest)

/-- The position is told as it is. -/
theorem position_eq (message : Array UInt8) (p : Nat) : position message p = .ok p p := rfl

namespace Makes

variable {α β : Type} {r : Reader α} {a : α} {x y : List UInt8}

theorem bind {k : α → Reader β} {b : β} (hr : Makes r x a) (hk : Makes (k a) y b) :
    Makes (r >>= k) (x ++ y) b := by
  intro message p hp hstands
  have hp' := le_size_of_stands hp hstands.left
  rw [bind_of_ok (hr message p hp hstands.left), hk message _ hp' hstands.right,
    List.length_append, Nat.add_assoc]

theorem pure {b : α} (h : b = a) : Makes (Pure.pure b : Reader α) [] a :=
  (Gives.pure h).makes

theorem bind_end {k : α → Reader β} {b : β} (hr : Makes r x a) (hk : Makes (k a) [] b) :
    Makes (r >>= k) x b := by
  have h := hr.bind hk
  rwa [List.append_nil] at h

end Makes

theorem makes_octets (bytes : List UInt8) : Makes (octets bytes.length) bytes bytes := by
  intro message p hp hstands
  unfold octets
  rw [if_pos (le_size_of_stands hp hstands), hstands.extract]

theorem makes_charString {bytes : List UInt8} (hshort : bytes.length ≤ 255) :
    Makes charString (UInt8.ofNat bytes.length :: bytes) bytes := by
  have hlength : (UInt8.ofNat bytes.length).toNat = bytes.length :=
    UInt8.toNat_ofNat_of_lt' (by simp only [UInt8.size]; omega)
  refine (gives_octet _).makes.bind (x := [_]) ?_
  rw [hlength]
  exact makes_octets bytes

theorem makes_times_octet (bytes : List UInt8) : Makes (times octet bytes.length) bytes bytes := by
  induction bytes with
  | nil => exact .pure rfl
  | cons b rest ih => exact (gives_octet b).makes.bind (x := [b]) (ih.bind_end (.pure rfl))

/-- Twice as many octets are so many groups of sixteen bits. -/
theorem exists_makes_times_word16 {n : Nat} {bytes : List UInt8} (h : bytes.length = 2 * n) :
    ∃ groups, Makes (times word16 n) bytes groups := by
  induction n generalizing bytes with
  | zero =>
    obtain rfl : bytes = [] := List.length_eq_zero_iff.mp h
    exact ⟨[], .pure rfl⟩
  | succ n ih =>
    match bytes, h with
    | a :: b :: rest, h =>
      have hrest : rest.length = 2 * n := by
        simp only [List.length_cons] at h
        omega
      obtain ⟨groups, hgroups⟩ := ih hrest
      have hword : Makes word16 [a, b] ((a.toUInt16 <<< 8) ||| b.toUInt16) :=
        (makes_octets [a, b]).bind_end (.pure rfl)
      exact ⟨_, hword.bind (hgroups.bind_end (.pure rfl))⟩

end Reader

open Reader

namespace Writer

/-! ### Plain writers -/

/-- A writer puts out certain octets, if any, and remembers nothing. -/
def Plain (w : Writer Unit) (bytes : List UInt8) : Prop :=
  ∀ out u out', out.size ≤ limit → w out = .ok u out' → put bytes out = .ok () out'

/-- Octets that are put one part after the other may be put all at once. -/
theorem put_append {x y : List UInt8} {out middle out' : Output} {u v : Unit}
    (hx : put x out = .ok u middle) (hy : put y middle = .ok v out') :
    put (x ++ y) out = .ok () out' := by
  simp only [put] at hx hy ⊢
  split at hx
  case isTrue => cases hx
  case isFalse =>
    cases hx
    split at hy
    case isTrue => cases hy
    case isFalse hroom =>
      cases hy
      have hlength : ¬ limit < out.size + (x ++ y).length := by
        rw [List.length_append, ← Nat.add_assoc]
        exact hroom
      rw [if_neg hlength]
      simp only [List.reverseAux_eq, List.reverse_append, List.append_assoc, List.length_append,
        Nat.add_assoc]

namespace Plain

variable {w v : Writer Unit} {x y : List UInt8}

theorem of_put (bytes : List UInt8) : Plain (put bytes) bytes :=
  fun _ _ _ _ hout => hout

theorem puts (h : Plain w x) : Puts w fun _ _ => True :=
  fun out u out' hroom hout => (puts_put x).any out () out' hroom (h out u out' hroom hout)

theorem nil : Plain (Pure.pure ()) [] := by
  intro out u out' hroom hout
  cases hout
  exact if_neg (Nat.not_lt.mpr hroom)

theorem bind (hw : Plain w x) (hv : Plain v y) : Plain (w >>= fun _ => v) (x ++ y) := by
  intro out u out' hroom hout
  obtain ⟨_, middle, hfirst, hsecond⟩ := bind_eq_ok hout
  have hroom' := hw.puts.room hfirst hroom
  exact put_append (hw out _ middle hroom hfirst) (hv middle _ out' hroom' hsecond)

theorem forM {α : Type} {f : α → Writer Unit} {bytes : α → List UInt8}
    (h : ∀ a, Plain (f a) (bytes a)) (as : List α) : Plain (as.forM f) (as.flatMap bytes) := by
  induction as with
  | nil => exact nil
  | cons a as ih => exact (h a).bind ih

end Plain

/-- The octets of a character string: their number, and they themselves. -/
def charStringBytes (bytes : List UInt8) : List UInt8 :=
  UInt8.ofNat bytes.length :: bytes

/-- A character string is short enough for its length to have one octet. -/
theorem charString_eq_ok {bytes : List UInt8} {out out' : Output} {u : Unit}
    (h : charString bytes out = .ok u out') :
    bytes.length ≤ 255 ∧ (do octet (UInt8.ofNat bytes.length); put bytes) out = .ok u out' := by
  unfold charString at h
  split at h
  case isTrue =>
    obtain ⟨_, _, hfail, _⟩ := bind_eq_ok h
    cases hfail
  case isFalse hshort => exact ⟨Nat.le_of_not_lt hshort, h⟩

theorem plain_charString (bytes : List UInt8) : Plain (charString bytes) (charStringBytes bytes) :=
  fun out u out' hroom hout =>
    (Plain.of_put [_]).bind (.of_put bytes) out u out' hroom (charString_eq_ok hout).2

/-- What is put with its length is put behind it. -/
theorem withLength_eq_ok {w : Writer Unit} {out out' : Output} {u : Unit}
    (h : withLength w out = .ok u out') :
    ∃ inner, w { out with reversed := [], size := out.size + 2 } = .ok () inner ∧
      out.size + 2 ≤ limit ∧ out' = { inner with
        reversed := inner.reversed ++
          (bytes16 (.ofNat (inner.size - (out.size + 2)))).reverse ++ out.reversed } := by
  obtain ⟨_, out₁, hreserve, hrest⟩ := bind_eq_ok h
  obtain ⟨rfl, hroom⟩ := reserve_eq_ok hreserve
  simp only at hrest
  split at hrest
  case h_1 => cases hrest
  case h_2 inner hw =>
    cases hrest
    exact ⟨inner, hw, hroom, rfl⟩

theorem Plain.withLength {w : Writer Unit} {bytes : List UInt8} (h : Plain w bytes) :
    Plain (withLength w) (bytes16 (.ofNat bytes.length) ++ bytes) := by
  intro out u out' _ hout
  obtain ⟨inner, hinner, hroom, rfl⟩ := withLength_eq_ok hout
  have hput := h _ _ _ hroom hinner
  simp only [put] at hput ⊢
  split at hput
  case isTrue => cases hput
  case isFalse hroom' =>
    cases hput
    have hlength : ¬ limit < out.size + (bytes16 (.ofNat bytes.length) ++ bytes).length := by
      simp only [bytes16, List.length_append, List.length_cons, List.length_nil]
      omega
    rw [if_neg hlength]
    simp only [List.reverseAux_eq, List.reverse_append, List.append_nil, List.append_assoc,
      Nat.add_sub_cancel_left, bytes16, List.length_append, List.length_cons, List.length_nil]
    rw [show out.size + (0 + 1 + 1 + bytes.length) = out.size + 2 + bytes.length by omega]

/-- The length of octets that are not more than a message can have has two octets. -/
theorem toNat_ofNat_length {bytes : List UInt8} (h : bytes.length ≤ limit) :
    (UInt16.ofNat bytes.length).toNat = bytes.length := by
  refine UInt16.toNat_ofNat_of_lt' ?_
  simp only [limit, UInt16.size] at h ⊢
  omega

/-- The octets of a key and a value. -/
def pairBytes (key : UInt16) (value : List UInt8) : List UInt8 :=
  bytes16 key ++ (bytes16 (.ofNat value.length) ++ value)

theorem plain_pair (key : UInt16) (value : List UInt8) :
    Plain (pair key value) (pairBytes key value) :=
  (Plain.of_put _).bind (Plain.of_put value).withLength

/-! ### Writers that are undone -/

/-- A reader, told how many octets a writer put out, makes a value of them in every message that has
them in their place, and ends behind them; and what is remembered can still be recalled. -/
structure ReadBy {β : Type} (w : Writer Unit) (r : Nat → Reader β) (b : β) : Prop where
  /-- The writer puts out octets. -/
  puts : Puts w fun _ _ => True
  /-- The reader makes the value of them. -/
  reads : ∀ {message : Array UInt8} {out out' : Output} {u : Unit}, out.size ≤ limit →
    w out = .ok u out' → Lies message out' → Recalled message out →
      r (out'.size - out.size) message out.size = .ok b out'.size ∧ Recalled message out'

namespace ReadBy

variable {α β : Type} {w v : Writer Unit} {a : α} {b : β}

/-- What a writer put out is read, and what comes behind it is still to be read. -/
theorem peel {r : Reader α} (hw : ReadBy w (fun _ => r) a) (hv : Puts v fun _ _ => True)
    {message : Array UInt8} {out out' : Output} {u : Unit} (hroom : out.size ≤ limit)
    (hout : (w >>= fun _ => v) out = .ok u out') (hlies : Lies message out')
    (hrecalled : Recalled message out) :
    ∃ middle, v middle = .ok u out' ∧ out.size ≤ middle.size ∧ middle.size ≤ limit ∧
      r message out.size = .ok a middle.size ∧ Recalled message middle := by
  obtain ⟨_, middle, hfirst, hsecond⟩ := bind_eq_ok hout
  have hroom' := hw.puts.room hfirst hroom
  obtain ⟨_, -, hlies', -, -⟩ := hv.lies hsecond hroom' hlies
  obtain ⟨_, -, -, hsize, -⟩ := hw.puts.lies hfirst hroom hlies'
  obtain ⟨hread, hrecalled'⟩ := hw.reads hroom hfirst hlies' hrecalled
  exact ⟨middle, hsecond, hsize ▸ Nat.le_add_right _ _, hroom', hread, hrecalled'⟩

/-- One writer after another is undone by one reader after another. -/
theorem bind {r : Reader α} {s : α → Reader β} (hw : ReadBy w (fun _ => r) a)
    (hv : ReadBy v (fun _ => s a) b) : ReadBy (w >>= fun _ => v) (fun _ => r >>= s) b where
  puts := hw.puts.bind_any fun _ => hv.puts
  reads := by
    intro message out out' u hroom hout hlies hrecalled
    obtain ⟨middle, hsecond, -, hroom', hread, hrecalled'⟩ :=
      hw.peel hv.puts hroom hout hlies hrecalled
    obtain ⟨hread', hrecalled''⟩ := hv.reads hroom' hsecond hlies hrecalled'
    exact ⟨(Reader.bind_of_ok hread).trans hread', hrecalled''⟩

/-- A value is made of what a reader makes. -/
theorem map {r : Nat → Reader α} (h : ReadBy w r a) (f : α → β) :
    ReadBy w (fun n => r n >>= fun a => pure (f a)) (f a) where
  puts := h.puts
  reads hroom hout hlies hrecalled := by
    obtain ⟨hread, hrecalled'⟩ := h.reads hroom hout hlies hrecalled
    exact ⟨(Reader.bind_of_ok hread).trans rfl, hrecalled'⟩

/-- A reader of certain octets, of which there are no more than a message can have, undoes the
writer of these octets. -/
theorem of_plain {r : Nat → Reader β} {bytes : List UInt8} (hw : Plain w bytes)
    (hr : bytes.length ≤ limit → Makes (r bytes.length) bytes b) : ReadBy w r b where
  puts := hw.puts
  reads := by
    intro message out out' u hroom hout hlies hrecalled
    have hput := hw out u out' hroom hout
    obtain ⟨written, hwritten, -, hsize, hstands⟩ := (puts_put bytes).lies hput hroom hlies
    rw [hwritten] at hsize hstands
    have hlength : out'.size - out.size = bytes.length := by omega
    have hroom' := (puts_put bytes).room hput hroom
    have hwithin : out.size ≤ message.size := by
      have := hlies.within
      omega
    rw [hlength, hsize]
    exact ⟨hr (by omega) message _ hwithin hstands,
      hrecalled.mono (put_eq_ok hput).2 (by omega)⟩

/-- It is enough to look at a writer that has put out something somewhere. -/
theorem of_written {r : Nat → Reader β} (hputs : Puts w fun _ _ => True)
    (h : ∀ out u out', w out = .ok u out' → ReadBy w r b) : ReadBy w r b where
  puts := hputs
  reads hroom hout := (h _ _ _ hout).reads hroom hout

theorem word16 (n : UInt16) : ReadBy (word16 n) (fun _ => Reader.word16) n :=
  of_plain (.of_put _) fun _ => (gives_word16 n).makes

theorem word32 (n : UInt32) : ReadBy (word32 n) (fun _ => Reader.word32) n :=
  of_plain (.of_put _) fun _ => (gives_word32 n).makes

theorem charString (bytes : List UInt8) :
    ReadBy (charString bytes) (fun _ => Reader.charString) bytes :=
  of_written (plain_charString bytes).puts fun _ _ _ hout =>
    of_plain (plain_charString bytes) fun _ => makes_charString (charString_eq_ok hout).1

end ReadBy

/-! ### Names -/

/-- Labels that are written in full are spelled. -/
theorem spelled_labelsInFull {message : Array UInt8} {start stop : Nat} {ls : List Label}
    {out out' : Output} {u : Unit} (hout : labelsInFull start stop ls out = .ok u out')
    (hstart : start ≤ out.size) (hstop : out.size + Name.sizeOfLabels ls ≤ stop)
    (hroom : out.size ≤ limit) (hlies : Lies message out') :
    Spelled message start ls out.size out'.size ∧ Remembers message start out out' := by
  induction ls generalizing out with
  | nil =>
    obtain ⟨_, rfl, -, hsize, hstands⟩ := (puts_endName start).lies hout hroom hlies
    rw [hsize]
    refine ⟨.root hstands.getElem?, fun ks p hp => .inl ?_⟩
    rwa [(endName_eq_ok hout).2] at hp
  | cons l rest ih =>
    obtain ⟨found, _, hfind, hout⟩ := bind_eq_ok hout
    cases hfind
    -- the end may be remembered or not, and nothing is put out by that
    obtain ⟨out₁, hsize₁, hlookup₁, hout⟩ : ∃ out₁, out₁.size = out.size ∧
        (∀ ks p, out₁.suffixes.lookup ks = some p → out.suffixes.lookup ks = some p ∨
          ks = l :: rest ∧ p = out.size ∧ stop < pointerLimit) ∧
        (label l >>= fun _ => labelsInFull start stop rest) out₁ = .ok u out' := by
      split at hout
      case isTrue =>
        obtain ⟨_, out₁, hremember, hout⟩ := bind_eq_ok hout
        obtain ⟨hsize₁, hlookup₁⟩ := rememberUpTo_eq_ok hremember
        exact ⟨out₁, hsize₁, hlookup₁, hout⟩
      case isFalse => exact ⟨out, rfl, fun _ _ => .inl, hout⟩
    obtain ⟨_, out₂, hlabel, hout⟩ := bind_eq_ok hout
    have hroom₂ := (puts_put _).room hlabel (hsize₁ ▸ hroom)
    obtain ⟨_, -, hlies₂, -, -⟩ := (puts_labelsInFull start stop rest).lies hout hroom₂ hlies
    obtain ⟨_, rfl, -, hsize₂, hstands⟩ := (puts_put _).lies hlabel (hsize₁ ▸ hroom) hlies₂
    have hlength : out₂.size = out.size + 1 + l.length := by
      rw [hsize₂, hsize₁, List.length_cons, Label.length]
      omega
    rw [hsize₁] at hstands
    rw [Name.sizeOfLabels_cons] at hstop
    obtain ⟨htail, hremembers⟩ := ih hout (by omega) (by omega) hroom₂
    have hspelled : Spelled message start (l :: rest) out.size out'.size :=
      .label hstands (hlength ▸ htail)
    refine ⟨hspelled, fun ks p hks => ?_⟩
    rcases hremembers ks p hks with hbefore | hremembered
    · rw [(put_eq_ok hlabel).2] at hbefore
      rcases hlookup₁ ks p hbefore with hold | ⟨rfl, rfl, hnear⟩
      · exact .inl hold
      · rw [pointerLimit] at hnear
        exact .inr ⟨by omega, hstart, hspelled⟩
    · exact .inr hremembered

/-- **A name is read as it is written.** -/
theorem readBy_name {n : Name} (hfits : n.Fits) : ReadBy (name n) (fun _ => Reader.name) n where
  puts := (puts_name n).any
  reads hroom hout hlies hrecalled := read_name hout hfits hroom hlies hrecalled

/-- **So is a name that is written in full.** -/
theorem readBy_nameInFull {n : Name} (hfits : n.Fits) :
    ReadBy (nameInFull n) (fun _ => Reader.name) n where
  puts := (puts_nameInFull n).any
  reads := by
    intro message out out' u hroom hout hlies hrecalled
    obtain ⟨start, _, hsize, hout⟩ := bind_eq_ok hout
    cases hsize
    obtain ⟨hspelled, hremembers⟩ :=
      spelled_labelsInFull hout (Nat.le_refl _) (Nat.le_refl _) hroom hlies
    exact read_of_spelled hfits hspelled hremembers hrecalled

/-! ### Lengths -/

/-- What is written with its length is read with it: the length is read first, and so many octets
are left in the message. -/
theorem ReadBy.withLength {β : Type} {w : Writer Unit} {r : Nat → Reader β} {b : β}
    (h : ReadBy w r b) {message : Array UInt8} {out out' : Output} {u : Unit}
    (hout : Writer.withLength w out = .ok u out') (hlies : Lies message out')
    (hrecalled : Recalled message out) :
    ∃ length : UInt16, Reader.word16 message out.size = .ok length (out.size + 2) ∧
      out'.size = out.size + 2 + length.toNat ∧
      r length.toNat message (out.size + 2) = .ok b out'.size ∧ Recalled message out' := by
  obtain ⟨inner, hinner, hroom, rfl⟩ := withLength_eq_ok hout
  obtain ⟨bytes, hreversed, hsize, hlimit, -⟩ := h.puts _ _ _ hroom hinner
  simp only [List.append_nil] at hreversed hsize
  have hsub : inner.size - (out.size + 2) = bytes.length := by omega
  have hlength : (UInt16.ofNat bytes.length).toNat = bytes.length :=
    toNat_ofNat_length (by omega)
  -- the message has the length, and behind it what the inner writer has put out
  have hstands := hlies.stands
  have hwithin := hlies.size
  simp only [hsub, hreversed, List.length_append, List.length_reverse, List.reverse_append,
    List.reverse_reverse, bytes16, List.length_cons, List.length_nil] at hstands hwithin
  have hstart : inner.size - (bytes.length + (0 + 1 + 1) + out.reversed.length) +
      out.reversed.length = out.size := by omega
  have hboth : Stands (bytes16 (.ofNat bytes.length) ++ bytes) message out.size := by
    have hlast := hstands.right
    rwa [List.length_reverse, hstart] at hlast
  have hinnerLies : Lies message inner := by
    refine ⟨?_, ?_, hlies.within⟩
    · rw [hreversed, List.length_reverse]
      omega
    · rw [hreversed, List.reverse_reverse, List.length_reverse, hsize, Nat.add_sub_cancel]
      exact hboth.right
  have hkept : Recalled message { out with reversed := [], size := out.size + 2 } :=
    hrecalled.mono rfl (Nat.le_add_right _ _)
  obtain ⟨hread, hrecalled'⟩ := h.reads hroom hinner hinnerLies hkept
  simp only [hsub] at hread
  refine ⟨.ofNat bytes.length, gives_word16 _ message _ hboth.left, ?_, ?_, hrecalled'⟩
  · rw [hlength]
    exact hsize
  · rw [hlength]
    exact hread

end Writer

end DohRelay.Dns
