import DohRelay.Proofs.Dns.ReadBack

/-!
# What decoded messages are like

Reading bounds what it reads: names are short enough to be written again, a response code has twelve
bits, and no extension record stays among the others.

## Main definitions

* `Message.Legible` — what every decoded message is.

## Main results

* `Message.read_eq_ok` — the parts of a message that was read.
* `Message.legible_of_decode` — **every decoded message is legible.**
-/

namespace DohRelay.Dns

open Reader

/-- What every message is that was read. -/
structure Message.Legible (m : Message) : Prop where
  /-- Its questions are about names that fit. -/
  questions : ∀ q ∈ m.questions, q.name.Fits
  /-- No extension record is among the others. -/
  additional : ∀ r ∈ m.additional, r.type ≠ .opt
  /-- Its response code has twelve bits. -/
  rcode : m.rcode.toNat < 4096

/-! ### Names -/

/-- A name is not read beyond the greatest length. -/
theorem Name.fits_of_readFrom {message : Array UInt8} {start : Nat} {limit : Option Nat}
    {known labels : List Label} {p p' : Nat}
    (h : Name.readFrom message start limit known p = .ok labels p') : Name.Fits ⟨labels⟩ := by
  -- the length of what is known is checked before anything more is read
  fun_induction Name.readFrom message start limit known p generalizing p'
  case case4 hlength _ =>
    cases h
    exact Nat.lt_of_not_le hlength
  case case6 hmore ih =>
    cases h
    exact ih hmore
  case case9 ih => exact ih h
  all_goals cases h

theorem Name.fits_of_read {message : Array UInt8} {p p' : Nat} {n : Name}
    (h : Reader.name message p = .ok n p') : n.Fits := by
  unfold Reader.name at h
  split at h
  case h_1 labels q hlabels =>
    cases h
    exact Name.fits_of_readFrom hlabels
  case h_2 => cases h

/-! ### Sections -/

/-- Each of some values in a row was read somewhere. -/
theorem exists_of_mem_times {α : Type} {r : Reader α} {n : Nat} {message : Array UInt8}
    {p p' : Nat} {as : List α} (h : times r n message p = .ok as p') {a : α} (ha : a ∈ as) :
    ∃ q q', r message q = .ok a q' := by
  induction n generalizing p as with
  | zero =>
    cases h
    cases ha
  | succ n ih =>
    obtain ⟨b, q, hb, h⟩ := bind_eq_ok h
    obtain ⟨bs, q', hbs, h⟩ := bind_eq_ok h
    cases h
    rcases List.mem_cons.mp ha with rfl | ha
    · exact ⟨p, q, hb⟩
    · exact ih hbs ha

/-- The extension record is taken out of the last section. -/
theorem ne_opt_of_readAdditional {n : Nat} {edns : Option Edns} {message : Array UInt8}
    {p p' : Nat} {found : List Record × Option Edns}
    (h : readAdditional n edns message p = .ok found p') : ∀ r ∈ found.1, r.type ≠ .opt := by
  induction n generalizing edns p p' found with
  | zero =>
    cases h
    simp
  | succ n ih =>
    obtain ⟨r, q, _, h⟩ := bind_eq_ok h
    split at h
    case isTrue => exact ih (guard_eq_ok h).2
    case isFalse hplain =>
      obtain ⟨⟨records, edns'⟩, q', hrest, h⟩ := bind_eq_ok h
      cases h
      exact List.forall_mem_cons.mpr ⟨hplain, ih hrest⟩

/-- The code in the header has four bits. -/
theorem rcode_of_readHeader {message : Array UInt8} {p p' : Nat} {header : Message}
    (h : readHeader message p = .ok header p') : header.rcode.toNat < 16 := by
  obtain ⟨id, q, _, h⟩ := bind_eq_ok h
  obtain ⟨high, q, _, h⟩ := bind_eq_ok h
  cases hopcode : Opcode.ofCode? ((high >>> 3) &&& 0xf) with
  | none =>
    rw [hopcode] at h
    cases h
  | some opcode =>
    rw [hopcode] at h
    obtain ⟨low, q, _, h⟩ := bind_eq_ok h
    cases h
    have hlow : (low &&& 0x0f).toNat < 16 := by
      rw [UInt8.toNat_and]
      exact Nat.lt_of_le_of_lt Nat.and_le_right (by decide)
    show (ResponseCode.join 0 (low &&& 0x0f)).toNat < 16
    rw [ResponseCode.toNat_join _ hlow]
    simpa using hlow

/-! ### Messages -/

/-- The parts of a message that was read. -/
theorem Message.read_eq_ok {message : Array UInt8} {p p' : Nat} {m : Message}
    (h : Message.read message p = .ok m p') :
    (∃ header q, readHeader message p = .ok header q ∧
      m.rcode = m.edns.elim header.rcode fun e => .join e.rcodeHigh header.rcode.low) ∧
    (∃ count q q', times readQuestion count message q = .ok m.questions q') ∧
    ∃ count q q', readAdditional count none message q = .ok (m.additional, m.edns) q' := by
  obtain ⟨header, q₁, hheader, h⟩ := bind_eq_ok h
  obtain ⟨questionCount, q₂, _, h⟩ := bind_eq_ok h
  obtain ⟨answerCount, q₃, _, h⟩ := bind_eq_ok h
  obtain ⟨authorityCount, q₄, _, h⟩ := bind_eq_ok h
  obtain ⟨additionalCount, q₅, _, h⟩ := bind_eq_ok h
  obtain ⟨questions, q₆, hquestions, h⟩ := bind_eq_ok h
  obtain ⟨answers, q₇, _, h⟩ := bind_eq_ok h
  obtain ⟨authority, q₈, _, h⟩ := bind_eq_ok h
  obtain ⟨⟨additional, edns⟩, q₉, hadditional, h⟩ := bind_eq_ok h
  cases h
  refine ⟨⟨header, q₁, hheader, ?_⟩, ⟨_, _, _, hquestions⟩, _, _, _, hadditional⟩
  cases edns <;> rfl

/-- **Every decoded message is legible.** -/
theorem Message.legible_of_decode {bytes : List UInt8} {m : Message}
    (h : Message.decode bytes = .ok m) : m.Legible := by
  unfold decode Reader.run at h
  split at h
  case h_2 => cases h
  case h_1 m' p hread =>
    cases h
    obtain ⟨⟨header, _, hheader, hcode⟩, ⟨_, _, _, hquestions⟩, _, _, _, hadditional⟩ :=
      Message.read_eq_ok hread
    refine ⟨fun q hq => ?_, ne_opt_of_readAdditional hadditional, ?_⟩
    · obtain ⟨p, p', hq⟩ := exists_of_mem_times hquestions hq
      obtain ⟨name, _, hname, hq⟩ := bind_eq_ok hq
      obtain ⟨_, _, _, hq⟩ := bind_eq_ok hq
      obtain ⟨_, _, _, hq⟩ := bind_eq_ok hq
      cases hq
      exact Name.fits_of_read hname
    · have hlow := rcode_of_readHeader hheader
      rw [hcode]
      -- four bits from the header, and eight more from the extension record
      cases m.edns with
      | none => exact Nat.lt_trans hlow (by decide)
      | some e =>
        have hhigh := e.rcodeHigh.toNat_lt
        show (ResponseCode.join e.rcodeHigh header.rcode.low).toNat < 4096
        rw [ResponseCode.toNat_join _ (by rw [ResponseCode.toNat_low]; omega),
          ResponseCode.toNat_low]
        omega

end DohRelay.Dns
