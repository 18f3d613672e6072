import DohRelay.Proofs.Dns.Questions

/-!
# Room for questions

Questions about names that fit are written wherever there is room for them, whatever was written
before; a pointer takes no more room than the labels it stands for.  So a message with nothing but a
few questions always has octets.

## Main definitions

* `questionMost` — how many octets a question takes at most.

## Main results

* `Writer.exists_labels` — a name is written where there is room for all of its labels.
* `Message.IsBare.exists_encode` — **a message with nothing but a few questions is written.**
-/

namespace DohRelay.Dns

open Writer

namespace Writer

/-! ### Octets -/

theorem length_bytes16 (n : UInt16) : (bytes16 n).length = 2 := rfl

theorem put_of_room (bytes : List UInt8) {out : Output}
    (hroom : out.size + bytes.length ≤ limit) :
    put bytes out =
      .ok () ⟨bytes.reverse ++ out.reversed, out.size + bytes.length, out.suffixes⟩ := by
  simp only [put]
  rw [if_neg (Nat.not_lt.mpr hroom), List.reverseAux_eq]

theorem exists_put (bytes : List UInt8) (out : Output) (hroom : out.size + bytes.length ≤ limit) :
    ∃ out', put bytes out = .ok () out' ∧ out'.size = out.size + bytes.length :=
  ⟨_, put_of_room bytes hroom, rfl⟩

theorem reserve_of_room {n : Nat} {out : Output} (hroom : out.size + n ≤ limit) :
    reserve n out = .ok () out :=
  if_neg (Nat.not_lt.mpr hroom)

/-! ### Names -/

/-- A name that is not too long is ended with one octet. -/
theorem endName_of_room {start : Nat} {out : Output} (hroom : out.size + 1 ≤ limit)
    (hlength : out.size + 1 ≤ start + Name.maxLength) :
    endName start out = .ok () ⟨0 :: out.reversed, out.size + 1, out.suffixes⟩ := by
  have hsize (out : Output) : size out = .ok out.size out := rfl
  have hend : ¬ Name.maxLength < out.size + 1 - start := by omega
  have hzero : octet 0 out = .ok () ⟨0 :: out.reversed, out.size + 1, out.suffixes⟩ :=
    put_of_room [0] hroom
  rw [endName, Writer.bind_of_ok hzero, Writer.bind_of_ok (hsize _)]
  simp only [if_neg hend]
  rfl

/-- Labels are remembered, or not, without being written. -/
theorem exists_rememberUpTo (stop : Nat) (ls : List Label) (out : Output) :
    ∃ out', rememberUpTo stop ls out = .ok () out' ∧ out'.size = out.size := by
  unfold rememberUpTo
  split
  case isTrue => exact ⟨_, rfl, rfl⟩
  case isFalse => exact ⟨out, rfl, rfl⟩

/-- The last labels of a name are written where there is room for all of them. -/
theorem exists_labels {start stop : Nat} {ls : List Label} {out : Output}
    (hroom : out.size + Name.sizeOfLabels ls + 1 ≤ limit)
    (hlength : out.size + Name.sizeOfLabels ls + 1 ≤ start + Name.maxLength) :
    ∃ out', labels start stop ls out = .ok () out' ∧
      out'.size ≤ out.size + Name.sizeOfLabels ls + 1 := by
  induction ls generalizing out with
  | nil => exact ⟨_, endName_of_room hroom hlength, Nat.le_refl _⟩
  | cons l rest ih =>
    have hpos := l.length_pos
    rw [Name.sizeOfLabels_cons] at hroom hlength ⊢
    have hfind : find? (l :: rest) out = .ok (out.suffixes.lookup (l :: rest)) out := rfl
    rw [labels, Writer.bind_of_ok hfind]
    cases out.suffixes.lookup (l :: rest) with
    | some position =>
      -- a pointer has two octets, as many as the shortest label
      obtain ⟨out', hpointer, hsize⟩ :=
        exists_put (bytes16 (0xc000 ||| UInt16.ofNat (position % 0x4000))) out
          (by rw [length_bytes16]; omega)
      rw [length_bytes16] at hsize
      exact ⟨out', hpointer, by omega⟩
    | none =>
      obtain ⟨out₁, hremember, hsize₁⟩ := exists_rememberUpTo stop (l :: rest) out
      have hlength₁ : (UInt8.ofNat l.length :: l.bytes).length = l.length + 1 := List.length_cons
      obtain ⟨out₂, hlabel, hsize₂⟩ :=
        exists_put (UInt8.ofNat l.length :: l.bytes) out₁ (by omega)
      have hroom₂ : out₂.size + Name.sizeOfLabels rest + 1 ≤ limit := by omega
      obtain ⟨out', hrest, hsize⟩ := ih hroom₂ (by omega)
      refine ⟨out', ?_, by omega⟩
      exact (Writer.bind_of_ok hremember).trans ((Writer.bind_of_ok hlabel).trans hrest)

end Writer

/-! ### Questions -/

/-- How many octets a question takes at most: those of the longest name, and four more. -/
def questionMost : Nat := Name.maxLength + 4

/-- A question is written where there is room for it. -/
theorem exists_writeQuestion {q : Question} (hfits : q.name.Fits) {out : Output}
    (hroom : out.size + questionMost ≤ limit) :
    ∃ out', writeQuestion q out = .ok () out' ∧ out'.size ≤ out.size + questionMost := by
  have hlength := hfits.sizeOfLabels_lt
  have hsize : size out = .ok out.size out := rfl
  unfold questionMost at hroom ⊢
  have hlabelsRoom : out.size + Name.sizeOfLabels q.name.labels + 1 ≤ limit := by omega
  obtain ⟨out₁, hlabels, hsize₁⟩ := exists_labels hlabelsRoom
    (show _ ≤ out.size + Name.maxLength by omega)
  have hname : name q.name out = .ok () out₁ :=
    (Writer.bind_of_ok hsize).trans
      ((Writer.bind_of_ok (reserve_of_room (by omega))).trans hlabels)
  obtain ⟨out₂, htype, hsize₂⟩ := exists_put (bytes16 q.type.code) out₁
    (by rw [length_bytes16]; omega)
  rw [length_bytes16] at hsize₂
  obtain ⟨out₃, hclass, hsize₃⟩ := exists_put (bytes16 q.qclass) out₂
    (by rw [length_bytes16]; omega)
  rw [length_bytes16] at hsize₃
  exact ⟨out₃, (Writer.bind_of_ok hname).trans ((Writer.bind_of_ok htype).trans hclass), by omega⟩

/-- Questions are written where there is room for each of them. -/
theorem exists_writeQuestions {qs : List Question} (hfits : ∀ q ∈ qs, q.name.Fits) (written : Nat)
    {out : Output} (hroom : out.size + questionMost * qs.length ≤ limit) :
    ∃ out', writeQuestions written qs out = .ok () out' := by
  induction qs generalizing written out with
  | nil => exact ⟨out, rfl⟩
  | cons q rest ih =>
    obtain ⟨hq, hothers⟩ := List.forall_mem_cons.mp hfits
    rw [List.length_cons, Nat.mul_succ] at hroom
    have hroom₁ : out.size + questionMost ≤ limit := by omega
    obtain ⟨out₁, hfirst, hsize⟩ := exists_writeQuestion hq hroom₁
    have hroomRest : out₁.size + questionMost * rest.length ≤ limit := by omega
    obtain ⟨out', hrest⟩ := ih hothers (written + 1) hroomRest
    refine ⟨out', ?_⟩
    rw [writeQuestions]
    refine (Writer.bind_of_ok (a := ()) ?_).trans hrest
    simp only [hfirst]

/-- **A message with nothing but a few questions is written**, if their names fit. -/
theorem Message.IsBare.exists_encode {m : Message} (hm : m.IsBare)
    (hfits : ∀ q ∈ m.questions, q.name.Fits) (hfew : m.questions.length ≤ 252) :
    ∃ bytes, m.encode = .ok bytes := by
  have hroom : (blank headerLength).size + questionMost * m.questions.length ≤ limit := by
    simp only [blank, headerLength, questionMost, Name.maxLength, limit]
    omega
  obtain ⟨out, hout⟩ := exists_writeQuestions hfits 0 hroom
  rw [hm.encode_eq, Writer.run_of_ok hout]
  exact ⟨_, rfl⟩

end DohRelay.Dns
