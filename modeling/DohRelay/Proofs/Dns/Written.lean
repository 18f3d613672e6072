import DohRelay.Dns.Reply

/-!
# What writers put out

A writer that succeeds has put octets behind those that were there, and what it put has a certain
form, whatever was written before: where a name ends in a pointer, the form does not say where the
pointer leads.  The form of a message follows from those of its parts.

## Main definitions

* `Writer.Puts` — a writer puts out octets of some form.
* `NameForm`, `QuestionForm`, `RecordForm` — the forms of the parts of a message.
* `Listed` — the form of some things, one after the other.
* `BodyForm` — the form of what follows the header.

## Main results

* `Writer.Puts.bind` — one writer after another.
* `puts_writeBody` — the form of what follows the header.
* `Message.encode_eq_ok` — the octets of a message are its header and what follows it.
* `Message.IsBare.length_encode_le` — **a message with nothing but one question is short.**
-/

namespace DohRelay.Dns

/-! ### Steps that succeed -/

namespace Step

variable {ε σ α β : Type} {x : EStateM ε σ α} {k : α → EStateM ε σ β} {s s' : σ}

/-- What comes after a step that succeeds goes on where that one ended. -/
theorem bind_of_ok {a : α} (h : x s = .ok a s') : (x >>= k) s = k a s' := by
  change EStateM.bind x k s = _
  unfold EStateM.bind
  rw [h]

/-- Two steps succeed only if both do. -/
theorem bind_eq_ok {b : β} (h : (x >>= k) s = .ok b s') :
    ∃ a middle, x s = .ok a middle ∧ k a middle = .ok b s' := by
  change EStateM.bind x k s = _ at h
  unfold EStateM.bind at h
  split at h
  case h_1 a middle hx => exact ⟨a, middle, hx, h⟩
  case h_2 => cases h

end Step

/-! ### Writers -/

namespace Writer

theorem bind_of_ok {α β : Type} {w : Writer α} {k : α → Writer β} {out out' : Output} {a : α}
    (h : w out = .ok a out') : (w >>= k) out = k a out' :=
  Step.bind_of_ok h

theorem bind_eq_ok {α β : Type} {w : Writer α} {k : α → Writer β} {out out'' : Output} {b : β}
    (h : (w >>= k) out = .ok b out'') :
    ∃ a out', w out = .ok a out' ∧ k a out' = .ok b out'' :=
  Step.bind_eq_ok h

/-- Nothing comes after a writer that fails. -/
theorem bind_of_error {α β : Type} {w : Writer α} {k : α → Writer β} {out out' : Output}
    {fault : Fault} (h : w out = .error fault out') : (w >>= k) out = .error fault out' := by
  change EStateM.bind w k out = _
  unfold EStateM.bind
  rw [h]

theorem run_of_ok {w : Writer Unit} {position : Nat} {out : Output} {u : Unit}
    (h : w (blank position) = .ok u out) : w.run position = .ok out.reversed.reverse := by
  rw [run, h]

theorem run_of_error {w : Writer Unit} {position : Nat} {out : Output} {fault : Fault}
    (h : w (blank position) = .error fault out) : w.run position = .error fault := by
  rw [run, h]

/-- There was room, and nothing was put there. -/
theorem reserve_eq_ok {n : Nat} {u : Unit} {out out' : Output} (h : reserve n out = .ok u out') :
    out' = out ∧ out.size + n ≤ limit := by
  unfold reserve at h
  split at h
  case isTrue => cases h
  case isFalse hroom =>
    cases h
    exact ⟨rfl, Nat.le_of_not_lt hroom⟩

/-- A writer puts octets behind those written, within the room that a message has.  Their form may
depend on the value that the writer ends with. -/
def Puts {α : Type} (w : Writer α) (form : α → List UInt8 → Prop) : Prop :=
  ∀ out a out', out.size ≤ limit → w out = .ok a out' →
    ∃ bytes, out'.reversed = bytes.reverse ++ out.reversed ∧
      out'.size = out.size + bytes.length ∧ out'.size ≤ limit ∧ form a bytes

namespace Puts

variable {α β : Type} {w : Writer α} {form weaker : α → List UInt8 → Prop}

theorem mono (h : Puts w form) (hmono : ∀ a bytes, form a bytes → weaker a bytes) :
    Puts w weaker := by
  intro out a out' hsize hout
  obtain ⟨bytes, hreversed, hlength, hlimit, hform⟩ := h out a out' hsize hout
  exact ⟨bytes, hreversed, hlength, hlimit, hmono a bytes hform⟩

/-- What a writer puts out has some form or other. -/
theorem any (h : Puts w form) : Puts w fun _ _ => True :=
  h.mono fun _ _ _ => trivial

theorem pure {a : α} (h : form a []) : Puts (Pure.pure a : Writer α) form := by
  intro out b out' hsize hout
  cases hout
  exact ⟨[], rfl, rfl, hsize, h⟩

/-- One writer after another puts its octets behind those of the other. -/
theorem bind {k : α → Writer β} {both : β → List UInt8 → Prop} (hw : Puts w form)
    (hk : ∀ a x, form a x → Puts (k a) fun b y => both b (x ++ y)) : Puts (w >>= k) both := by
  intro out b out'' hsize hout
  obtain ⟨a, out', hfirst, hsecond⟩ := bind_eq_ok hout
  obtain ⟨x, hxreversed, hxlength, hxlimit, hx⟩ := hw out a out' hsize hfirst
  obtain ⟨y, hyreversed, hylength, hylimit, hy⟩ := hk a x hx out' b out'' hxlimit hsecond
  refine ⟨x ++ y, ?_, ?_, hylimit, hy⟩
  · rw [hyreversed, hxreversed, List.reverse_append, List.append_assoc]
  · rw [hylength, hxlength, List.length_append, Nat.add_assoc]

/-- A writer after one that puts out nothing. -/
theorem bind_quiet {k : α → Writer β} {both : β → List UInt8 → Prop}
    (hw : Puts w fun _ bytes => bytes = []) (hk : ∀ a, Puts (k a) both) :
    Puts (w >>= k) both :=
  hw.bind fun a _ hx => hx ▸ hk a

end Puts

theorem puts_put (bytes : List UInt8) : Puts (put bytes) fun _ out => out = bytes := by
  intro out a out' _ hout
  simp only [put] at hout
  split at hout
  case isTrue => cases hout
  case isFalse hroom =>
    cases hout
    exact ⟨bytes, List.reverseAux_eq, rfl, Nat.le_of_not_lt hroom, rfl⟩

theorem puts_fail {α : Type} (fault : Fault) (form : α → List UInt8 → Prop) :
    Puts (fail fault) form := by
  intro out a out' _ hout
  cases hout

theorem puts_size : Puts size fun _ bytes => bytes = [] := by
  intro out a out' hsize hout
  cases hout
  exact ⟨[], rfl, rfl, hsize, rfl⟩

theorem puts_find? (ls : List Label) : Puts (find? ls) fun _ bytes => bytes = [] := by
  intro out a out' hsize hout
  cases hout
  exact ⟨[], rfl, rfl, hsize, rfl⟩

theorem puts_reserve (n : Nat) : Puts (reserve n) fun _ bytes => bytes = [] := by
  intro out a out' hsize hout
  rw [(reserve_eq_ok hout).1]
  exact ⟨[], rfl, rfl, hsize, rfl⟩

theorem puts_rememberUpTo (stop : Nat) (ls : List Label) :
    Puts (rememberUpTo stop ls) fun _ bytes => bytes = [] := by
  intro out a out' hsize hout
  unfold rememberUpTo at hout
  split at hout
  · cases hout
    exact ⟨[], rfl, rfl, hsize, rfl⟩
  · cases hout
    exact ⟨[], rfl, rfl, hsize, rfl⟩

theorem puts_forM {α : Type} {w : α → Writer Unit} (h : ∀ a, Puts (w a) fun _ _ => True)
    (as : List α) : Puts (as.forM w) fun _ _ => True := by
  induction as with
  | nil => exact .pure trivial
  | cons a as ih => exact (h a).bind fun _ _ _ => ih.any

/-- The octets of a writer with their number before them, which two octets can hold. -/
theorem puts_withLength {w : Writer Unit} (h : Puts w fun _ _ => True) :
    Puts (withLength w) fun _ bytes =>
      ∃ inner, inner.length < UInt16.size ∧
        bytes = bytes16 (.ofNat inner.length) ++ inner := by
  intro out a out' hsize hout
  obtain ⟨_, out₁, hreserve, hrest⟩ := bind_eq_ok hout
  obtain ⟨rfl, hroom⟩ := reserve_eq_ok hreserve
  simp only at hrest
  split at hrest
  case h_1 => cases hrest
  case h_2 inner hw =>
    cases hrest
    obtain ⟨bytes, hreversed, hlength, hlimit, -⟩ := h _ _ _ hroom hw
    simp only [List.append_nil] at hreversed hlength
    -- the number is told by how far the inner writer has come
    have hsub : inner.size - (out₁.size + 2) = bytes.length := by omega
    refine ⟨bytes16 (.ofNat bytes.length) ++ bytes, ?_, ?_, hlimit, bytes, ?_, rfl⟩
    · simp only [hsub, hreversed, List.reverse_append]
    · simp only [List.length_append, bytes16, List.length_cons, List.length_nil]
      omega
    · simp only [limit, UInt16.size] at hlimit ⊢
      omega

end Writer

open Writer

/-! ### Names -/

/-- The octets of some last labels of a name: each with its length before it, up to the root or to a
pointer. -/
inductive NameForm : List Label → List UInt8 → Prop
  /-- No labels are left. -/
  | root : NameForm [] [0]
  /-- A pointer takes the place of all that are left. -/
  | pointer (l : Label) (rest : List Label) {high low : UInt8} (h : isPointerOctet high = true) :
      NameForm (l :: rest) [high, low]
  /-- A label, and those after it. -/
  | label (l : Label) {rest : List Label} {bytes : List UInt8} (h : NameForm rest bytes) :
      NameForm (l :: rest) ((UInt8.ofNat l.length :: l.bytes) ++ bytes)

/-- Pointers and labels are not longer than the labels they stand for. -/
theorem NameForm.length_le {ls : List Label} {bytes : List UInt8} (h : NameForm ls bytes) :
    bytes.length ≤ Name.sizeOfLabels ls + 1 := by
  induction h with
  | root => simp
  | pointer l rest _ =>
    have hpos := l.length_pos
    simp only [List.length_cons, List.length_nil, Name.sizeOfLabels_cons]
    omega
  | label l _ ih =>
    simp only [List.length_append, List.length_cons, Name.sizeOfLabels_cons, Label.length]
    omega

theorem NameForm.length_pos {ls : List Label} {bytes : List UInt8} (h : NameForm ls bytes) :
    0 < bytes.length := by
  cases h <;> simp

/-- The octets of a pointer have the two upper bits of the first set. -/
theorem isPointerOctet_of_pointer (n : UInt16) :
    isPointerOctet ((0xc000 ||| n) >>> 8).toUInt8 = true := by
  suffices ((0xc000 ||| n) >>> 8).toUInt8 &&& 0xc0 = 0xc0 by simp [isPointerOctet, this]
  -- bit by bit, since the number behind the two upper bits may be any
  apply UInt8.eq_of_toBitVec_eq
  ext i hi
  have hcases : i = 0 ∨ i = 1 ∨ i = 2 ∨ i = 3 ∨ i = 4 ∨ i = 5 ∨ i = 6 ∨ i = 7 := by omega
  rcases hcases with rfl | rfl | rfl | rfl | rfl | rfl | rfl | rfl <;> simp

namespace Writer

theorem puts_endName (start : Nat) : Puts (endName start) fun _ bytes => bytes = [0] := by
  refine (puts_put [0]).bind fun _ x hx => puts_size.bind_quiet fun stop => ?_
  by_cases hlong : Name.maxLength < stop - start
  · simp only [if_pos hlong]
    exact puts_fail _ _
  · simp only [if_neg hlong]
    exact .pure (by rw [hx, List.append_nil])

theorem puts_labels (start stop : Nat) (ls : List Label) :
    Puts (labels start stop ls) fun _ => NameForm ls := by
  induction ls with
  | nil => exact (puts_endName start).mono fun _ _ h => h ▸ .root
  | cons l rest ih =>
    refine (puts_find? _).bind_quiet fun found => ?_
    cases found with
    | some position =>
      exact (puts_put _).mono fun _ _ h => h ▸ .pointer l rest (isPointerOctet_of_pointer _)
    | none =>
      refine (puts_rememberUpTo _ _).bind_quiet fun _ => ?_
      exact (puts_put _).bind fun _ x hx => ih.mono fun _ _ h => hx ▸ .label l h

theorem puts_labelsInFull (start stop : Nat) (ls : List Label) :
    Puts (labelsInFull start stop ls) fun _ => NameForm ls := by
  induction ls with
  | nil => exact (puts_endName start).mono fun _ _ h => h ▸ .root
  | cons l rest ih =>
    refine (puts_find? _).bind_quiet fun found => ?_
    have hlabel : Puts (label l >>= fun _ => labelsInFull start stop rest)
        fun _ => NameForm (l :: rest) :=
      (puts_put _).bind fun _ x hx => ih.mono fun _ _ h => hx ▸ .label l h
    split
    · exact (puts_rememberUpTo _ _).bind_quiet fun _ => hlabel
    · exact hlabel

theorem puts_name (n : Name) : Puts (name n) fun _ => NameForm n.labels :=
  puts_size.bind_quiet fun _ => (puts_reserve _).bind_quiet fun _ => puts_labels _ _ _

theorem puts_nameInFull (n : Name) : Puts (nameInFull n) fun _ => NameForm n.labels :=
  puts_size.bind_quiet fun _ => puts_labelsInFull _ _ _

/-! ### Record data -/

theorem puts_charString (bytes : List UInt8) : Puts (charString bytes) fun _ _ => True := by
  unfold charString
  split
  · exact (puts_fail _ fun _ _ => False).bind fun _ _ h => h.elim
  · exact (puts_put _).bind fun _ _ _ => (puts_put _).any

theorem puts_pair (key : UInt16) (value : List UInt8) :
    Puts (pair key value) fun _ _ => True :=
  (puts_put _).bind fun _ _ _ => (puts_withLength (puts_put value).any).any

theorem puts_pairs (ps : List (UInt16 × List UInt8)) :
    Puts (ps.forM fun p => pair p.1 p.2) fun _ _ => True := by
  have hpair (p : UInt16 × List UInt8) := puts_pair p.1 p.2
  exact puts_forM hpair ps

theorem puts_octet (b : UInt8) : Puts (octet b) fun _ out => out = [b] :=
  puts_put _

theorem puts_word16 (n : UInt16) : Puts (word16 n) fun _ out => out = bytes16 n :=
  puts_put _

theorem puts_word32 (n : UInt32) : Puts (word32 n) fun _ out => out = bytes32 n :=
  puts_put _

/-- A writer that puts out some octets or other, after one that does. -/
theorem Puts.bind_any {α β : Type} {w : Writer α} {k : α → Writer β} {form : α → List UInt8 → Prop}
    (hw : Puts w form) (hk : ∀ a, Puts (k a) fun _ _ => True) :
    Puts (w >>= k) fun _ _ => True :=
  hw.bind fun a _ _ => hk a

/-- The data of a record is octets, whatever its form. -/
theorem puts_data (d : RecordData) : Puts (data d) fun _ _ => True := by
  -- what the octets say does not matter: they are read back by their number
  cases d with
  | a address => exact (puts_put address.bytes).any
  | aaaa address => exact (puts_put address.bytes).any
  | host n => exact (puts_name n).any
  | mx preference exchange =>
    exact (puts_word16 preference).bind_any fun _ => (puts_name exchange).any
  | soa primary mailbox serial refresh retry expire minimum =>
    exact (puts_name primary).bind_any fun _ => (puts_name mailbox).bind_any fun _ =>
      (puts_word32 serial).bind_any fun _ => (puts_word32 refresh.toUInt32).bind_any fun _ =>
      (puts_word32 retry.toUInt32).bind_any fun _ => (puts_word32 expire.toUInt32).bind_any fun _ =>
      (puts_word32 minimum).any
  | srv priority weight port target =>
    exact (puts_word16 priority).bind_any fun _ => (puts_word16 weight).bind_any fun _ =>
      (puts_word16 port).bind_any fun _ => (puts_nameInFull target).any
  | txt strings => exact puts_forM puts_charString strings
  | hinfo cpu os => exact (puts_charString cpu).bind_any fun _ => puts_charString os
  | naptr order preference flags services regexp replacement =>
    exact (puts_word16 order).bind_any fun _ => (puts_word16 preference).bind_any fun _ =>
      (puts_charString flags).bind_any fun _ => (puts_charString services).bind_any fun _ =>
      (puts_charString regexp).bind_any fun _ => (puts_nameInFull replacement).any
  | caa critical tag value =>
    exact (puts_octet (if critical then 0x80 else 0)).bind_any fun _ =>
      (puts_charString tag).bind_any fun _ => (puts_put value).any
  | csync serial flags types =>
    exact (puts_word32 serial).bind_any fun _ => (puts_word16 flags).bind_any fun _ =>
      (puts_put (TypeSet.bytes types)).any
  | service binding =>
    exact (puts_word16 binding.priority).bind_any fun _ =>
      (puts_name binding.target).bind_any fun _ => puts_pairs binding.params
  | options set =>
    show Puts (set.toList.forM fun option => pair option.1 option.2) _
    exact puts_pairs set.toList
  | octets bytes => exact (puts_put bytes).any

end Writer

/-! ### Questions and records -/

/-- The octets of some things, one after the other. -/
inductive Listed {α : Type} (form : α → List UInt8 → Prop) : List α → List UInt8 → Prop
  /-- Nothing. -/
  | nil : Listed form [] []
  /-- One thing, and those after it. -/
  | cons {a : α} {as : List α} {x y : List UInt8} (head : form a x) (tail : Listed form as y) :
      Listed form (a :: as) (x ++ y)

theorem Listed.append {α : Type} {form : α → List UInt8 → Prop} {as bs : List α}
    {x y : List UInt8} (hx : Listed form as x) (hy : Listed form bs y) :
    Listed form (as ++ bs) (x ++ y) := by
  induction hx with
  | nil => exact hy
  | cons head _ ih => rw [List.append_assoc]; exact .cons head ih

/-- If each thing takes so many octets at least, all of them take so many times their number. -/
theorem Listed.mul_length_le {α : Type} {form : α → List UInt8 → Prop} {least : Nat}
    (hleast : ∀ a x, form a x → least ≤ x.length) {as : List α} {bytes : List UInt8}
    (h : Listed form as bytes) : least * as.length ≤ bytes.length := by
  induction h with
  | nil => simp
  | cons head _ ih =>
    have := hleast _ _ head
    rw [List.length_cons, List.length_append, Nat.mul_succ]
    omega

/-- The octets of a question. -/
inductive QuestionForm (q : Question) : List UInt8 → Prop
  /-- Its name, its type and its class. -/
  | intro {name : List UInt8} (hname : NameForm q.name.labels name) :
      QuestionForm q (name ++ (bytes16 q.type.code ++ bytes16 q.qclass))

/-- The octets of a record. -/
inductive RecordForm (r : Record) : List UInt8 → Prop
  /-- Its owner, its type, its class, its time to live, and its data with the length before. -/
  | intro {name data : List UInt8} (hname : NameForm r.owner.labels name)
      (hdata : data.length < UInt16.size) :
      RecordForm r (name ++ (bytes16 r.type.code ++ (bytes16 r.rclass ++ (bytes32 r.ttl ++
        (bytes16 (.ofNat data.length) ++ data)))))

theorem QuestionForm.length_ge (q : Question) (bytes : List UInt8) (h : QuestionForm q bytes) :
    5 ≤ bytes.length := by
  obtain ⟨hname⟩ := h
  have := hname.length_pos
  simp only [List.length_append, bytes16, List.length_cons, List.length_nil]
  omega

theorem RecordForm.length_ge (r : Record) (bytes : List UInt8) (h : RecordForm r bytes) :
    11 ≤ bytes.length := by
  obtain ⟨hname, -⟩ := h
  have := hname.length_pos
  simp only [List.length_append, bytes16, bytes32, List.length_cons, List.length_nil]
  omega

theorem puts_writeQuestion (q : Question) : Puts (writeQuestion q) fun _ => QuestionForm q :=
  (puts_name q.name).bind fun _ _ hname => (puts_word16 _).bind fun _ _ htype =>
    (puts_word16 _).mono fun _ _ hclass => htype ▸ hclass ▸ .intro hname

theorem puts_writeQuestions (written : Nat) (qs : List Question) :
    Puts (writeQuestions written qs) fun _ => Listed QuestionForm qs := by
  induction qs generalizing written with
  | nil => exact .pure .nil
  | cons q rest ih =>
    rw [writeQuestions]
    refine Puts.bind (fun out a out' hsize hout => ?_)
      fun _ _ hx => (ih (written + 1)).mono fun _ _ hy => .cons hx hy
    split at hout
    case h_1 => cases hout
    case h_2 => exact puts_writeQuestion q out a out' hsize hout

/-- The data of a record, or nothing, is octets. -/
theorem puts_recordData (r : Record) : Puts (r.data.elim (pure ()) data) fun _ _ => True := by
  cases r.data with
  | none => exact .pure trivial
  | some d => exact puts_data d

theorem puts_writeRecord (r : Record) : Puts (writeRecord r) fun _ => RecordForm r := by
  refine (puts_name r.owner).bind fun _ _ hname => (puts_word16 _).bind fun _ _ htype =>
    (puts_word16 _).bind fun _ _ hclass => (puts_word32 _).bind fun _ _ httl =>
    (puts_withLength (puts_recordData r)).mono fun _ _ hinner => ?_
  obtain ⟨inner, hlength, rfl⟩ := hinner
  rw [htype, hclass, httl]
  exact .intro hname hlength

/-- Of some records none are written, and what was written of the first is taken back, or the first
one is, and then others. -/
theorem writeRecords_cons_cases {r : Record} {rest : List Record} {out out' : Output} {n : Nat}
    (h : writeRecords (r :: rest) out = .ok n out') :
    (n = 0 ∧ out' = out) ∨ ∃ middle k, writeRecord r out = .ok () middle ∧
      writeRecords rest middle = .ok k out' ∧ n = k + 1 := by
  unfold writeRecords at h
  split at h
  case h_1 =>
    cases h
    exact .inl ⟨rfl, rfl⟩
  case h_2 => cases h
  case h_3 middle hfirst =>
    change EStateM.map (· + 1) (writeRecords rest) middle = _ at h
    unfold EStateM.map at h
    split at h
    case h_2 => cases h
    case h_1 k out'' hrest =>
      cases h
      exact .inr ⟨middle, k, hfirst, hrest, rfl⟩

/-- The records that find room are the first ones. -/
theorem puts_writeRecords (rs : List Record) :
    Puts (writeRecords rs) fun n bytes => n ≤ rs.length ∧ Listed RecordForm (rs.take n) bytes := by
  induction rs with
  | nil => exact .pure ⟨Nat.le_refl 0, .nil⟩
  | cons r rest ih =>
    intro out n out'' hsize hout
    rcases writeRecords_cons_cases hout with ⟨rfl, rfl⟩ | ⟨out', k, hfirst, hrest, rfl⟩
    · exact ⟨[], rfl, rfl, hsize, Nat.zero_le _, .nil⟩
    · obtain ⟨x, hxreversed, hxlength, hxlimit, hx⟩ := puts_writeRecord r out _ out' hsize hfirst
      obtain ⟨y, hyreversed, hylength, hylimit, hle, hy⟩ := ih out' k _ hxlimit hrest
      refine ⟨x ++ y, ?_, ?_, hylimit, Nat.succ_le_succ hle, .cons hx hy⟩
      · rw [hyreversed, hxreversed, List.reverse_append, List.append_assoc]
      · rw [hylength, hxlength, List.length_append, Nat.add_assoc]

/-! ### Messages -/

/-- What the extension record of a message is written as: one record or none. -/
def Message.ednsRecords (m : Message) : List Record :=
  m.edns.toList.map fun e => e.record m.rcode

/-- The octets behind the header of a message: all its questions, and the first records of each
section, of which there are so many. -/
inductive BodyForm (m : Message) : Nat × Nat × Nat → List UInt8 → Prop
  /-- The extension record comes after the records of the last section. -/
  | intro {answers authority additional extension : Nat} {q r s t : List UInt8}
      (hquestions : Listed QuestionForm m.questions q)
      (hanswers : answers ≤ m.answers.length ∧ Listed RecordForm (m.answers.take answers) r)
      (hauthority : authority ≤ m.authority.length ∧
        Listed RecordForm (m.authority.take authority) s)
      (hadditional : additional ≤ m.additional.length ∧ extension ≤ m.ednsRecords.length ∧
        Listed RecordForm (m.additional.take additional ++ m.ednsRecords.take extension) t) :
      BodyForm m (answers, authority, additional + extension) (q ++ (r ++ (s ++ t)))

theorem puts_writeBody (m : Message) : Puts m.writeBody (BodyForm m) := by
  refine (puts_writeQuestions 0 m.questions).bind fun _ _ hq => ?_
  refine (puts_writeRecords m.answers).bind fun _ _ hr => ?_
  refine (puts_writeRecords m.authority).bind fun _ _ hs => ?_
  refine (puts_writeRecords m.additional).bind fun _ _ ht => ?_
  refine (puts_writeRecords m.ednsRecords).bind fun _ _ hu => .pure ?_
  rw [List.append_nil]
  exact .intro hq hr hs ⟨ht.1, hu.1, ht.2.append hu.2⟩

/-- The header of a message: whether it is truncated, and how many records its sections got. -/
def Message.headerBytes (m : Message) (truncated : Bool) (answers authority additional : Nat) :
    List UInt8 :=
  (bytes16 m.id ++ m.flagBytes truncated) ++ (bytes16 (.ofNat m.questions.length) ++
    (bytes16 (.ofNat answers) ++ (bytes16 (.ofNat authority) ++ bytes16 (.ofNat additional))))

@[simp] theorem Message.length_headerBytes (m : Message) (truncated : Bool) (a n d : Nat) :
    (m.headerBytes truncated a n d).length = headerLength := rfl

/-- A message is written as its header and what was put out behind it. -/
theorem Message.writeBody_of_encode {m : Message} {bytes : List UInt8} (h : m.encode = .ok bytes) :
    ∃ a n d out, m.writeBody (blank headerLength) = .ok (a, n, d) out ∧
      bytes = m.headerBytes (m.truncated || !decide (a = m.answers.length ∧
        n = m.authority.length ∧ d = m.additional.length + m.edns.toList.length)) a n d ++
          out.reversed.reverse := by
  unfold encode at h
  split at h
  case h_1 => cases h
  case h_2 a n d out hout =>
    rw [Except.ok.injEq] at h
    refine ⟨a, n, d, out, hout, ?_⟩
    rw [← h]
    simp only [headerBytes, List.append_assoc]

/-- **The octets of a message are its header and what follows it.** -/
theorem Message.encode_eq_ok {m : Message} {bytes : List UInt8} (h : m.encode = .ok bytes) :
    ∃ a n d body, BodyForm m (a, n, d) body ∧ headerLength + body.length ≤ limit ∧
      bytes = m.headerBytes (m.truncated || !decide (a = m.answers.length ∧
        n = m.authority.length ∧ d = m.additional.length + m.edns.toList.length)) a n d ++
          body := by
  obtain ⟨a, n, d, out, hout, hbytes⟩ := writeBody_of_encode h
  obtain ⟨body, hreversed, hlength, hlimit, hform⟩ :=
    puts_writeBody m (blank headerLength) _ out (by decide) hout
  simp only [blank, List.append_nil] at hreversed
  rw [hreversed, List.reverse_reverse] at hbytes
  exact ⟨a, n, d, body, hform, hlength ▸ hlimit, hbytes⟩

/-! ### Messages without records -/

/-- A message has nothing but questions. -/
structure Message.IsBare (m : Message) : Prop where
  /-- Nothing answers them. -/
  answers : m.answers = []
  /-- No server of the zone is told. -/
  authority : m.authority = []
  /-- Nothing is added. -/
  additional : m.additional = []
  /-- There is no extension record. -/
  edns : m.edns = none

theorem Message.isBare_replyTo (query : Message) (code : ResponseCode) :
    (query.replyTo code).IsBare :=
  ⟨rfl, rfl, rfl, rfl⟩

theorem Message.isBare_shortened (answer : Message) : answer.shortened.IsBare :=
  ⟨rfl, rfl, rfl, rfl⟩

theorem Message.IsBare.encode_eq {m : Message} (h : m.IsBare) :
    m.encode = ((writeQuestions 0 m.questions).run headerLength).map
      (m.headerBytes m.truncated 0 0 0 ++ ·) := by
  -- four sections without records put out nothing behind the questions
  have hbody : m.writeBody =
      EStateM.bind (writeQuestions 0 m.questions) fun _ => EStateM.pure (0, 0, 0) := by
    unfold writeBody
    rw [h.answers, h.authority, h.additional, h.edns]
    rfl
  unfold encode Writer.run
  rw [hbody]
  unfold EStateM.bind
  cases writeQuestions 0 m.questions (blank headerLength) with
  | error fault out => rfl
  | ok _ out =>
    simp [EStateM.pure, h.answers, h.authority, h.additional, h.edns, headerBytes, Except.map]

/-- Messages with nothing but the same questions have octets together, and equally many. -/
theorem Message.IsBare.length_encode {m n : Message} (hm : m.IsBare) (hn : n.IsBare)
    (hquestions : n.questions = m.questions) {bytes : List UInt8} (h : m.encode = .ok bytes) :
    ∃ others, n.encode = .ok others ∧ others.length = bytes.length := by
  rw [hm.encode_eq] at h
  rw [hn.encode_eq, hquestions]
  cases hrun : (writeQuestions 0 m.questions).run headerLength with
  | error fault => rw [hrun] at h; cases h
  | ok body =>
    rw [hrun] at h
    cases h
    exact ⟨_, rfl, by simp⟩

/-- A name is short enough for its octets to have their length in one. -/
def Name.Fits (n : Name) : Prop :=
  n.length < maxLength

theorem Name.Fits.sizeOfLabels_lt {n : Name} (h : n.Fits) : sizeOfLabels n.labels < maxLength := by
  unfold Fits length isRoot at h
  split at h
  case isTrue hroot => simp [List.isEmpty_iff.mp hroot, maxLength]
  case isFalse => exact h

/-- **A message with nothing but one question is short.** -/
theorem Message.IsBare.length_encode_le {m : Message} (hm : m.IsBare)
    (hone : m.questions.length ≤ 1) (hfits : ∀ q ∈ m.questions, q.name.Fits)
    {bytes : List UInt8} (h : m.encode = .ok bytes) : bytes.length ≤ 271 := by
  obtain ⟨a, n, d, body, hform, -, rfl⟩ := encode_eq_ok h
  obtain ⟨hquestions, hanswers, hauthority, hadditional⟩ := hform
  simp only [hm.answers, hm.authority, hm.additional, hm.edns, ednsRecords, List.take_nil,
    Option.toList_none, List.map_nil, List.append_nil] at hanswers hauthority hadditional
  -- the sections have no octets, so those of the questions are left
  cases hanswers.2
  cases hauthority.2
  cases hadditional.2.2
  simp only [List.length_append, length_headerBytes, headerLength, List.append_nil]
  generalize m.questions = qs at *
  match qs, hquestions with
  | [], .nil => simp
  | [q], .cons hq .nil =>
    obtain ⟨hname⟩ := hq
    have hlength := hname.length_le
    have hsize := (hfits q List.mem_cons_self).sizeOfLabels_lt
    simp only [Name.maxLength] at hsize
    simp only [List.append_nil, List.length_append, bytes16, List.length_cons, List.length_nil]
    omega
  | _ :: _ :: _, _ => simp at hone

end DohRelay.Dns
