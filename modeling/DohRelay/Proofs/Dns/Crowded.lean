import DohRelay.Proofs.Dns.Room

/-!
# Queries with many questions

A query may ask about the root as often as there is room for.  Such queries are read as they were
written, and the reply that says they could not be answered repeats all of their questions.  A query
may ask about a name with a label as often, too, with pointers in the place of the name; but then
there may be no room for the reply, since a name is written only where there is room for all of it.

## Main definitions

* `rootBytes` — the octets of a message that asks about the root.
* `crowd`, `crowdBytes` — a query with so many questions about the root, and its octets.
* `pointed`, `pointedBytes` — a query with so many questions about another name, and its octets.

## Main results

* `decode_replicate`, `decode_rootBytes` — messages that ask one question so many times, such as
  that about the root, are read as they were written.
* `decode_crowdBytes` — the octets are read as the query.
* `length_encode_crowd` — the reply to the query has five octets for each question.
* `decode_pointedBytes`, `exists_error_encode_pointed` — **a query that can be read, and the reply
  to it, which cannot be written.**
-/

namespace DohRelay.Dns

open Reader Writer

/-- The question for the addresses of the root. -/
def rootQuestion : Question := ⟨.root, .a, classIn⟩

/-- The octets of the question. -/
def rootQuestionBytes : List UInt8 := [0, 0, 1, 0, 1]

/-- The octets of a message with nothing but questions about the root. -/
def rootBytes (m : Message) : List UInt8 :=
  m.headerBytes m.truncated 0 0 0 ++
    (List.replicate m.questions.length rootQuestionBytes).flatten

/-- A query that asks about the root so many times. -/
def crowd (n : Nat) : Message :=
  { Message.empty with
    id := 0x1234
    recursionDesired := true
    questions := List.replicate n rootQuestion }

/-- The octets of the query. -/
def crowdBytes (n : Nat) : List UInt8 :=
  [0x12, 0x34, 0x01, 0x00] ++ (bytes16 (.ofNat n) ++ ([0, 0] ++ ([0, 0] ++ ([0, 0] ++
    (List.replicate n rootQuestionBytes).flatten))))

/-! ### The query is read -/

theorem gives_root : Gives Reader.name [0] .root := by
  intro message p hstands
  have hread : Name.readFrom message p none [] p = .ok [] (p + 1) := by
    rw [Name.readFrom, if_neg (by simp), if_neg (by decide)]
    split
    case h_1 hnone =>
      rw [hstands.getElem?] at hnone
      cases hnone
    case h_2 b hb =>
      obtain rfl : 0 = b := Option.some.inj (hstands.getElem?.symm.trans hb)
      rfl
  unfold Reader.name
  rw [hread]
  rfl

theorem gives_rootQuestion : Gives readQuestion rootQuestionBytes rootQuestion :=
  gives_root.bind ((gives_word16 1).bind ((gives_word16 1).bind_end (.pure rfl)))

theorem gives_times {α : Type} {r : Reader α} {bytes : List UInt8} {a : α} (h : Gives r bytes a)
    (n : Nat) : Gives (times r n) (List.replicate n bytes).flatten (List.replicate n a) := by
  induction n with
  | zero => exact .pure rfl
  | succ n ih => exact h.bind (ih.bind_end (.pure rfl))

/-- A message with nothing but one question so many times is read as it was written, if the header
has room for its code. -/
theorem decode_replicate {m : Message} (hm : m.IsBare) {question : Question} {form : List UInt8}
    (hquestion : Gives readQuestion form question) {n : Nat} (hn : n < UInt16.size)
    (hquestions : m.questions = List.replicate n question) (hcode : m.rcode.toNat < 16) :
    Message.decode (m.headerBytes m.truncated 0 0 0 ++ (List.replicate n form).flatten) =
      .ok m := by
  have hcount : (UInt16.ofNat m.questions.length).toNat = n := by
    rw [hquestions, List.length_replicate]
    exact UInt16.toNat_ofNat_of_lt' hn
  have hgives : Gives (times readQuestion (UInt16.ofNat m.questions.length).toNat)
      (List.replicate n form).flatten m.questions := by
    rw [hcount, hquestions]
    exact gives_times hquestion n
  have hread : Gives Message.read
      (m.headerBytes m.truncated 0 0 0 ++ (List.replicate n form).flatten) m := by
    simp only [Message.headerBytes, List.append_assoc]
    rw [← List.append_assoc]
    refine (gives_header m m.truncated).bind ((gives_word16 _).bind ?_)
    refine (gives_word16 0).bind ((gives_word16 0).bind ((gives_word16 0).bind ?_))
    refine hgives.bind_end ?_
    refine (Gives.pure rfl).bind_end ((Gives.pure rfl).bind_end ((Gives.pure rfl).bind_end ?_))
    refine .pure (hm.header_eq.trans ?_)
    rw [ResponseCode.join_zero_low hcode]
  unfold Message.decode Reader.run
  rw [hread _ 0 (Stands.self _)]

/-- So are messages that ask about the root. -/
theorem decode_rootBytes {m : Message} (hm : m.IsBare) {n : Nat} (hn : n < UInt16.size)
    (hquestions : m.questions = List.replicate n rootQuestion) (hcode : m.rcode.toNat < 16) :
    Message.decode (rootBytes m) = .ok m := by
  have hlength : m.questions.length = n := by rw [hquestions, List.length_replicate]
  rw [rootBytes, hlength]
  exact decode_replicate hm gives_rootQuestion hn hquestions hcode

/-- **The octets are read as the query.** -/
theorem decode_crowdBytes {n : Nat} (hn : n < UInt16.size) :
    Message.decode (crowdBytes n) = .ok (crowd n) := by
  have hbytes : crowdBytes n = rootBytes (crowd n) := by
    have hquestions : (crowd n).questions.length = n := List.length_replicate
    have hflags : bytes16 (crowd n).id ++ (crowd n).flagBytes (crowd n).truncated =
        [0x12, 0x34, 0x01, 0x00] :=
      (by decide : bytes16 (crowd 0).id ++ (crowd 0).flagBytes (crowd 0).truncated = _)
    simp only [rootBytes, Message.headerBytes, hquestions, hflags, List.append_assoc]
    rfl
  have hcode : (crowd n).rcode.toNat < 16 := (by decide : ResponseCode.noError.toNat < 16)
  rw [hbytes]
  exact decode_rootBytes ⟨rfl, rfl, rfl, rfl⟩ hn rfl hcode

/-! ### The reply is written -/

theorem writeQuestion_rootQuestion (out : Output) (hroom : out.size + 5 ≤ limit) :
    writeQuestion rootQuestion out = .ok () ⟨rootQuestionBytes.reverse ++ out.reversed,
      out.size + 5, out.suffixes⟩ := by
  have hname : Writer.name .root out = .ok () ⟨0 :: out.reversed, out.size + 1, out.suffixes⟩ := by
    have hsize : size out = .ok out.size out := rfl
    -- the root has no labels: no earlier name is looked for, and none is remembered
    rw [Writer.name, Writer.bind_of_ok hsize,
      Writer.bind_of_ok (reserve_of_room (by simp [Name.root]; omega))]
    exact endName_of_room (by omega) (by simp only [Name.maxLength]; omega)
  refine (Writer.bind_of_ok hname).trans ?_
  refine (Writer.bind_of_ok (put_of_room (bytes16 1) (by simp [bytes16]; omega))).trans ?_
  exact put_of_room (bytes16 1) (by simp [bytes16]; omega)

/-- The questions are written as often as there is room for them. -/
theorem writeQuestions_crowd (n written : Nat) (out : Output)
    (hroom : out.size + 5 * n ≤ limit) :
    ∃ out', writeQuestions written (List.replicate n rootQuestion) out = .ok () out' ∧
      out'.reversed.length = out.reversed.length + 5 * n := by
  induction n generalizing written out with
  | zero => exact ⟨out, rfl, rfl⟩
  | succ n ih =>
    have hfirst := writeQuestion_rootQuestion out (by omega)
    obtain ⟨out', hrest, hlength⟩ := ih (written + 1)
      ⟨rootQuestionBytes.reverse ++ out.reversed, out.size + 5, out.suffixes⟩
      (by simp only; omega)
    refine ⟨out', ?_, ?_⟩
    · rw [List.replicate_succ, writeQuestions]
      refine (Writer.bind_of_ok (a := ()) ?_).trans hrest
      simp only [hfirst]
    · rw [hlength]
      simp [rootQuestionBytes]
      omega

/-- **The reply to the query has five octets for each question.** -/
theorem length_encode_crowd {n : Nat} (hn : headerLength + 5 * n ≤ limit) :
    ∃ bytes, (crowd n).servFailFor.encode = .ok bytes ∧
      bytes.length = headerLength + 5 * n := by
  obtain ⟨out, hout, hlength⟩ :=
    writeQuestions_crowd n 0 (blank headerLength) hn
  have hbare : (crowd n).servFailFor.IsBare := Message.isBare_replyTo _ _
  rw [hbare.encode_eq]
  have hquestions : (crowd n).servFailFor.questions = List.replicate n rootQuestion := rfl
  unfold Writer.run
  rw [hquestions, hout]
  refine ⟨_, rfl, ?_⟩
  simp only [List.length_append, Message.length_headerBytes, List.length_reverse, hlength, blank,
    List.length_nil, Nat.zero_add]

/-! ### Questions about a name with a label -/

/-- The label of a name that has no other. -/
def loneLabel : Label :=
  ⟨List.replicate 8 0x61, by decide, by decide⟩

/-- The question for the addresses of the name. -/
def loneQuestion : Question := ⟨⟨[loneLabel]⟩, .a, classIn⟩

/-- The octets of the name, written out. -/
def loneNameBytes : List UInt8 := [8, 0x61, 0x61, 0x61, 0x61, 0x61, 0x61, 0x61, 0x61, 0]

/-- The octets of the question with its name written out. -/
def loneQuestionBytes : List UInt8 := loneNameBytes ++ [0, 1, 0, 1]

/-- The octets of the question with a pointer in the place of its name, which stands right behind
the header. -/
def pointedQuestionBytes : List UInt8 := [0xc0, 0x0c, 0, 1, 0, 1]

/-- A query that asks about the name once, and so many times more. -/
def pointed (n : Nat) : Message :=
  { Message.empty with
    id := 0x1234
    recursionDesired := true
    questions := loneQuestion :: List.replicate n loneQuestion }

/-- The octets of the query, with a pointer in the place of every name but the first. -/
def pointedBytes (n : Nat) : List UInt8 :=
  [0x12, 0x34, 0x01, 0x00] ++ (bytes16 (.ofNat (n + 1)) ++ ([0, 0] ++ ([0, 0] ++ ([0, 0] ++
    (loneQuestionBytes ++ (List.replicate n pointedQuestionBytes).flatten)))))

/-- Of these octets there are six for each question that has a pointer. -/
theorem length_pointedBytes (n : Nat) : (pointedBytes n).length = 26 + 6 * n := by
  simp [pointedBytes, loneQuestionBytes, loneNameBytes, pointedQuestionBytes, length_bytes16]
  omega

/-- The question is read where its name is written out. -/
theorem read_loneQuestion {message : Array UInt8} {p : Nat}
    (hstands : Stands loneQuestionBytes message p) :
    readQuestion message p = .ok loneQuestion (p + 14) ∧
      Spelled message p [loneLabel] p (p + 10) := by
  have hspelled : Spelled message p [loneLabel] p (p + 10) :=
    .label (Stands.left (y := [0]) hstands.left)
      (.root (Stands.right (x := 8 :: loneLabel.bytes) (y := [0]) hstands.left).getElem?)
  have hrest : Stands (bytes16 1 ++ bytes16 1) message (p + 10) := hstands.right
  have hread : Name.readFrom message p none [] p = .ok [loneLabel] (p + 10) :=
    hspelled.readFrom_eq nofun (by decide : 9 < 255)
  have hname : Reader.name message p = .ok ⟨[loneLabel]⟩ (p + 10) := by
    rw [Reader.name, hread]
  refine ⟨?_, hspelled⟩
  exact (Reader.bind_of_ok hname).trans ((Reader.bind_of_ok (gives_word16 1 _ _ hrest.left)).trans
    ((Reader.bind_of_ok (gives_word16 1 _ _ hrest.right)).trans rfl))

/-- The question is read where a pointer leads to its name. -/
theorem read_pointedQuestion {message : Array UInt8} {p : Nat}
    (hspelled : Spelled message 12 [loneLabel] 12 22) (hbefore : 22 ≤ p)
    (hstands : Stands pointedQuestionBytes message p) :
    readQuestion message p = .ok loneQuestion (p + 6) := by
  have hhere : Stands (bytes16 (0xc000 ||| UInt16.ofNat 12)) message p :=
    Stands.left (x := [0xc0, 0x0c]) hstands
  have hpointer : Spelled message p [loneLabel] p (p + 2) :=
    .pointer hhere (by decide) hspelled hbefore
  have hrest : Stands (bytes16 1 ++ bytes16 1) message (p + 2) :=
    Stands.right (x := [0xc0, 0x0c]) hstands
  have hread : Name.readFrom message p none [] p = .ok [loneLabel] (p + 2) :=
    hpointer.readFrom_eq nofun (by decide : 9 < 255)
  have hname : Reader.name message p = .ok ⟨[loneLabel]⟩ (p + 2) := by
    rw [Reader.name, hread]
  exact (Reader.bind_of_ok hname).trans ((Reader.bind_of_ok (gives_word16 1 _ _ hrest.left)).trans
    ((Reader.bind_of_ok (gives_word16 1 _ _ hrest.right)).trans rfl))

theorem times_pointedQuestion {message : Array UInt8} (n : Nat) {p : Nat}
    (hspelled : Spelled message 12 [loneLabel] 12 22) (hbefore : 22 ≤ p)
    (hstands : Stands (List.replicate n pointedQuestionBytes).flatten message p) :
    times readQuestion n message p = .ok (List.replicate n loneQuestion) (p + 6 * n) := by
  induction n generalizing p with
  | zero => rfl
  | succ n ih =>
    rw [List.replicate_succ, List.flatten_cons] at hstands
    have hrest := ih (p := p + 6) (by omega) hstands.right
    rw [show p + 6 * (n + 1) = p + 6 + 6 * n by omega]
    exact (Reader.bind_of_ok (read_pointedQuestion hspelled hbefore hstands.left)).trans
      ((Reader.bind_of_ok hrest).trans rfl)

/-- **The octets are read as the query.** -/
theorem decode_pointedBytes {n : Nat} (hn : n + 1 < UInt16.size) :
    Message.decode (pointedBytes n) = .ok (pointed n) := by
  have hlength : (pointed n).questions.length = n + 1 := by simp [pointed]
  have hbytes : pointedBytes n = (pointed n).headerBytes (pointed n).truncated 0 0 0 ++
      (loneQuestionBytes ++ (List.replicate n pointedQuestionBytes).flatten) := by
    have hflags : bytes16 (pointed n).id ++ (pointed n).flagBytes (pointed n).truncated =
        [0x12, 0x34, 0x01, 0x00] :=
      (by decide : bytes16 (pointed 0).id ++ (pointed 0).flagBytes (pointed 0).truncated = _)
    simp only [Message.headerBytes, hlength, hflags, List.append_assoc]
    rfl
  have hstands : Stands ((pointed n).headerBytes (pointed n).truncated 0 0 0 ++
      (loneQuestionBytes ++ (List.replicate n pointedQuestionBytes).flatten))
      (pointedBytes n).toArray 0 := hbytes ▸ Stands.self (pointedBytes n)
  obtain ⟨hfirst, hspelled⟩ := read_loneQuestion hstands.right.left
  have hothers := times_pointedQuestion n hspelled (by decide : 22 ≤ 26) hstands.right.right
  have hcount : (UInt16.ofNat (pointed n).questions.length).toNat = n + 1 := by
    rw [hlength]
    exact UInt16.toNat_ofNat_of_lt' hn
  have hbare : (pointed n).IsBare := ⟨rfl, rfl, rfl, rfl⟩
  have hquestions : times readQuestion (UInt16.ofNat (pointed n).questions.length).toNat
      (pointedBytes n).toArray 12 = .ok (pointed n).questions (26 + 6 * n) := by
    rw [hcount]
    exact (Reader.bind_of_ok hfirst).trans ((Reader.bind_of_ok hothers).trans rfl)
  have hcode : (pointed n).rcode.toNat < 16 := (by decide : ResponseCode.noError.toNat < 16)
  have hdecode := hbare.decode_of_questions hbytes hquestions
  rw [ResponseCode.join_zero_low hcode] at hdecode
  exact hdecode

/-! ### The reply is not written -/

/-- Where there is no room for all of its name, the question is not written. -/
theorem writeQuestion_full {out : Output} (hfull : limit < out.size + 9) :
    writeQuestion loneQuestion out = .error .full out := by
  have hsize : size out = .ok out.size out := rfl
  have hreserve : reserve (Name.sizeOfLabels [loneLabel]) out = .error .full out := if_pos hfull
  have hname : name ⟨[loneLabel]⟩ out = .error .full out :=
    (Writer.bind_of_ok hsize).trans (Writer.bind_of_error hreserve)
  exact Writer.bind_of_error hname

/-- Where there is, the name takes two octets if it was written before. -/
theorem writeQuestion_loneQuestion {out : Output}
    (hknown : out.suffixes.lookup [loneLabel] = some 12) (hroom : out.size + 9 ≤ limit) :
    ∃ out', writeQuestion loneQuestion out = .ok () out' ∧ out'.size = out.size + 6 ∧
      out'.suffixes = out.suffixes := by
  have hsize : size out = .ok out.size out := rfl
  have hfind : find? [loneLabel] out = .ok (some 12) out := by rw [find?, hknown]
  have hroom' : out.size + 2 ≤ limit := by omega
  have hpointer : put [0xc0, 0x0c] out =
      .ok () ⟨[0x0c, 0xc0] ++ out.reversed, out.size + 2, out.suffixes⟩ :=
    put_of_room [0xc0, 0x0c] hroom'
  have hname : name ⟨[loneLabel]⟩ out =
      .ok () ⟨[0x0c, 0xc0] ++ out.reversed, out.size + 2, out.suffixes⟩ :=
    (Writer.bind_of_ok hsize).trans ((Writer.bind_of_ok (reserve_of_room hroom)).trans
      ((Writer.bind_of_ok hfind).trans hpointer))
  refine ⟨⟨pointedQuestionBytes.reverse ++ out.reversed, out.size + 6, out.suffixes⟩, ?_, rfl, rfl⟩
  refine (Writer.bind_of_ok hname).trans ?_
  refine (Writer.bind_of_ok (put_of_room (bytes16 1) (by simp [bytes16]; omega))).trans ?_
  exact put_of_room (bytes16 1) (by simp [bytes16]; omega)

/-- Of many questions about one name, one comes for which there is no room. -/
theorem exists_error_writeQuestions (n written : Nat) {out : Output}
    (hknown : out.suffixes.lookup [loneLabel] = some 12) (hfull : limit < out.size + 6 * n + 9) :
    ∃ fault out', writeQuestions written (List.replicate (n + 1) loneQuestion) out =
      .error fault out' := by
  induction n generalizing written out with
  | zero =>
    rw [Nat.mul_zero, Nat.add_zero] at hfull
    refine ⟨.questionsLeftOut written, out, Writer.bind_of_error ?_⟩
    simp only [writeQuestion_full hfull]
  | succ n ih =>
    by_cases hroom : out.size + 9 ≤ limit
    case pos =>
      obtain ⟨out₁, hfirst, hsize, hsuffixes⟩ := writeQuestion_loneQuestion hknown hroom
      obtain ⟨fault, out', hrest⟩ := ih (written + 1) (hsuffixes ▸ hknown) (by omega)
      refine ⟨fault, out', ?_⟩
      rw [List.replicate_succ, writeQuestions]
      refine (Writer.bind_of_ok (a := ()) ?_).trans hrest
      simp only [hfirst]
    case neg =>
      refine ⟨.questionsLeftOut written, out, Writer.bind_of_error ?_⟩
      simp only [writeQuestion_full (Nat.lt_of_not_le hroom)]

/-- **The reply to the query is not written**, though its octets are few enough, where the last
question leaves no room for its name in full. -/
theorem exists_error_encode_pointed {n : Nat} (hfull : limit < 29 + 6 * n) :
    ∃ fault, (pointed n).servFailFor.encode = .error fault := by
  have hbare : (pointed n).servFailFor.IsBare := Message.isBare_replyTo _ _
  obtain ⟨out, hfirst, hsize, hknown⟩ : ∃ out,
      writeQuestion loneQuestion (blank headerLength) = .ok () out ∧ out.size = 26 ∧
        out.suffixes.lookup [loneLabel] = some 12 := ⟨_, rfl, rfl, rfl⟩
  cases n with
  | zero => exact absurd hfull (by decide)
  | succ n =>
    obtain ⟨fault, out', hrest⟩ :=
      exists_error_writeQuestions n 1 hknown (by rw [hsize]; omega)
    have hall : writeQuestions 0 (pointed (n + 1)).servFailFor.questions (blank headerLength) =
        .error fault out' := by
      change writeQuestions 0 (loneQuestion :: List.replicate (n + 1) loneQuestion) _ = _
      rw [writeQuestions]
      refine (Writer.bind_of_ok (a := ()) ?_).trans hrest
      simp only [hfirst]
    refine ⟨fault, ?_⟩
    rw [hbare.encode_eq, Writer.run_of_error hall]
    rfl

end DohRelay.Dns
