import DohRelay.Proofs.Dns.Questions

/-!
# Whole messages and short ones

A message is written whole where it has room.  Where it has not, records are left out, and then the
octets say so: unless they say that the message is truncated, they have every record of it.  Nor is
anything lost within a limit without a word, since the short form that takes the place of a message
says that it is truncated, too.

## Main definitions

* `Message.encodeWhole` — the octets of a message of which nothing is left out.
* `saysTruncated` — whether the octets of a message say that it is truncated.
* `Message.IsShortOf` — a message is the short form of another.

## Main results

* `Message.encode_of_encodeWhole` — a message is written whole if that can be.
* `Message.saysTruncated_eq_false_iff` — **octets that do not say so are those of a whole message.**
* `Message.encodeWithin_of_le`, `Message.encodeWithin_of_lt` — **within a limit, there are the
  octets of the message, or those of its short form.**
-/

namespace DohRelay.Dns

open Writer

/-! ### Whole messages -/

/-- Writes what follows the header, all of it. -/
def Message.writeWhole (m : Message) : Writer Unit := do
  writeQuestions 0 m.questions
  m.answers.forM writeRecord
  m.authority.forM writeRecord
  m.additional.forM writeRecord
  m.ednsRecords.forM writeRecord

/-- The octets of a message of which nothing is left out, if there is room for all of it. -/
def Message.encodeWhole (m : Message) : Except Fault (List UInt8) :=
  (m.writeWhole.run headerLength).map (m.headerBytes m.truncated m.answers.length
    m.authority.length (m.additional.length + m.edns.toList.length) ++ ·)

/-- Whether the octets of a message say that it is truncated. -/
def saysTruncated (bytes : List UInt8) : Bool :=
  bytes[2]?.any (bit · 0x02)

theorem saysTruncated_headerBytes (m : Message) (truncated : Bool) (a n d : Nat)
    (rest : List UInt8) : saysTruncated (m.headerBytes truncated a n d ++ rest) = truncated :=
  (flags_high m.opcode m.response m.authoritative truncated m.recursionDesired).2.2.2.1

/-- Records that are all written leave none out. -/
theorem writeRecords_of_forM {rs : List Record} {out out' : Output} {u : Unit}
    (h : rs.forM writeRecord out = .ok u out') : writeRecords rs out = .ok rs.length out' := by
  induction rs generalizing out with
  | nil =>
    cases h
    rfl
  | cons r rest ih =>
    obtain ⟨_, middle, hfirst, hrest⟩ := Writer.bind_eq_ok h
    unfold writeRecords
    simp only [hfirst, EStateM.map, ih hrest, List.length_cons]

/-- Where no records are left out, all are written. -/
theorem forM_of_writeRecords {rs : List Record} {out out' : Output}
    (h : writeRecords rs out = .ok rs.length out') : rs.forM writeRecord out = .ok () out' := by
  induction rs generalizing out with
  | nil =>
    cases h
    rfl
  | cons r rest ih =>
    rcases writeRecords_cons_cases h with ⟨hnone, -⟩ | ⟨middle, k, hfirst, hrest, hcount⟩
    · cases hnone
    · obtain rfl : k = rest.length := (Nat.succ.inj hcount).symm
      exact (Writer.bind_of_ok hfirst).trans (ih hrest)

namespace Message

variable {m : Message}

theorem length_ednsRecords (m : Message) : m.ednsRecords.length = m.edns.toList.length := by
  rw [ednsRecords, List.length_map]

/-- What is written whole leaves nothing out. -/
theorem writeBody_of_writeWhole {out out' : Output} {u : Unit}
    (h : m.writeWhole out = .ok u out') :
    m.writeBody out = .ok (m.answers.length, m.authority.length,
      m.additional.length + m.edns.toList.length) out' := by
  obtain ⟨_, out₁, hquestions, h⟩ := Writer.bind_eq_ok h
  obtain ⟨_, out₂, hanswers, h⟩ := Writer.bind_eq_ok h
  obtain ⟨_, out₃, hauthority, h⟩ := Writer.bind_eq_ok h
  obtain ⟨_, out₄, hadditional, hedns⟩ := Writer.bind_eq_ok h
  refine (Writer.bind_of_ok hquestions).trans ?_
  refine (Writer.bind_of_ok (writeRecords_of_forM hanswers)).trans ?_
  refine (Writer.bind_of_ok (writeRecords_of_forM hauthority)).trans ?_
  refine (Writer.bind_of_ok (writeRecords_of_forM hadditional)).trans ?_
  refine (Writer.bind_of_ok (writeRecords_of_forM hedns)).trans ?_
  rw [length_ednsRecords]
  rfl

/-- Where nothing is left out, all is written. -/
theorem writeWhole_of_writeBody {out out' : Output} {a n d : Nat}
    (h : m.writeBody out = .ok (a, n, d) out') (ha : a = m.answers.length)
    (hn : n = m.authority.length) (hd : d = m.additional.length + m.edns.toList.length)
    (hroom : out.size ≤ limit) : m.writeWhole out = .ok () out' := by
  obtain ⟨_, out₁, hquestions, h⟩ := Writer.bind_eq_ok h
  obtain ⟨a', out₂, hanswers, h⟩ := Writer.bind_eq_ok h
  obtain ⟨n', out₃, hauthority, h⟩ := Writer.bind_eq_ok h
  obtain ⟨d', out₄, hadditional, h⟩ := Writer.bind_eq_ok h
  obtain ⟨e', out₅, hedns, h⟩ := Writer.bind_eq_ok h
  cases h
  have hroom₁ := (puts_writeQuestions 0 m.questions).room hquestions hroom
  have hroom₂ := (puts_writeRecords m.answers).room hanswers hroom₁
  have hroom₃ := (puts_writeRecords m.authority).room hauthority hroom₂
  obtain ⟨_, -, -, hroom₄, hdle, -⟩ := puts_writeRecords m.additional _ _ _ hroom₃ hadditional
  obtain ⟨_, -, -, -, hele, -⟩ := puts_writeRecords m.ednsRecords _ _ _ hroom₄ hedns
  -- neither of the two parts of the last section has more records than there are
  rw [← length_ednsRecords] at hd
  obtain rfl : d' = m.additional.length := by omega
  obtain rfl : e' = m.ednsRecords.length := by omega
  subst ha hn
  refine (Writer.bind_of_ok hquestions).trans ?_
  refine (Writer.bind_of_ok (forM_of_writeRecords hanswers)).trans ?_
  refine (Writer.bind_of_ok (forM_of_writeRecords hauthority)).trans ?_
  refine (Writer.bind_of_ok (forM_of_writeRecords hadditional)).trans ?_
  exact forM_of_writeRecords hedns

/-- **A message is written whole if that can be.** -/
theorem encode_of_encodeWhole {bytes : List UInt8} (h : m.encodeWhole = .ok bytes) :
    m.encode = .ok bytes := by
  unfold encodeWhole Writer.run at h
  split at h
  case h_2 => cases h
  case h_1 out hout =>
    rw [Except.map, Except.ok.injEq] at h
    unfold encode
    rw [writeBody_of_writeWhole hout, ← h]
    simp [headerBytes]

/-- **Octets that do not say that a message is truncated are those of the whole message.** -/
theorem saysTruncated_eq_false_iff {bytes : List UInt8} (h : m.encode = .ok bytes) :
    saysTruncated bytes = false ↔ m.truncated = false ∧ m.encodeWhole = .ok bytes := by
  constructor
  · intro hsaid
    unfold encode at h
    split at h
    case h_1 => cases h
    case h_2 a n d out hout =>
      rw [Except.ok.injEq] at h
      have hbytes : bytes = m.headerBytes (m.truncated || !decide (a = m.answers.length ∧
          n = m.authority.length ∧ d = m.additional.length + m.edns.toList.length)) a n d ++
            out.reversed.reverse := by
        rw [← h]
        simp only [headerBytes, List.append_assoc]
      rw [hbytes, saysTruncated_headerBytes, Bool.or_eq_false_iff, Bool.not_eq_false',
        decide_eq_true_eq] at hsaid
      obtain ⟨htruncated, ha, hn, hd⟩ := hsaid
      refine ⟨htruncated, ?_⟩
      rw [encodeWhole, Writer.run, writeWhole_of_writeBody hout ha hn hd (by decide), hbytes]
      simp [Except.map, ha, hn, hd]
  · rintro ⟨htruncated, hwhole⟩
    unfold encodeWhole at hwhole
    cases hrun : m.writeWhole.run headerLength with
    | error fault =>
      rw [hrun] at hwhole
      cases hwhole
    | ok body =>
      rw [hrun, Except.map, Except.ok.injEq] at hwhole
      rw [← hwhole, saysTruncated_headerBytes, htruncated]

/-- The octets of a message are not more than there is room for. -/
theorem length_encode_le {bytes : List UInt8} (h : m.encode = .ok bytes) :
    bytes.length ≤ limit := by
  obtain ⟨a, n, d, body, -, hroom, rfl⟩ := encode_eq_ok h
  rwa [List.length_append, length_headerBytes]

/-! ### Short messages -/

/-- A message is the short form of another: it has nothing but the questions of the other, and its
header says that records are missing. -/
structure IsShortOf (short m : Message) : Prop where
  /-- It has the id of the message, -/
  id : short.id = m.id
  /-- it says that it is a response, -/
  response : short.response = true
  /-- it has the operation, -/
  opcode : short.opcode = m.opcode
  /-- one flag, -/
  recursionDesired : short.recursionDesired = m.recursionDesired
  /-- the other flag, -/
  recursionAvailable : short.recursionAvailable = m.recursionAvailable
  /-- the part of the response code that a header tells, -/
  code : short.rcode.low = m.rcode.low
  /-- and the questions of the message; -/
  questions : short.questions = m.questions
  /-- it says that it is truncated, -/
  truncated : short.truncated = true
  /-- and has no records. -/
  bare : short.IsBare

theorem isShortOf_shortened (m : Message) : m.shortened.IsShortOf m :=
  ⟨rfl, rfl, rfl, rfl, rfl, rfl, rfl, rfl, m.isBare_shortened⟩

/-- What is read of the octets of a short form is a short form of the same message. -/
theorem IsShortOf.of_decode {short : Message} (h : short.IsShortOf m)
    (hfits : ∀ q ∈ m.questions, q.name.Fits) {bytes : List UInt8}
    (hwritten : short.encode = .ok bytes) :
    ∃ read, decode bytes = .ok read ∧ read.IsShortOf m := by
  refine ⟨_, h.bare.decode_encode (h.questions.symm ▸ hfits) hwritten, ?_⟩
  have hlow : (ResponseCode.join 0 short.rcode.low).low = short.rcode.low :=
    ResponseCode.low_join 0 (by rw [ResponseCode.toNat_low]; omega)
  exact ⟨h.id, h.response, h.opcode, h.recursionDesired, h.recursionAvailable,
    hlow.trans h.code, h.questions, h.truncated,
    ⟨h.bare.answers, h.bare.authority, h.bare.additional, h.bare.edns⟩⟩

/-- The octets of a short form say that it is truncated. -/
theorem IsShortOf.saysTruncated {short : Message} (h : short.IsShortOf m) {bytes : List UInt8}
    (hwritten : short.encode = .ok bytes) : saysTruncated bytes = true := by
  rw [h.bare.encode_eq] at hwritten
  cases hrun : (writeQuestions 0 short.questions).run headerLength with
  | error fault =>
    rw [hrun] at hwritten
    cases hwritten
  | ok body =>
    rw [hrun, Except.map, Except.ok.injEq] at hwritten
    rw [← hwritten, saysTruncated_headerBytes, h.truncated]

/-- The questions of a message are written if the message is. -/
theorem exists_writeQuestions_of_encode {bytes : List UInt8} (h : m.encode = .ok bytes) :
    ∃ out, writeQuestions 0 m.questions (blank headerLength) = .ok () out := by
  unfold encode at h
  split at h
  case h_1 => cases h
  case h_2 hout =>
    obtain ⟨_, out, hquestions, -⟩ := Writer.bind_eq_ok hout
    exact ⟨out, hquestions⟩

/-- The short form of a message has octets if the message has. -/
theorem exists_encode_shortened {bytes : List UInt8} (h : m.encode = .ok bytes) :
    ∃ octets, m.shortened.encode = .ok octets := by
  obtain ⟨out, hquestions⟩ := exists_writeQuestions_of_encode h
  have hshort : writeQuestions 0 m.shortened.questions (blank headerLength) = .ok () out :=
    hquestions
  rw [m.isBare_shortened.encode_eq, Writer.run_of_ok hshort]
  exact ⟨_, rfl⟩

/-- **A message that is not too long is written as it is.** -/
theorem encodeWithin_of_le {bytes : List UInt8} (h : m.encode = .ok bytes) {limit : Nat}
    (hle : bytes.length ≤ limit) : m.encodeWithin limit = .ok bytes := by
  rw [encodeWithin, h]
  exact if_pos hle

/-- **In the place of a message that is too long, its short form is written.** -/
theorem encodeWithin_of_lt {bytes : List UInt8} (h : m.encode = .ok bytes) {limit : Nat}
    (hlt : limit < bytes.length) :
    ∃ (short : Message) (octets : List UInt8), m.encodeWithin limit = .ok octets ∧
      short.IsShortOf m ∧ short.encode = .ok octets := by
  obtain ⟨octets, hoctets⟩ := exists_encode_shortened h
  refine ⟨m.shortened, octets, ?_, m.isShortOf_shortened, hoctets⟩
  rw [encodeWithin, h, ← hoctets]
  exact if_neg (Nat.not_le.mpr hlt)

/-- A message that cannot be written cannot be written within a limit. -/
theorem encodeWithin_of_error {fault : Fault} (h : m.encode = .error fault) (limit : Nat) :
    m.encodeWithin limit = .error fault := by
  rw [encodeWithin, h]

/-- A message that is written is written within the limit of all messages. -/
theorem encodeWithin_limit {bytes : List UInt8} (h : m.encode = .ok bytes) :
    m.encodeWithin limit = .ok bytes :=
  encodeWithin_of_le h (length_encode_le h)

end Message

end DohRelay.Dns
