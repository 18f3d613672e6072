import DohRelay.Proofs.Dns.DataRead

/-!
# Messages that can be read again

A message whose names fit and whose records have data that suits their types can be read whenever it
was written: every question and every record is read where it was put, and the counts in the header
say how many they are.  Every message that was read is of this kind, so relaying a message does not
spoil it.

## Main definitions

* `Record.Readable`, `Message.Readable` — records and messages that can be read again.

## Main results

* `Message.Readable.exists_decode` — **a readable message can be read if it is written.**
* `Message.readable_of_decode` — **every message that was read is readable.**
-/

namespace DohRelay.Dns

open Reader Writer

/-! ### Records -/

/-- A record has an owner that fits and data that suits its type. -/
structure Record.Readable (r : Record) : Prop where
  /-- The name of the owner fits. -/
  owner : r.owner.Fits
  /-- An extension record is about the root. -/
  root : r.type = .opt → r.owner.isRoot = true
  /-- Data is of a type that records can have. -/
  data : ∀ d ∈ r.data, r.type.isQuestionOnly = false ∧ d.Suits r.type

/-- The class of a record is read, where it may stand. -/
theorem exists_readBy_class {owner : Name} {type : RecordType}
    (hroot : type = .opt → owner.isRoot = true) (n : UInt16) :
    ∃ rclass, ReadBy (Writer.word16 n) (fun _ => readClass owner type) rclass := by
  by_cases htype : type = .opt
  · refine ⟨max Edns.minPayload n, ?_⟩
    rw [readClass, if_pos htype, hroot htype]
    exact (ReadBy.word16 n).map _
  · refine ⟨n, ?_⟩
    rw [readClass, if_neg htype]
    exact .word16 n

/-- What is written of some data with its length is read with it. -/
theorem Record.Readable.read_data {r : Record} (h : r.Readable) {message : Array UInt8}
    {out out' : Output} {u : Unit}
    (hout : withLength (r.data.elim (pure ()) Writer.data) out = .ok u out')
    (hlies : Lies message out') (hrecalled : Recalled message out) :
    ∃ length : UInt16, Reader.word16 message out.size = .ok length (out.size + 2) ∧
      out'.size = out.size + 2 + length.toNat ∧ Recalled message out' ∧
      (length.toNat ≠ 0 → ∃ d, readData r.type length.toNat message (out.size + 2) =
        .ok d out'.size) := by
  cases hdata : r.data with
  | none =>
    rw [hdata] at hout
    -- nothing is written, so the length is none
    have hnone : ReadBy (pure ()) (fun n => (pure n : Reader Nat)) 0 :=
      .of_plain .nil fun _ => .pure rfl
    obtain ⟨length, hlength, hsize, hread, hrecalled'⟩ := hnone.withLength hout hlies hrecalled
    injection hread with hzero
    exact ⟨length, hlength, hsize, hrecalled', fun hne => absurd hzero hne⟩
  | some d =>
    rw [hdata] at hout
    obtain ⟨hquestionOnly, hsuits⟩ := h.data d hdata
    obtain ⟨found, hfound⟩ := hsuits.exists_readBy
    obtain ⟨length, hlength, hsize, hread, hrecalled'⟩ := hfound.withLength hout hlies hrecalled
    refine ⟨length, hlength, hsize, hrecalled', fun _ => ⟨found, ?_⟩⟩
    have hattempt : attempt (readForm r.type length.toNat) message (out.size + 2) =
        .ok (.ok found) out'.size := by
      rw [attempt, hread]
    rw [readData, hquestionOnly]
    refine (guard_of_not nofun).trans ((Reader.bind_of_ok (position_eq message _)).trans ?_)
    refine (Reader.bind_of_ok hattempt).trans ((Reader.bind_of_ok (position_eq message _)).trans ?_)
    exact guard_of_not (by omega)

/-- A record is read where it was written. -/
theorem Record.Readable.read_writeRecord {r : Record} (h : r.Readable) {message : Array UInt8}
    {out out' : Output} {u : Unit} (hout : writeRecord r out = .ok u out')
    (hroom : out.size ≤ limit) (hlies : Lies message out') (hrecalled : Recalled message out) :
    ∃ r', readRecord message out.size = .ok r' out'.size ∧ r'.type = r.type ∧
      Recalled message out' := by
  obtain ⟨rclass, hclass⟩ := exists_readBy_class h.root r.rclass
  have hdataPuts := (puts_withLength (puts_recordData r)).any
  have httlPuts := (ReadBy.word32 r.ttl).puts.bind_any fun _ => hdataPuts
  have hclassPuts := hclass.puts.bind_any fun _ => httlPuts
  have htypePuts := (ReadBy.word16 r.type.code).puts.bind_any fun _ => hclassPuts
  obtain ⟨out₁, hout, -, hroom₁, hreadOwner, hrecalled₁⟩ :=
    (readBy_name h.owner).peel htypePuts hroom hout hlies hrecalled
  obtain ⟨out₂, hout, -, hroom₂, hreadType, hrecalled₂⟩ :=
    (ReadBy.word16 r.type.code).peel hclassPuts hroom₁ hout hlies hrecalled₁
  obtain ⟨out₃, hout, -, hroom₃, hreadClass, hrecalled₃⟩ :=
    hclass.peel httlPuts hroom₂ hout hlies hrecalled₂
  obtain ⟨out₄, hout, -, hroom₄, hreadTtl, hrecalled₄⟩ :=
    (ReadBy.word32 r.ttl).peel hdataPuts hroom₃ hout hlies hrecalled₃
  obtain ⟨length, hreadLength, hsize, hrecalled', hdata⟩ := h.read_data hout hlies hrecalled₄
  have hwithin := hlies.within
  have hleft : ¬ message.size - (out₄.size + 2) < length.toNat := by omega
  -- all but the data is read in any case
  have hhead (r' : Record) (htail : (if length.toNat = 0 then
        pure ⟨r.owner, r.type, rclass, r.ttl, none⟩
      else do return ⟨r.owner, r.type, rclass, r.ttl, some (← readData r.type length.toNat)⟩ :
        Reader Record) message (out₄.size + 2) = .ok r' out'.size) :
      readRecord message out.size = .ok r' out'.size := by
    unfold readRecord
    refine (Reader.bind_of_ok hreadOwner).trans ((Reader.bind_of_ok hreadType).trans ?_)
    refine (Reader.bind_of_ok hreadClass).trans ((Reader.bind_of_ok hreadTtl).trans ?_)
    refine (Reader.bind_of_ok hreadLength).trans ?_
    refine (Reader.bind_of_ok (rfl : remaining message (out₄.size + 2) = .ok _ _)).trans ?_
    exact (guard_of_not hleft).trans htail
  by_cases hzero : length.toNat = 0
  case pos =>
    refine ⟨⟨r.owner, r.type, rclass, r.ttl, none⟩, hhead _ ?_, rfl, hrecalled'⟩
    rw [if_pos hzero, hsize, hzero]
    rfl
  case neg =>
    obtain ⟨d, hd⟩ := hdata hzero
    refine ⟨⟨r.owner, r.type, rclass, r.ttl, some d⟩, hhead _ ?_, rfl, hrecalled'⟩
    rw [if_neg hzero]
    exact (Reader.bind_of_ok hd).trans rfl

/-! ### Sections -/

/-- As many records are read as found room. -/
theorem read_writeRecords {rs : List Record} (h : ∀ r ∈ rs, r.Readable) {message : Array UInt8}
    {out out' : Output} {n : Nat} (hout : writeRecords rs out = .ok n out')
    (hroom : out.size ≤ limit) (hlies : Lies message out') (hrecalled : Recalled message out) :
    (∃ found, times readRecord n message out.size = .ok found out'.size) ∧
      Recalled message out' := by
  induction rs generalizing out n with
  | nil =>
    cases hout
    exact ⟨⟨[], rfl⟩, hrecalled⟩
  | cons r rest ih =>
    rcases writeRecords_cons_cases hout with ⟨rfl, rfl⟩ | ⟨middle, k, hfirst, hrest, rfl⟩
    · exact ⟨⟨[], rfl⟩, hrecalled⟩
    · obtain ⟨hr, hothers⟩ := List.forall_mem_cons.mp h
      have hroom' := (puts_writeRecord r).room hfirst hroom
      obtain ⟨_, -, hlies', -, -⟩ := (puts_writeRecords rest).lies hrest hroom' hlies
      obtain ⟨r', hread, -, hrecalled'⟩ := hr.read_writeRecord hfirst hroom hlies' hrecalled
      obtain ⟨⟨found, hfound⟩, hrecalled''⟩ := ih hothers hrest hroom' hrecalled'
      exact ⟨⟨r' :: found, (Reader.bind_of_ok hread).trans ((Reader.bind_of_ok hfound).trans rfl)⟩,
        hrecalled''⟩

/-- In the last section, what can be read behind some records can be read with them. -/
theorem read_additional {rs : List Record} (h : ∀ r ∈ rs, r.Readable)
    (hplain : ∀ r ∈ rs, r.type ≠ .opt) {message : Array UInt8} {out out' : Output} {n : Nat}
    (hout : writeRecords rs out = .ok n out') (hroom : out.size ≤ limit)
    (hlies : Lies message out') (hrecalled : Recalled message out) {k stop : Nat}
    {edns : Option Edns} {found : List Record × Option Edns}
    (hfound : readAdditional k edns message out'.size = .ok found stop) :
    ∃ more, readAdditional (n + k) edns message out.size = .ok more stop := by
  induction rs generalizing out n with
  | nil =>
    cases hout
    exact ⟨found, by rwa [Nat.zero_add]⟩
  | cons r rest ih =>
    rcases writeRecords_cons_cases hout with ⟨rfl, rfl⟩ | ⟨middle, m, hfirst, hrest, rfl⟩
    · exact ⟨found, by rwa [Nat.zero_add]⟩
    · obtain ⟨hr, hothers⟩ := List.forall_mem_cons.mp h
      obtain ⟨hrPlain, hplain⟩ := List.forall_mem_cons.mp hplain
      have hroom' := (puts_writeRecord r).room hfirst hroom
      obtain ⟨_, -, hlies', -, -⟩ := (puts_writeRecords rest).lies hrest hroom' hlies
      obtain ⟨r', hread, htype, hrecalled'⟩ := hr.read_writeRecord hfirst hroom hlies' hrecalled
      obtain ⟨more, hmore⟩ := ih hothers hplain hrest hroom' hrecalled'
      refine ⟨(r' :: more.1, more.2), ?_⟩
      rw [show m + 1 + k = m + k + 1 by omega, readAdditional]
      refine (Reader.bind_of_ok hread).trans ?_
      rw [if_neg (htype ▸ hrPlain)]
      exact (Reader.bind_of_ok hmore).trans rfl

/-- The extension record is read, or nothing was written of it. -/
theorem read_extension {ext : List Record} (hext : ext.length ≤ 1) (h : ∀ r ∈ ext, r.Readable)
    (hopt : ∀ r ∈ ext, r.type = .opt) {message : Array UInt8} {out out' : Output} {n : Nat}
    (hout : writeRecords ext out = .ok n out') (hroom : out.size ≤ limit)
    (hlies : Lies message out') (hrecalled : Recalled message out) :
    ∃ found, readAdditional n none message out.size = .ok found out'.size := by
  match ext with
  | [] =>
    cases hout
    exact ⟨_, rfl⟩
  | [r] =>
    rcases writeRecords_cons_cases hout with ⟨rfl, rfl⟩ | ⟨middle, k, hfirst, hrest, rfl⟩
    · exact ⟨_, rfl⟩
    · cases hrest
      obtain ⟨r', hread, htype, -⟩ := (h r List.mem_cons_self).read_writeRecord hfirst hroom hlies
        hrecalled
      refine ⟨([], some (Edns.ofRecord r')), ?_⟩
      rw [Nat.zero_add, readAdditional]
      refine (Reader.bind_of_ok hread).trans ?_
      rw [if_pos (htype.trans (hopt r List.mem_cons_self))]
      rfl

/-! ### Messages -/

/-- The records of a message have owners that fit and data that suits them. -/
structure Message.Readable (m : Message) : Prop where
  /-- What answers the questions can be read. -/
  answers : ∀ r ∈ m.answers, r.Readable
  /-- So can the servers of the zone. -/
  authority : ∀ r ∈ m.authority, r.Readable
  /-- So can what is added. -/
  additional : ∀ r ∈ m.additional, r.Readable
  /-- No extension record is among that. -/
  plain : ∀ r ∈ m.additional, r.type ≠ .opt
  /-- The options can be read. -/
  edns : ∀ e ∈ m.edns, e.options.Readable

theorem Edns.readable_record {e : Edns} (h : e.options.Readable) (code : ResponseCode) :
    (e.record code).Readable where
  owner := (by decide : Name.length .root < Name.maxLength)
  root _ := rfl
  data d hd := by
    cases hd
    exact ⟨rfl, .options h⟩

/-- Everything behind a header is read where it was written. -/
theorem Message.Readable.exists_read {m : Message} (h : m.Readable)
    (hfits : ∀ q ∈ m.questions, q.name.Fits) {a n d : Nat} {out : Output}
    (hout : m.writeBody (blank headerLength) = .ok (a, n, d) out) {truncated : Bool}
    {message : Array UInt8} (hstands : Stands (m.headerBytes truncated a n d) message 0)
    (hlies : Lies message out) : ∃ m' p, Message.read message 0 = .ok m' p := by
  obtain ⟨body, -, hsize, hlimit, hform⟩ :=
    puts_writeBody m (blank headerLength) _ out (by decide) hout
  obtain ⟨hquestionCount, hanswerCount, hauthorityCount, hadditionalCount⟩ :=
    hform.toNat_counts (hsize ▸ hlimit)
  obtain ⟨hheader, hq, ha, hn, hd⟩ := read_headerBytes hstands
  -- the parts in the order they were written, and from the last to the first where they lie
  obtain ⟨_, out₁, hquestions, hout⟩ := Writer.bind_eq_ok hout
  obtain ⟨a', out₂, hanswers, hout⟩ := Writer.bind_eq_ok hout
  obtain ⟨n', out₃, hauthority, hout⟩ := Writer.bind_eq_ok hout
  obtain ⟨d', out₄, hadditional, hout⟩ := Writer.bind_eq_ok hout
  obtain ⟨e', _, hextension, hout⟩ := Writer.bind_eq_ok hout
  cases hout
  have hroom₁ := (puts_writeQuestions 0 m.questions).room hquestions (by decide)
  have hroom₂ := (puts_writeRecords m.answers).room hanswers hroom₁
  have hroom₃ := (puts_writeRecords m.authority).room hauthority hroom₂
  have hroom₄ := (puts_writeRecords m.additional).room hadditional hroom₃
  obtain ⟨_, -, hlies₄, -, -⟩ := (puts_writeRecords _).lies hextension hroom₄ hlies
  obtain ⟨_, -, hlies₃, -, -⟩ := (puts_writeRecords _).lies hadditional hroom₃ hlies₄
  obtain ⟨_, -, hlies₂, -, -⟩ := (puts_writeRecords _).lies hauthority hroom₂ hlies₃
  obtain ⟨_, -, hlies₁, -, -⟩ := (puts_writeRecords _).lies hanswers hroom₁ hlies₂
  obtain ⟨hreadQuestions, hrecalled₁⟩ :=
    read_writeQuestions hquestions hfits (by decide) hlies₁ (by simp [Recalled, blank])
  obtain ⟨⟨answers, hreadAnswers⟩, hrecalled₂⟩ :=
    read_writeRecords h.answers hanswers hroom₁ hlies₂ hrecalled₁
  obtain ⟨⟨authority, hreadAuthority⟩, hrecalled₃⟩ :=
    read_writeRecords h.authority hauthority hroom₂ hlies₃ hrecalled₂
  obtain ⟨-, hrecalled₄⟩ := read_writeRecords h.additional hadditional hroom₃ hlies₄ hrecalled₃
  have hext : ∀ r ∈ m.ednsRecords, r.Readable ∧ r.type = .opt := by
    intro r hr
    obtain ⟨e, he, rfl⟩ := List.mem_map.mp hr
    exact ⟨Edns.readable_record (h.edns e (by simpa using he)) _, rfl⟩
  have hone : m.ednsRecords.length ≤ 1 := by
    rw [ednsRecords, List.length_map]
    cases m.edns <;> simp
  obtain ⟨found, hfound⟩ := read_extension hone (fun r hr => (hext r hr).1)
    (fun r hr => (hext r hr).2) hextension hroom₄ hlies hrecalled₄
  obtain ⟨⟨additional, edns⟩, hreadAdditional⟩ :=
    read_additional h.additional h.plain hadditional hroom₃ hlies₄ hrecalled₃ hfound
  change times readQuestion _ message 12 = _ at hreadQuestions
  unfold Message.read
  rw [Reader.bind_of_ok hheader, Reader.bind_of_ok hq, Reader.bind_of_ok ha, Reader.bind_of_ok hn,
    Reader.bind_of_ok hd, hquestionCount, hanswerCount, hauthorityCount, hadditionalCount,
    Reader.bind_of_ok hreadQuestions, Reader.bind_of_ok hreadAnswers,
    Reader.bind_of_ok hreadAuthority, Reader.bind_of_ok hreadAdditional]
  exact ⟨_, _, rfl⟩

/-- **A readable message can be read if it is written**, provided that its questions are about names
that fit. -/
theorem Message.Readable.exists_decode {m : Message} (h : m.Readable)
    (hfits : ∀ q ∈ m.questions, q.name.Fits) {bytes : List UInt8}
    (hwritten : m.encode = .ok bytes) : ∃ m', decode bytes = .ok m' := by
  obtain ⟨a, n, d, out, hout, rfl⟩ := writeBody_of_encode hwritten
  obtain ⟨body, hreversed, hsize, -⟩ :=
    puts_writeBody m (blank headerLength) _ out (by decide) hout
  have hlength : out.size = headerLength + out.reversed.length := by
    rw [hsize, hreversed, List.length_append, List.length_reverse]
    rfl
  have hstands := Stands.self (m.headerBytes (m.truncated || !decide (a = m.answers.length ∧
    n = m.authority.length ∧ d = m.additional.length + m.edns.toList.length)) a n d ++
      out.reversed.reverse)
  have hbody := hstands.right
  rw [length_headerBytes, Nat.zero_add] at hbody
  have hstart : out.size - out.reversed.length = headerLength := by omega
  obtain ⟨m', p, hread⟩ := h.exists_read hfits hout hstands.left
    ⟨by omega, hstart ▸ hbody, by simp; omega⟩
  exact ⟨m', by rw [decode, Reader.run, hread]⟩

/-! ### What is read -/

/-- Data that is read is of a type that records can have, and suits it. -/
theorem yields_readData (type : RecordType) (length : Nat) :
    Yields (readData type length) fun d => type.isQuestionOnly = false ∧ d.Suits type := by
  have hattempt : Yields (attempt (readForm type length)) fun outcome =>
      ∀ d, outcome = .ok d → d.Suits type := by
    intro message p outcome p' h d hd
    unfold attempt at h
    split at h
    case h_1 hread =>
      cases h
      cases hd
      exact suits_of_readForm type length _ _ _ _ hread
    case h_2 =>
      cases h
      cases hd
  refine .guard fun hquestionOnly => .bind_any fun start => hattempt.bind fun outcome houtcome =>
    .bind_any fun stop => .guard fun _ => ?_
  cases outcome with
  | error fault => exact yields_fail fault _
  | ok d => exact .pure ⟨Bool.eq_false_iff.mpr hquestionOnly, houtcome d rfl⟩

/-- A record that is read can be read again. -/
theorem yields_readRecord : Yields readRecord Record.Readable := by
  have hclass (owner : Name) (type : RecordType) : Yields (readClass owner type) fun _ =>
      type = .opt → owner.isRoot = true := by
    refine .ite (fun _ => .guard fun hroot => .bind_any fun n => .pure fun _ => ?_) fun htype =>
      (yields_any _).mono fun _ _ hopt => absurd hopt htype
    simpa using hroot
  refine yields_name.bind fun owner howner => .bind_any fun type => (hclass owner ⟨type⟩).bind
    fun rclass hroot => .bind_any fun ttl => .bind_any fun length => .bind_any fun left =>
    .guard fun _ => .ite (fun _ => .pure ⟨howner, hroot, nofun⟩) fun _ =>
    (yields_readData ⟨type⟩ _).bind fun d hd => .pure ⟨howner, hroot, ?_⟩
  intro d' hd'
  cases hd'
  exact hd

theorem RecordData.Suits.readable {type : RecordType} {set : OptionSet}
    (h : Suits type (.options set)) : set.Readable := by
  cases h with
  | options hset => exact hset

/-- What an extension record says can be written and read again. -/
theorem Record.Readable.readable_ofRecord {r : Record} (h : r.Readable) :
    (Edns.ofRecord r).options.Readable := by
  unfold Edns.ofRecord
  dsimp only
  split
  case h_1 set hdata => exact (h.data _ hdata).2.readable
  case h_2 => exact OptionSet.readable_empty

/-- The last section can be read again, and so can the extension record. -/
theorem yields_readAdditional (n : Nat) {edns : Option Edns}
    (h : ∀ e ∈ edns, e.options.Readable) : Yields (readAdditional n edns) fun found =>
      (∀ r ∈ found.1, r.Readable ∧ r.type ≠ .opt) ∧ ∀ e ∈ found.2, e.options.Readable := by
  induction n generalizing edns with
  | zero => exact .pure ⟨nofun, h⟩
  | succ n ih =>
    refine yields_readRecord.bind fun r hr => .ite (fun hopt => .guard fun _ => ih ?_)
      fun hplain => (ih h).bind fun found hfound => ?_
    · intro e he
      cases he
      exact hr.readable_ofRecord
    · exact .pure ⟨List.forall_mem_cons.mpr ⟨⟨hr, hplain⟩, hfound.1⟩, hfound.2⟩

/-- A message keeps what can be read when it is made to answer a query. -/
theorem Message.Readable.answering {m : Message} (h : m.Readable) (query : Message) :
    (m.answering query).Readable where
  answers := h.answers
  authority := h.authority
  additional := h.additional
  plain := h.plain
  edns e he := by
    unfold Message.answering at he
    dsimp only at he
    split at he
    case isTrue => cases he
    case isFalse => exact h.edns e he

theorem Message.IsBare.readable {m : Message} (h : m.IsBare) : m.Readable := by
  refine ⟨?_, ?_, ?_, ?_, ?_⟩ <;> simp [h.answers, h.authority, h.additional, h.edns]

theorem yields_read : Yields Message.read Message.Readable := by
  refine .bind_any fun header => .bind_any fun questionCount => .bind_any fun answerCount =>
    .bind_any fun authorityCount => .bind_any fun additionalCount =>
    .bind_any fun questions => (yields_readRecord.times _).bind fun answers hanswers =>
    (yields_readRecord.times _).bind fun authority hauthority =>
    (yields_readAdditional _ (by simp)).bind fun found hfound => .pure ?_
  exact ⟨hanswers.2, hauthority.2, fun r hr => (hfound.1 r hr).1,
    fun r hr => (hfound.1 r hr).2, hfound.2⟩

/-- **Every message that was read is readable.** -/
theorem Message.readable_of_decode {bytes : List UInt8} {m : Message}
    (h : decode bytes = .ok m) : m.Readable := by
  unfold decode Reader.run at h
  split at h
  case h_1 hread =>
    cases h
    exact yields_read _ _ _ _ hread
  case h_2 => cases h

end DohRelay.Dns
