import DohRelay.Proofs.Dns.NameReading
import DohRelay.Proofs.Service.Findings
import DohRelay.Proofs.Service.Received

/-!
# Documents that can be passed on

A message that is made of a document has names and texts that were read from texts of any length,
and the writer has limits of its own.  Text that stands for a name is read if its labels take 255
octets at most, and so is one octet too long for the writer when they take all of these.  Texts in
data are not limited at all, but the writer wants the length of each in one octet.  Nothing else
keeps a message that is made of a document from being written.

## Main definitions

* `Resolve.nameFields`, `Resolve.Record.strings` — the names and the texts in the data of a
  document.
* `Resolve.Record.Deliverable` — names fit, and texts are short.
* `Resolve.Answer.all` — all records of a document.

## Main results

* `Dns.Name.fits_of_ofText` — **a name of at most 253 characters fits.**
* `Dns.Message.short_of_encode` — **octets that do not say that a message is truncated have no text
  that is too long.**
* `Resolve.Record.Deliverable.writable` — a deliverable record is understood as one that can be
  written.
* `Resolve.documents_are_written` — **a message that is made of a document is written if the records
  of the document are deliverable**, and only truncated if a text is not.
* `Resolve.too_long_is_not_written` — a text and a name that are accepted and cannot be written.
-/

namespace DohRelay

namespace Dns

/-! ### Names that are read from texts -/

/-- A label has as many octets as its text has characters. -/
theorem Label.length_of_ofText {s : List Char} {l : Label} (h : Label.ofText s = .ok l) :
    l.length = s.length := by
  obtain rfl : s = l.chars := ofChars_eq_ok_iff.mp (ofText_eq_ok_iff.mp h).1
  exact (List.length_map _).symm

namespace Name

/-- One more label takes an octet for its length, and one for each character. -/
theorem sizeOfLabels_of_appendText {ls ls' : List Label} {s : List Char}
    (h : appendText Label.ofText ls s = .ok ls') :
    sizeOfLabels ls' = sizeOfLabels ls + (s.length + 1) := by
  unfold appendText at h
  split at h
  case h_1 => cases h
  case h_2 label hlabel =>
    unfold append at h
    dsimp only at h
    split at h
    case isTrue => cases h
    case isFalse =>
      cases h
      rw [sizeOfLabels_append, sizeOfLabels_cons, sizeOfLabels_nil,
        Label.length_of_ofText hlabel, Nat.add_zero]

/-- Labels take no more octets than there are characters, the dots counted. -/
theorem sizeOfLabels_of_readLabels {ls ls' : List Label} {pending pending' s : List Char}
    (h : readLabels Label.ofText ls pending s = .ok (ls', pending')) :
    sizeOfLabels ls' + pending'.length ≤ sizeOfLabels ls + pending.length + s.length := by
  fun_induction readLabels Label.ofText ls pending s with
  | case1 =>
    cases h
    exact Nat.le_refl _
  | case2 | case4 | case7 => cases h
  | case3 ls pending rest labels happend ih =>
    have hlabels := sizeOfLabels_of_appendText happend
    have hrest := ih h
    simp only [List.length_nil, List.length_cons] at hrest ⊢
    omega
  | case5 =>
    cases h
    exact Nat.le_add_right ..
  | case6 ls pending rest c taken hescape ih =>
    -- an escape takes more characters than the one that it stands for
    have hrest := ih h
    simp only [List.length_append, List.length_cons, List.length_nil, List.length_drop] at hrest ⊢
    omega
  | case8 ls pending c rest _ _ _ ih =>
    have hrest := ih h
    simp only [List.length_append, List.length_cons, List.length_nil] at hrest ⊢
    omega

/-- A name takes an octet more than its text has characters, at most. -/
theorem sizeOfLabels_of_ofText {s : List Char} {n : Name} (h : ofText s = .ok n) :
    sizeOfLabels n.labels ≤ s.length + 1 := by
  unfold ofText at h
  rcases hread : Name.read Label.ofText s with fault | ⟨n', dotted⟩
  · rw [hread] at h
    cases h
  rw [hread] at h
  cases h
  unfold Name.read at hread
  rcases ite_eq_iff.mp hread with ⟨-, hread⟩ | ⟨-, hread⟩
  · cases hread
    exact Nat.zero_le _
  split at hread
  case h_1 => cases hread
  case h_2 labels hlabels =>
    cases hread
    have hsize := sizeOfLabels_of_readLabels hlabels
    simp only [sizeOfLabels_nil, List.length_nil] at hsize
    change sizeOfLabels labels ≤ s.length + 1
    omega
  case h_3 labels pending _ hlabels =>
    have hsize := sizeOfLabels_of_readLabels hlabels
    cases happend : appendText Label.ofText labels pending with
    | error fault =>
      rw [happend] at hread
      cases hread
    | ok all =>
      rw [happend] at hread
      cases hread
      have hlast := sizeOfLabels_of_appendText happend
      simp only [sizeOfLabels_nil, List.length_nil] at hsize hlast
      change sizeOfLabels all ≤ s.length + 1
      omega

/-- **A name of at most 253 characters fits.** -/
theorem fits_of_ofText {s : List Char} {n : Name} (h : ofText s = .ok n) (hs : s.length ≤ 253) :
    n.Fits := by
  have hsize : sizeOfLabels n.labels ≤ 254 :=
    Nat.le_trans (sizeOfLabels_of_ofText h) (Nat.succ_le_succ hs)
  exact fits_of_sizeOfLabels (Nat.lt_succ_of_le hsize)

end Name

/-! ### Texts that are written -/

open Writer

/-- A text is written only if its length goes into one octet. -/
theorem Writer.short_of_charString {bytes : List UInt8} {out out' : Output} {u : Unit}
    (h : charString bytes out = .ok u out') : bytes.length ≤ 255 := by
  by_contra hlong
  unfold charString at h
  rw [if_pos (Nat.lt_of_not_le hlong)] at h
  cases h

/-- What holds of whatever is written holds of each thing that is. -/
theorem Writer.forall_of_forM {α : Type} {f : α → Writer Unit} {P : α → Prop}
    (hf : ∀ a out out', f a out = .ok () out' → P a) {as : List α} {out out' : Output}
    (h : as.forM f out = .ok () out') : ∀ a ∈ as, P a := by
  induction as generalizing out with
  | nil => exact List.forall_mem_nil _
  | cons a as ih =>
    obtain ⟨_, middle, hfirst, hrest⟩ := Writer.bind_eq_ok h
    exact List.forall_mem_cons.mpr ⟨hf a out middle hfirst, ih hrest⟩

/-- Data is written only if the texts in it are short. -/
theorem RecordData.short_of_data {d : RecordData} {out out' : Output} {u : Unit}
    (h : Writer.data d out = .ok u out') : ∀ t ∈ d.texts, t.length ≤ 255 := by
  cases d with
  | txt strings =>
    exact Writer.forall_of_forM (fun t _ _ ht => Writer.short_of_charString ht) h
  | hinfo cpu os =>
    obtain ⟨_, out₁, hcpu, hos⟩ := Writer.bind_eq_ok h
    simpa [texts] using ⟨Writer.short_of_charString hcpu, Writer.short_of_charString hos⟩
  | naptr order preference flags services regexp replacement =>
    obtain ⟨_, out₁, -, h⟩ := Writer.bind_eq_ok h
    obtain ⟨_, out₂, -, h⟩ := Writer.bind_eq_ok h
    obtain ⟨_, out₃, hflags, h⟩ := Writer.bind_eq_ok h
    obtain ⟨_, out₄, hservices, h⟩ := Writer.bind_eq_ok h
    obtain ⟨_, out₅, hregexp, -⟩ := Writer.bind_eq_ok h
    simpa [texts] using ⟨Writer.short_of_charString hflags, Writer.short_of_charString hservices,
      Writer.short_of_charString hregexp⟩
  | caa critical tag value =>
    obtain ⟨_, out₁, -, h⟩ := Writer.bind_eq_ok h
    obtain ⟨_, out₂, htag, -⟩ := Writer.bind_eq_ok h
    simpa [texts] using Writer.short_of_charString htag
  | _ => exact List.forall_mem_nil _

/-- A record is written only if the texts in it are short. -/
theorem Record.short_of_writeRecord {r : Record} {out out' : Output}
    (h : writeRecord r out = .ok () out') : ∀ t ∈ r.texts, t.length ≤ 255 := by
  obtain ⟨_, out₁, -, h⟩ := Writer.bind_eq_ok h
  obtain ⟨_, out₂, -, h⟩ := Writer.bind_eq_ok h
  obtain ⟨_, out₃, -, h⟩ := Writer.bind_eq_ok h
  obtain ⟨_, out₄, -, h⟩ := Writer.bind_eq_ok h
  obtain ⟨_, out₅, -, h⟩ := Writer.bind_eq_ok h
  unfold texts
  cases hd : r.data with
  | none => exact List.forall_mem_nil _
  | some d =>
    rw [hd] at h
    split at h
    case h_1 => cases h
    case h_2 hinner => exact RecordData.short_of_data hinner

/-- **Octets that do not say that a message is truncated have no text that is too long.** -/
theorem Message.short_of_encode {m : Message} {octets : List UInt8} (h : m.encode = .ok octets)
    (hsaid : saysTruncated octets = false) :
    ∀ r ∈ m.answers ++ m.authority ++ m.additional, ∀ t ∈ r.texts, t.length ≤ 255 := by
  obtain ⟨-, hwhole⟩ := (saysTruncated_eq_false_iff h).mp hsaid
  unfold encodeWhole Writer.run at hwhole
  split at hwhole
  case h_2 => cases hwhole
  case h_1 out hout =>
    obtain ⟨_, out₁, -, hout⟩ := Writer.bind_eq_ok hout
    obtain ⟨_, out₂, hanswers, hout⟩ := Writer.bind_eq_ok hout
    obtain ⟨_, out₃, hauthority, hout⟩ := Writer.bind_eq_ok hout
    obtain ⟨_, out₄, hadditional, -⟩ := Writer.bind_eq_ok hout
    have hshort (r : Record) (out out' : Output) (h : writeRecord r out = .ok () out') :=
      Record.short_of_writeRecord h
    intro r hr
    simp only [List.mem_append] at hr
    rcases hr with (hr | hr) | hr
    · exact Writer.forall_of_forM hshort hanswers r hr
    · exact Writer.forall_of_forM hshort hauthority r hr
    · exact Writer.forall_of_forM hshort hadditional r hr

/-- A writable answer to a query that was read can be written, or the query has so many questions
that there is no reply to it at all. -/
theorem Message.Writable.encode_answering {answer query : Message} {bytes : List UInt8}
    (h : answer.Writable) (hquery : decode bytes = .ok query) :
    (∃ octets, (answer.answering query).encode = .ok octets) ∨
      252 < query.questions.length ∧ ∃ fault, query.servFailFor.encode = .error fault := by
  cases hrefusal : query.servFailFor.encode with
  | ok octets =>
    obtain ⟨out, hquestions⟩ := exists_writeQuestions_of_encode hrefusal
    have hanswering : (answer.answering query).Writable := h
    exact .inl (hanswering.exists_encode_of_questions hquestions)
  | error fault =>
    refine .inr ⟨?_, fault, rfl⟩
    by_contra hfew
    obtain ⟨octets, hoctets⟩ := (isBare_replyTo query .servFail).exists_encode
      (legible_of_decode hquery).questions (Nat.le_of_not_lt hfew)
    exact absurd (hrefusal.symm.trans hoctets) nofun

end Dns

/-! ### Records that are read from documents -/

namespace Resolve

/-- The parts of the text of some data that are names. -/
def nameFields (type : Dns.RecordType) (text : List Char) : List (List Char) :=
  if type = .cname ∨ type = .ns ∨ type = .ptr then [Text.trim text]
  else if type = .mx then (Text.fields text).drop 1
  else if type = .srv then (Text.fields text).drop 3
  else if type = .soa then (Text.fields text).take 2
  else []

/-- The texts that a record of a document has. -/
def Record.strings (r : Record) : List (List Char) :=
  if (⟨r.type⟩ : Dns.RecordType) = .txt then textStrings r.data else []

/-- The names in a record of a document fit, and its texts are short. -/
structure Record.Deliverable (r : Record) : Prop where
  /-- No name is too long. -/
  names : ∀ s ∈ r.name :: nameFields ⟨r.type⟩ r.data, ∀ n, readName s = .ok n → n.Fits
  /-- Neither is a text. -/
  texts : ∀ s ∈ r.strings, (Text.utf8 s).length ≤ 255

/-- A record is deliverable if its names have 253 characters at most, and its texts 255 octets. -/
theorem Record.deliverable_of_length {r : Record}
    (hnames : ∀ s ∈ r.name :: nameFields ⟨r.type⟩ r.data, s.length ≤ 253)
    (htexts : ∀ s ∈ r.strings, (Text.utf8 s).length ≤ 255) : r.Deliverable := by
  refine ⟨fun s hs n hn => ?_, htexts⟩
  unfold readName at hn
  split at hn
  case h_1 hread =>
    cases hn
    exact Dns.Name.fits_of_ofText hread (hnames s hs)
  case h_2 => cases hn

/-- All records of a document. -/
def Answer.all (document : Answer) : List Record :=
  document.answers ++ document.authority ++ document.additional

/-- Each name in some data is one that the text says. -/
theorem Says.names {text : List Char} {type : Dns.RecordType} {d : Dns.RecordData}
    (h : Says text type d) {n : Dns.Name} (hn : n ∈ d.names) :
    ∃ s ∈ nameFields type text, readName s = .ok n := by
  cases h with
  | host htype hname =>
    cases List.mem_singleton.mp hn
    rw [nameFields, if_pos htype]
    exact ⟨_, List.mem_cons_self, hname⟩
  | @mx _ name _ _ hfields hname =>
    cases List.mem_singleton.mp hn
    have hnames : nameFields .mx text = [name] := congrArg (List.drop 1) hfields
    exact ⟨name, hnames ▸ List.mem_cons_self, hname⟩
  | @srv _ _ _ name _ _ _ _ hfields hname =>
    cases List.mem_singleton.mp hn
    have hnames : nameFields .srv text = [name] := congrArg (List.drop 3) hfields
    exact ⟨name, hnames ▸ List.mem_cons_self, hname⟩
  | @soa first second _ _ _ _ _ _ _ _ hfields hprimary hmailbox =>
    have hnames : nameFields .soa text = [first, second] := congrArg (List.take 2) hfields
    rw [hnames]
    rcases List.mem_pair.mp hn with rfl | rfl
    · exact ⟨first, List.mem_cons_self, hprimary⟩
    · exact ⟨second, List.mem_cons_of_mem _ List.mem_cons_self, hmailbox⟩
  | a | aaaa | txt => cases hn

/-- The texts in some data are those that the text says, if there are to be any. -/
theorem Says.texts {text : List Char} {type : Dns.RecordType} {d : Dns.RecordData}
    (h : Says text type d) :
    d.texts = if type = .txt then (textStrings text).map Text.utf8 else [] := by
  cases h with
  | host htype => rcases htype with rfl | rfl | rfl <;> rfl
  | _ => rfl

variable {r : Record} {record : Dns.Record}

/-- A record that is understood is made of its own name and data. -/
theorem readRecord_eq_ok (h : readRecord r = .ok (some record)) :
    ∃ owner d, readName r.name = .ok owner ∧ Says r.data ⟨r.type⟩ d ∧ record.owner = owner ∧
      record.data = some d := by
  obtain ⟨owner, d, howner, hdenotes, rfl⟩ := readRecord_eq_some_iff.mp h
  exact ⟨owner, d, readName_eq_ok_iff.mpr howner, hdenotes.says, rfl, rfl⟩

/-- A record that is understood has the texts that the document says. -/
theorem texts_of_readRecord (h : readRecord r = .ok (some record)) :
    record.texts = r.strings.map Text.utf8 := by
  obtain ⟨owner, d, -, hsays, -, hd⟩ := readRecord_eq_ok h
  rw [Dns.Record.texts, hd, Record.strings, apply_ite (List.map Text.utf8)]
  exact hsays.texts

/-- **A deliverable record is understood as one that can be written.** -/
theorem Record.Deliverable.writable (hr : r.Deliverable) (h : readRecord r = .ok (some record)) :
    record.Writable := by
  obtain ⟨hname, hfields⟩ := List.forall_mem_cons.mp hr.names
  refine ⟨fun n hn => ?_, fun t ht => ?_⟩
  · obtain ⟨owner, d, howner, hsays, rfl, hd⟩ := readRecord_eq_ok h
    rw [Dns.Record.names, hd] at hn
    rcases List.mem_cons.mp hn with rfl | hn
    · exact hname _ howner
    · obtain ⟨s, hs, hread⟩ := hsays.names hn
      exact hfields s hs n hread
  · rw [texts_of_readRecord h] at ht
    obtain ⟨s, hs, rfl⟩ := List.mem_map.mp ht
    exact hr.texts s hs

/-- A record with texts is understood. -/
theorem exists_of_readRecords {rs : List Record} {records : List Dns.Record}
    (h : readRecords rs = .ok records) (hr : r ∈ rs) {s : List Char} (hs : s ∈ r.strings) :
    ∃ record ∈ records, readRecord r = .ok (some record) := by
  obtain ⟨outcomes, houtcomes, h⟩ := exists_of_bind_eq_ok h
  cases h
  obtain ⟨outcome, hmem, houtcome⟩ := exists_of_mapM houtcomes hr
  cases outcome with
  | some record => exact ⟨record, List.mem_filterMap.mpr ⟨_, hmem, rfl⟩, houtcome⟩
  | none =>
    -- data of this type is never skipped
    have htype : (⟨r.type⟩ : Dns.RecordType) = .txt := by
      by_contra hne
      rw [Record.strings, if_neg hne] at hs
      cases hs
    refine absurd ?_ (readRecord_eq_none_iff.mp houtcome)
    rw [htype]
    decide

/-- Records are understood one after the other. -/
theorem readRecords_append {rs rs' : List Record} {records records' : List Dns.Record}
    (h : readRecords rs = .ok records) (h' : readRecords rs' = .ok records') :
    readRecords (rs ++ rs') = .ok (records ++ records') := by
  obtain ⟨outcomes, houtcomes, h⟩ := exists_of_bind_eq_ok h
  obtain ⟨outcomes', houtcomes', h'⟩ := exists_of_bind_eq_ok h'
  cases h
  cases h'
  rw [readRecords, List.mapM_append, houtcomes, houtcomes', ← List.filterMap_append]
  rfl

/-! ### Documents -/

variable {body : List UInt8} {question : Dns.Question} {message : Dns.Message}
  {document : Answer}

/-- The records of a message that is made of a document are those of the document that are
understood. -/
theorem readRecords_all (h : answer body question = .ok message)
    (hparse : Answer.parse body = .ok document) :
    readRecords document.all =
      .ok (message.answers ++ message.authority ++ message.additional) := by
  obtain ⟨document', hparse', -, hanswers, hauthority, hadditional, -⟩ := answer_eq_ok h
  cases hparse.symm.trans hparse'
  exact readRecords_append (readRecords_append hanswers hauthority) hadditional

/-- **A document whose records are deliverable is a message that can be written.** -/
theorem writable_of_deliverable (h : answer body question = .ok message)
    (hparse : Answer.parse body = .ok document) (hall : ∀ r ∈ document.all, r.Deliverable) :
    message.Writable := by
  intro record hrecord
  obtain ⟨r, hr, hread⟩ := mem_readRecords (readRecords_all h hparse) hrecord
  exact (hall r hr).writable hread

/-- The texts of a document are texts of its message. -/
theorem exists_text_of_strings (h : answer body question = .ok message)
    (hparse : Answer.parse body = .ok document) (hr : r ∈ document.all) {s : List Char}
    (hs : s ∈ r.strings) :
    ∃ record ∈ message.answers ++ message.authority ++ message.additional,
      Text.utf8 s ∈ record.texts := by
  obtain ⟨record, hrecord, hread⟩ := exists_of_readRecords (readRecords_all h hparse) hr hs
  refine ⟨record, hrecord, ?_⟩
  rw [texts_of_readRecord hread]
  exact List.mem_map_of_mem hs

/-- **A message that is made of a document can be written if the names in the document fit and its
texts are short.**  It can be fitted to any query that was read as well, unless the query has so
many questions that there is no reply to it at all.  If some text is too long, then the message is
not written, or only the part of it that finds room. -/
theorem documents_are_written (h : answer body question = .ok message) :
    ∃ document, Answer.parse body = .ok document ∧
      ((∀ r ∈ document.all, r.Deliverable) →
        (question.name.Fits → ∃ octets, message.encode = .ok octets) ∧
        ∀ bytes query, Dns.Message.decode bytes = .ok query →
          (∃ octets, (message.answering query).encode = .ok octets) ∨
            252 < query.questions.length ∧ ∃ fault, query.servFailFor.encode = .error fault) ∧
      ∀ query octets, message.encode = .ok octets ∨ (message.answering query).encode = .ok octets →
        Dns.saysTruncated octets = false →
          ∀ r ∈ document.all, ∀ s ∈ r.strings, (Text.utf8 s).length ≤ 255 := by
  obtain ⟨document, hparse, hquestions, -⟩ := answer_eq_ok h
  refine ⟨document, hparse, fun hall => ?_, fun query octets hwritten hsaid r hr s hs => ?_⟩
  · have hwritable := writable_of_deliverable h hparse hall
    refine ⟨fun hfits => hwritable.exists_encode ?_ ?_, fun bytes query hquery =>
      hwritable.encode_answering hquery⟩
    · rw [hquestions]
      exact List.forall_mem_singleton.mpr hfits
    · rw [hquestions]
      exact (by decide : 1 ≤ 252)
  · obtain ⟨record, hrecord, ht⟩ := exists_text_of_strings h hparse hr hs
    -- fitted to a query, the message has the records that it had
    rcases hwritten with hwritten | hwritten
    · exact Dns.Message.short_of_encode hwritten hsaid record hrecord _ ht
    · exact Dns.Message.short_of_encode hwritten hsaid record hrecord _ ht

open Service (textDocument textQuestion textAnswer textQuery textAsked textSaid)

/-- A text of 255 letters is written. -/
theorem documents_are_written_text :
    answer (textDocument 255) textQuestion = .ok (textAnswer 255) ∧
      Dns.Message.decode textQuery = .ok textAsked ∧
      (∃ octets, (textAnswer 255).encode = .ok octets) ∧
      ∃ octets, ((textAnswer 255).answering textAsked).encode = .ok octets := by
  have hparse : (Answer.parse (textDocument 255)).toOption = some (textSaid 255) := by
    decide +kernel
  have hrecords : (readRecords (textSaid 255).answers).toOption =
      some (textAnswer 255).answers := by decide +kernel
  have hparse := eq_ok_of_toOption hparse
  have hanswer : answer (textDocument 255) textQuestion = .ok (textAnswer 255) :=
    Service.answer_of_textSaid hparse (eq_ok_of_toOption hrecords) textQuestion
  obtain ⟨document, hparse', hwritten, -⟩ := documents_are_written hanswer
  cases hparse.symm.trans hparse'
  have hall : ∀ r ∈ (textSaid 255).all, r.Deliverable := by
    refine List.forall_mem_singleton.mpr (Record.deliverable_of_length ?_ ?_)
    · decide +kernel
    · decide +kernel
  obtain ⟨hencode, hanswering⟩ := hwritten hall
  have hfits : textQuestion.name.Fits := (by decide : Dns.Name.length .root < Dns.Name.maxLength)
  have hone : ¬ 252 < textAsked.questions.length := by decide
  exact ⟨hanswer, Service.decode_textQuery, hencode hfits,
    (hanswering textQuery textAsked Service.decode_textQuery).resolve_right fun h => hone h.1⟩

/-- A text of 254 letters and dots that stands for a name, the labels of which take 255 octets. -/
def longName : List Char :=
  let label := List.replicate 63 'a'
  label ++ '.' :: label ++ '.' :: label ++ '.' :: List.replicate 62 'a'

/-- A document with one record, whose data is that name. -/
def nameDocument : List UInt8 :=
  Text.utf8 ("\x7b\"Status\":0,\"Answer\":[\x7b\"name\":\".\",\"type\":5,\"data\":\"".toList ++
    longName ++ "\"\x7d]\x7d".toList)

/-- **A document may be accepted whose message cannot be written**: one with a text of 256 letters,
and one with a name that is an octet too long. -/
theorem too_long_is_not_written :
    (textDocument 256).length ≤ 65535 ∧ Dns.Message.decode textQuery = .ok textAsked ∧
      answer (textDocument 256) textQuestion = .ok (textAnswer 256) ∧
      (textAnswer 256).encode = .error (.textTooLong 256) ∧
      ((textAnswer 256).answering textAsked).encode = .error (.textTooLong 256) ∧
      ∃ message, answer nameDocument textQuestion = .ok message ∧
        message.encode = .error (.nameTooLong 256) := by
  have htext : (textAnswer 256).encode = .error (.textTooLong 256) := by decide +kernel
  have hname : (answer nameDocument textQuestion).toOption.map Dns.Message.encode =
      some (.error (.nameTooLong 256)) := by decide +kernel
  obtain ⟨message, hmessage, hencode⟩ := Option.map_eq_some_iff.mp hname
  exact ⟨by decide +kernel, Service.decode_textQuery, Service.answer_textDocument textQuestion,
    htext, Service.encode_textAnswer, message, eq_ok_of_toOption hmessage, hencode⟩

end Resolve

end DohRelay
