import DohRelay.Proofs.Dns.NameReading
import DohRelay.Proofs.Resolve.Understood
import DohRelay.Proofs.Resolve.Written
import DohRelay.Proofs.Service.Belonging
import DohRelay.Proofs.Service.Parameters
import DohRelay.Proofs.Text.Decimal

/-!
# Documents that repeat what was asked

A name is put into the location of a request in its written form, which is one that stands for it.
A document may repeat just that, but the reader of names refuses a label with an octet that is not a
letter, a digit or one of four marks.  So the very question that was asked is refused in a document
unless its name is literal, although it is the question that was asked in any case.

## Main definitions

* `Question.asked` — a question as the request for it writes it.
* `Answer.Echoes` — a document repeats the question of a request.
* `Answer.writtenEcho` — such a document as octets.

## Main results

* `Answer.parse_writtenEcho` — a document that repeats a question is read as it was written.
* `echoes_understood_iff` — **the question that was asked is understood just if its name is
  literal.**
* `echo_refused` — a question that is refused.
-/

namespace DohRelay.Resolve

open Document (Number)
open Document.Reader

/-! ### What a request asks -/

/-- A question as the request for it writes it. -/
def Question.asked (q : Dns.Question) : Question :=
  ⟨q.name.text, q.type.code⟩

/-- A document repeats just the question of a request, by the name and the number of the type that
the request puts behind the pairs of the endpoint. -/
def Answer.Echoes (document : Answer) (endpoint : Url) (r : Http.Request) : Prop :=
  ∃ e others, document.questions = [e] ∧ r.url.pairs = endpoint.pairs ++
    ("name".toList, e.name) :: ("type".toList, Text.decimal e.type.toNat) :: others

/-- A document has no records. -/
structure Answer.Bare (document : Answer) : Prop where
  /-- Nothing answers the question, -/
  answers : document.answers = []
  /-- no zone is told, -/
  authority : document.authority = []
  /-- and nothing is there besides. -/
  additional : document.additional = []

section

variable {document : Answer} {endpoint : Url} {query : Dns.Message} {q : Dns.Question}
  {subnet : Option Net.Network}

/-- What the request asks can be told from its location. -/
theorem Answer.echoes_iff :
    document.Echoes endpoint (request endpoint query q subnet) ↔
      document.questions = [.asked q] := by
  have hpairs : (request endpoint query q subnet).url.pairs =
      endpoint.pairs ++ parameters query q subnet := Url.pairs_appendPairs _ _
  rw [Echoes, hpairs]
  constructor
  · rintro ⟨e, others, hquestions, hasked⟩
    obtain ⟨hname, htype⟩ : q.name.text = e.name ∧
        Text.decimal q.type.code.toNat = Text.decimal e.type.toNat := by
      have hparameters := List.append_cancel_left hasked
      simp only [parameters, List.cons_append, List.nil_append, List.cons.injEq,
        Prod.mk.injEq, true_and] at hparameters
      exact ⟨hparameters.1, hparameters.2.1⟩
    have hcode := UInt16.toNat_inj.mp (Text.decimal_injective htype)
    rw [hquestions, Question.asked, hname, hcode]
  · intro hquestions
    exact ⟨.asked q, _, hquestions, rfl⟩

/-! ### What is understood -/

/-- The question that was asked can be read from its written form just if its name is literal. -/
theorem Question.names_asked_iff (hfits : q.name.Fits) :
    (Question.asked q).Names q ↔ q.name.Literal := by
  have hspells : Dns.Name.Spells q.name.text q.name :=
    Dns.Name.spells_text (Nat.le_of_lt hfits.sizeOfLabels_lt) (.inl rfl)
  constructor
  · rintro ⟨⟨n, hn, -⟩, -⟩
    obtain ⟨hn, hliteral⟩ := Dns.Name.ofText_eq_ok_iff.mp (readName_eq_ok_iff.mp hn)
    cases Except.ok.inj (hspells.symm.trans hn)
    exact hliteral
  · intro hliteral
    refine ⟨⟨q.name, ?_, q.name.sameAs_self⟩, rfl⟩
    exact readName_eq_ok_iff.mpr (Dns.Name.ofText_eq_ok_iff.mpr ⟨hspells, hliteral⟩)

/-- A document without records is understood if it repeats the right question. -/
theorem answer_of_bare {body : List UInt8} (hbody : Answer.parse body = .ok document)
    (hbare : document.Bare) (hfor : document.IsFor q) :
    answer body q = .ok (document.message q [] [] []) :=
  answer_eq_ok_iff.mpr ⟨document, hbody, hfor, [], [], [], by rw [hbare.answers]; rfl,
    by rw [hbare.authority]; rfl, by rw [hbare.additional]; rfl, rfl⟩

/-- A document that repeats another question makes no sense. -/
theorem answer_of_not_isFor {body : List UInt8} (hbody : Answer.parse body = .ok document)
    (hfor : ¬ document.IsFor q) : ∃ reason, answer body q = .error (.undecodable reason) :=
  (onlyUndecodable_answer body q).exists_error fun _ h => hfor (isFor_of_answer hbody h)

end

/-! ### Documents as octets -/

/-- The written form of a document that says how the query went and repeats a question. -/
def Answer.writtenEcho (status : UInt16) (e : Question) : List UInt8 :=
  writtenRecord [writtenPair "Status" (Number.written status.toNat),
    writtenPair "Question" (writtenList [e.written])]

/-- What such a document says. -/
def Answer.echo (status : UInt16) (e : Question) : Answer :=
  { layout.blank with status, questions := [e] }

/-- **A document that repeats a question is read as it was written.** -/
theorem Answer.parse_writtenEcho (status : UInt16) (e : Question) :
    Answer.parse (writtenEcho status e) = .ok (echo status e) := by
  have hstatus : Makes (do return { layout.blank with status := ← word16 })
      (Number.written status.toNat) { layout.blank with status } delimited :=
    (makes_word16 status).map.mono fun _ => ends_of_delimited
  have hquestions : Makes (do return { layout.blank with
        status, questions := ← list (Document.Reader.record Question.layout) })
      (writtenList [e.written]) (echo status e) delimited :=
    (makes_questions [e]).map.mono fun _ _ => trivial
  have hfills : Fills layout layout.blank []
      [writtenPair "Status" (Number.written status.toNat),
        writtenPair "Question" (writtenList [e.written])] (echo status e) ["Question", "Status"] :=
    .cons rfl rfl hstatus (.cons rfl rfl hquestions (.nil _ _))
  exact Document.read_of_makes (makes_record hfills (by decide))

/-! ### The question that was asked -/

/-- **The question that was asked is understood just if its name is literal.**  Whatever else a
document says that repeats it and has no records, it is an answer to that question if no label of
the name has any octet but letters, digits and a few marks, and otherwise makes no sense.  There is
such a document for every query that was read and for every code. -/
theorem echoes_understood_iff {octets : List UInt8} {query : Dns.Message} {q : Dns.Question}
    (hquery : Dns.Message.decode octets = .ok query) (hq : query.question = .ok q) (endpoint : Url)
    (subnet : Option Net.Network) :
    (∀ body document, Answer.parse body = .ok document →
      document.Echoes endpoint (request endpoint query q subnet) → document.Bare →
      (answer body q = .ok (document.message q [] [] []) ↔ q.name.Literal) ∧
        (¬ q.name.Literal → ∃ reason, answer body q = .error (.undecodable reason))) ∧
    ∀ status, ∃ body document, Answer.parse body = .ok document ∧ document.status = status ∧
      document.Echoes endpoint (request endpoint query q subnet) ∧ document.Bare := by
  have hfits : q.name.Fits := by
    refine (Dns.Message.legible_of_decode hquery).questions q ?_
    rw [Dns.Message.questions_of_question hq]
    exact List.mem_cons_self
  constructor
  · intro body document hbody hechoes hbare
    have hquestions := Answer.echoes_iff.mp hechoes
    have hfor : document.IsFor q ↔ q.name.Literal := by
      rw [← Question.names_asked_iff hfits, Answer.IsFor, hquestions]
      simp
    exact ⟨⟨fun hanswer => hfor.mp (isFor_of_answer hbody hanswer),
        fun hliteral => answer_of_bare hbody hbare (hfor.mpr hliteral)⟩,
      fun hliteral => answer_of_not_isFor hbody (mt hfor.mp hliteral)⟩
  · intro status
    exact ⟨_, _, Answer.parse_writtenEcho status (.asked q), rfl, Answer.echoes_iff.mpr rfl, rfl,
      rfl, rfl⟩

/-- A question for the addresses of a name of one label. -/
def labelQuestion (l : Dns.Label) : Dns.Question :=
  ⟨⟨[l]⟩, .a, Dns.classIn⟩

/-- A query with that question. -/
def labelQuery (l : Dns.Label) : Dns.Message :=
  { Dns.Message.empty with id := 1, recursionDesired := true, questions := [labelQuestion l] }

/-- Its octets. -/
def labelOctets (l : Dns.Label) : List UInt8 :=
  [0, 1, 1, 0, 0, 1, 0, 0, 0, 0, 0, 0] ++ .ofNat l.length :: l.bytes ++ [0, 0, 1, 0, 1]

theorem fits_labelQuestion (l : Dns.Label) : (labelQuestion l).name.Fits := by
  change l.length + 1 + 0 < 255
  have hshort : l.length ≤ 63 := l.short
  omega

theorem fits_of_mem_labelQuestion (l : Dns.Label) : ∀ q ∈ [labelQuestion l], q.name.Fits :=
  (List.forall_mem_singleton (p := fun q : Dns.Question => q.name.Fits)).mpr (fits_labelQuestion l)

/-- A message with questions and no error is read as it was written. -/
theorem decode_of_noError {m : Dns.Message} (hm : m.IsBare) (hcode : m.rcode = .noError)
    (hfits : ∀ q ∈ m.questions, q.name.Fits) {octets : List UInt8} (h : m.encode = .ok octets) :
    Dns.Message.decode octets = .ok m := by
  have hlow : Dns.ResponseCode.join 0 m.rcode.low = m.rcode := by
    rw [hcode]
    decide
  have hdecode := hm.decode_encode hfits h
  rwa [hlow] at hdecode

theorem decode_labelOctets {l : Dns.Label} (h : (labelQuery l).encode = .ok (labelOctets l)) :
    Dns.Message.decode (labelOctets l) = .ok (labelQuery l) :=
  decode_of_noError ⟨rfl, rfl, rfl, rfl⟩ rfl (fits_of_mem_labelQuestion l) h

/-- The label with a dot between two letters. -/
def dotted : Dns.Label :=
  ⟨[0x61, 0x2e, 0x62], by decide, by decide⟩

/-- A label may have a dot within. -/
theorem echoes_understood_iff_dotted :
    Dns.Message.decode (labelOctets dotted) = .ok (labelQuery dotted) ∧
      (labelQuery dotted).question = .ok (labelQuestion dotted) ∧
      ∃ body document, Answer.parse body = .ok document ∧
        document.Echoes Config.default.endpoint
          (request Config.default.endpoint (labelQuery dotted) (labelQuestion dotted) none) ∧
        document.Bare ∧
        answer body (labelQuestion dotted) =
          .ok (document.message (labelQuestion dotted) [] [] []) := by
  have hdecode := decode_labelOctets (l := dotted) rfl
  obtain ⟨hall, hsome⟩ := echoes_understood_iff hdecode rfl Config.default.endpoint none
  obtain ⟨body, document, hbody, -, hechoes, hbare⟩ := hsome 0
  exact ⟨hdecode, rfl, body, document, hbody, hechoes, hbare,
    (hall body document hbody hechoes hbare).1.mpr (by decide)⟩

/-- The label that is a slash. -/
def slash : Dns.Label :=
  Service.letter 0x2f

/-- A document that repeats the question for it: the backslash of the written name is escaped. -/
def slashDocument : List UInt8 :=
  Text.utf8 ("\x7b\"Status\":0,\"Question\":[\x7b\"name\":\"\\\\/.\",\"type\":1\x7d]\x7d".toList)

/-- **The question that was asked may be refused**: a query asks for the name that is a slash, and
the document repeats just that, as the request writes it. -/
theorem echo_refused :
    Dns.Message.decode (labelOctets slash) = .ok (labelQuery slash) ∧
      (labelQuery slash).question = .ok (labelQuestion slash) ∧
      ∃ document, Answer.parse slashDocument = .ok document ∧
        document.Echoes Config.default.endpoint
          (request Config.default.endpoint (labelQuery slash) (labelQuestion slash) none) ∧
        document.Bare ∧
        ∃ reason, answer slashDocument (labelQuestion slash) = .error (.undecodable reason) := by
  have hwritten : slashDocument = Answer.writtenEcho 0 (.asked (labelQuestion slash)) := by
    decide +kernel
  have hparse : Answer.parse slashDocument = .ok (.echo 0 (.asked (labelQuestion slash))) := by
    rw [hwritten]
    exact Answer.parse_writtenEcho 0 _
  have hnames : ¬ (Question.asked (labelQuestion slash)).Names (labelQuestion slash) :=
    mt (Question.names_asked_iff (fits_labelQuestion slash)).mp (by decide)
  refine ⟨decode_labelOctets rfl, rfl, _, hparse, Answer.echoes_iff.mpr rfl, ⟨rfl, rfl, rfl⟩,
    answer_of_not_isFor hparse ?_⟩
  rintro (h | ⟨e, others, h, hnames'⟩)
  · cases h
  · cases h
    exact hnames hnames'

end DohRelay.Resolve
