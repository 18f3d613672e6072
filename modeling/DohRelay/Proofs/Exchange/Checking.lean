import DohRelay.Exchange.Inquiry
import DohRelay.Proofs.Resolve.Echo

/-!
# Questions that are checked

What the endpoint sends is accepted if it can be read and is for the question that was asked.  The
messages of both conventions are checked, but not for the same: octets may repeat one question, and
that has to be the one that was asked, in any letter case.  Of the questions that a document repeats
only the first is looked at, and its name has to be literal.

## Main definitions

* `Inquiry.checked` — the message that a body is, if it is for the question that was asked.
* `Inquiry.Accepted` — when a body is accepted.
* `Inquiry.Alone`, `Inquiry.First` — a question is the only one of some, or the first and literal.
* `Resolve.Question.Says` — a question of a document stands for one of a message.

## Main results

* `Inquiry.conclude_eq` — an answer is made of a body that is checked.
* `Inquiry.checked_eq_ok_iff`, `Inquiry.onlyUndecodable_checked` — **a body is accepted, or makes no
  sense.**
* `Inquiry.repeated_accepted_iff` — **which questions may be repeated in each convention.**
* `Inquiry.second_accepted` — a second question is accepted in a document only.
-/

namespace DohRelay

/-- Octets that are no message make no sense. -/
theorem Wire.onlyUndecodable_answer (body : List UInt8) : OnlyUndecodable (answer body) := by
  unfold answer
  split
  · exact .ok _
  · exact .error _

theorem Wire.answer_eq_ok_iff {body : List UInt8} {m : Dns.Message} :
    answer body = .ok m ↔ Dns.Message.decode body = .ok m := by
  unfold answer
  cases Dns.Message.decode body with
  | error fault => exact ⟨nofun, nofun⟩
  | ok m' => exact ⟨fun h => congrArg _ (Except.ok.inj h), fun h => congrArg _ (Except.ok.inj h)⟩

namespace Inquiry

variable {config : Config} {q : Dns.Question} {body : List UInt8} {m : Dns.Message}

theorem isSameQuestion_iff {q r : Dns.Question} : isSameQuestion q r = true ↔
    q.name.sameAs r.name = true ∧ q.type = r.type ∧ q.qclass = r.qclass := by
  simp only [isSameQuestion, Bool.and_eq_true, beq_iff_eq, and_assoc]

/-! ### The only question -/

/-- A question is repeated alone, or none is. -/
def Alone (repeated : List Dns.Question) (q : Dns.Question) : Prop :=
  repeated = [] ∨ ∃ r, repeated = [r] ∧ isSameQuestion r q = true

theorem checkQuestion_eq_ok_iff : checkQuestion m q = .ok () ↔ Alone m.questions q := by
  unfold checkQuestion Alone
  cases m.questions with
  | nil => exact ⟨fun _ => .inl rfl, fun _ => rfl⟩
  | cons r others =>
    dsimp only
    cases others with
    | nil => simp
    | cons => simp

theorem onlyUndecodable_checkQuestion (m : Dns.Message) (q : Dns.Question) :
    OnlyUndecodable (checkQuestion m q) := by
  unfold checkQuestion
  split
  · exact .ok _
  · exact .ite (.ok _) (.error _)

/-! ### Bodies -/

/-- The message that a body is, if it is for the question that was asked. -/
def checked (config : Config) (q : Dns.Question) (body : List UInt8) :
    Except Error Dns.Message := do
  let message ← readAnswer config q body
  checkQuestion message q
  return message

/-- An answer is made of a body that is checked. -/
theorem conclude_eq {query : Dns.Message} {response : Http.Response} :
    conclude config query q response =
      if response.isSuccess then (checked config q response.body).map (·.answering query)
      else .error (.httpStatus response.status) := by
  unfold conclude checked
  cases response.isSuccess with
  | false => rfl
  | true =>
    cases readAnswer config q response.body with
    | error e => rfl
    | ok message =>
      change (checkQuestion message q >>= fun _ => _) = Except.map _ (checkQuestion message q >>= _)
      cases checkQuestion message q <;> rfl

/-- A body is accepted as a message. -/
inductive Accepted (config : Config) (q : Dns.Question) (body : List UInt8) : Dns.Message → Prop
  /-- Octets that repeat the question alone, or none. -/
  | octets {m : Dns.Message} (hwire : config.convention = .wire)
      (hread : Dns.Message.decode body = .ok m) (halone : Alone m.questions q) :
      Accepted config q body m
  /-- A document that repeats the question first of all, or none, and whose records are understood.
  -/
  | document {document : Resolve.Answer} {answers authority additional : List Dns.Record}
      (hjson : config.convention = .json) (hread : Resolve.Answer.parse body = .ok document)
      (hfor : document.IsFor q) (hanswers : Resolve.readRecords document.answers = .ok answers)
      (hauthority : Resolve.readRecords document.authority = .ok authority)
      (hadditional : Resolve.readRecords document.additional = .ok additional) :
      Accepted config q body (document.message q answers authority additional)

/-- **A body is checked to be accepted**: what was made of a document passes any further check. -/
theorem checked_eq_ok_iff : checked config q body = .ok m ↔ Accepted config q body m := by
  have hbind {outcome : Except Error Dns.Message} (hread : outcome = .ok m)
      (halone : Alone m.questions q) :
      (do let message ← outcome; checkQuestion message q; return message) = .ok m := by
    rw [hread]
    exact (congrArg (· >>= fun _ => .ok m) (checkQuestion_eq_ok_iff.mpr halone)).trans rfl
  unfold checked readAnswer
  constructor
  · intro h
    obtain ⟨message, hread, h⟩ := exists_of_bind_eq_ok h
    obtain ⟨_, hcheck, h⟩ := exists_of_bind_eq_ok h
    cases h
    split at hread
    case h_1 hwire =>
      exact .octets hwire (Wire.answer_eq_ok_iff.mp hread) (checkQuestion_eq_ok_iff.mp hcheck)
    case h_2 hjson =>
      obtain ⟨document, hbody, hfor, answers, authority, additional, hanswers, hauthority,
        hadditional, rfl⟩ := Resolve.answer_eq_ok_iff.mp hread
      exact .document hjson hbody hfor hanswers hauthority hadditional
  · rintro (⟨hwire, hread, halone⟩ | ⟨hjson, hbody, hfor, hanswers, hauthority, hadditional⟩)
    · rw [hwire]
      exact hbind (Wire.answer_eq_ok_iff.mpr hread) halone
    · rw [hjson]
      have hself : isSameQuestion q q = true :=
        isSameQuestion_iff.mpr ⟨q.name.sameAs_self, rfl, rfl⟩
      exact hbind (Resolve.answer_eq_ok_iff.mpr ⟨_, hbody, hfor, _, _, _, hanswers, hauthority,
        hadditional, rfl⟩) (.inr ⟨q, rfl, hself⟩)

/-- **A body that is not accepted makes no sense.** -/
theorem onlyUndecodable_checked (config : Config) (q : Dns.Question) (body : List UInt8) :
    OnlyUndecodable (checked config q body) := by
  have hread : OnlyUndecodable (readAnswer config q body) := by
    unfold readAnswer
    split
    · exact Wire.onlyUndecodable_answer body
    · exact Resolve.onlyUndecodable_answer body q
  exact hread.bind fun m => (onlyUndecodable_checkQuestion m q).bind fun _ => .ok _

theorem checked_of_not_accepted (h : ∀ m, ¬ Accepted config q body m) :
    ∃ reason, checked config q body = .error (.undecodable reason) :=
  (onlyUndecodable_checked config q body).exists_error fun m hm => h m (checked_eq_ok_iff.mp hm)

/-- Octets are accepted as the message that they are. -/
theorem accepted_octets_iff (hwire : config.convention = .wire)
    (hread : Dns.Message.decode body = .ok m) {m' : Dns.Message} :
    Accepted config q body m' ↔ Alone m.questions q ∧ m' = m := by
  constructor
  · rintro (⟨-, hread', halone⟩ | ⟨hjson, -, -, -, -, -⟩)
    · cases hread.symm.trans hread'
      exact ⟨halone, rfl⟩
    · cases hwire.symm.trans hjson
  · rintro ⟨halone, rfl⟩
    exact .octets hwire hread halone

/-- A document whose records are understood is accepted as the message that is made of it. -/
theorem accepted_document_iff (hjson : config.convention = .json) {document : Resolve.Answer}
    (hbody : Resolve.Answer.parse body = .ok document)
    {answers authority additional : List Dns.Record}
    (hanswers : Resolve.readRecords document.answers = .ok answers)
    (hauthority : Resolve.readRecords document.authority = .ok authority)
    (hadditional : Resolve.readRecords document.additional = .ok additional) {m' : Dns.Message} :
    Accepted config q body m' ↔
      document.IsFor q ∧ m' = document.message q answers authority additional := by
  constructor
  · rintro (⟨hwire, -, -⟩ | ⟨-, hbody', hfor, hanswers', hauthority', hadditional'⟩)
    · cases hjson.symm.trans hwire
    · cases hbody.symm.trans hbody'
      cases hanswers.symm.trans hanswers'
      cases hauthority.symm.trans hauthority'
      cases hadditional.symm.trans hadditional'
      exact ⟨hfor, rfl⟩
  · rintro ⟨hfor, rfl⟩
    exact .document hjson hbody hfor hanswers hauthority hadditional

end Inquiry

/-! ### Questions that are repeated -/

/-- A question of a document stands for one of a message: its name does, and it is of that type. -/
structure Resolve.Question.Says (e : Question) (r : Dns.Question) : Prop where
  /-- The name stands for the other, in whatever spelling. -/
  name : Dns.Name.Spells e.name r.name
  /-- The type is the same. -/
  type : e.type = r.type.code

/-- The question that a question of a document stands for is found to be another if its name is not
literal. -/
theorem Resolve.Question.Says.names_iff {e : Question} {q r : Dns.Question} (h : e.Says r)
    (hclass : r.qclass = q.qclass) :
    e.Names q ↔ Inquiry.isSameQuestion r q = true ∧ r.name.Literal := by
  have htype : e.type = q.type.code ↔ r.type = q.type := by
    rw [h.type]
    exact ⟨congrArg Dns.RecordType.mk, congrArg Dns.RecordType.code⟩
  rw [Names, Inquiry.isSameQuestion_iff, htype]
  constructor
  · rintro ⟨⟨n, hn, hsame⟩, htype⟩
    obtain ⟨hspells, hliteral⟩ := Dns.Name.ofText_eq_ok_iff.mp (readName_eq_ok_iff.mp hn)
    cases Except.ok.inj (hspells.symm.trans h.name)
    exact ⟨⟨hsame, htype, hclass⟩, hliteral⟩
  · rintro ⟨⟨hsame, htype, -⟩, hliteral⟩
    exact ⟨⟨r.name, readName_eq_ok_iff.mpr (Dns.Name.ofText_eq_ok_iff.mpr ⟨h.name, hliteral⟩),
      hsame⟩, htype⟩

namespace Inquiry

/-- A question is repeated first of all, by a literal name, or none is. -/
def First (repeated : List Dns.Question) (q : Dns.Question) : Prop :=
  repeated = [] ∨ ∃ r others, repeated = r :: others ∧ isSameQuestion r q = true ∧ r.name.Literal

section

variable {r : Dns.Question} {others repeated : List Dns.Question} {q : Dns.Question}

theorem alone_cons : Alone (r :: others) q ↔ others = [] ∧ isSameQuestion r q = true := by
  simp [Alone]

theorem first_cons : First (r :: others) q ↔ isSameQuestion r q = true ∧ r.name.Literal := by
  simp [First]

/-- Both are the same unless the first question is the one that was asked. -/
theorem alone_iff_first_iff : (Alone repeated q ↔ First repeated q) ↔ ∀ r others,
    repeated = r :: others → isSameQuestion r q = true → (others = [] ↔ r.name.Literal) := by
  cases repeated with
  | nil => simp [Alone, First]
  | cons r others =>
    rw [alone_cons, first_cons]
    constructor
    · rintro h _ _ ⟨⟩ hsame
      simpa [hsame] using h
    · intro h
      cases hsame : isSameQuestion r q with
      | false => simp
      | true => simpa using h r others rfl hsame

/-- A document is for a question if what it repeats stands for that first of all. -/
theorem isFor_iff_first {document : Resolve.Answer}
    (h : List.Forall₂ Resolve.Question.Says document.questions repeated)
    (hclass : ∀ r ∈ repeated, r.qclass = q.qclass) : document.IsFor q ↔ First repeated q := by
  unfold Resolve.Answer.IsFor
  generalize document.questions = es at h ⊢
  cases h with
  | nil => exact ⟨fun _ => .inl rfl, fun _ => .inl rfl⟩
  | @cons e r es others hsays hothers =>
    rw [first_cons, ← hsays.names_iff (hclass r List.mem_cons_self)]
    simp

end

/-- **Which questions may be repeated in each convention.**  Octets are accepted if they repeat the
question alone, in any letter case, or none; a document is accepted if it repeats the question first
of all, by a literal name, or none.  Anything else makes no sense in either.  So the conventions
agree on some questions unless the first of them is the one that was asked: then they do if it is
alone and its name is literal, or neither. -/
theorem repeated_accepted_iff {wire json : Config} (hwire : wire.convention = .wire)
    (hjson : json.convention = .json) {q : Dns.Question} {repeated : List Dns.Question}
    (hclass : ∀ r ∈ q :: repeated, r.qclass = Dns.classIn) {octets : List UInt8} {m : Dns.Message}
    (hoctets : Dns.Message.decode octets = .ok m) (hm : m.questions = repeated)
    {body : List UInt8} {document : Resolve.Answer}
    (hbody : Resolve.Answer.parse body = .ok document)
    (hdocument : List.Forall₂ Resolve.Question.Says document.questions repeated)
    {answers authority additional : List Dns.Record}
    (hanswers : Resolve.readRecords document.answers = .ok answers)
    (hauthority : Resolve.readRecords document.authority = .ok authority)
    (hadditional : Resolve.readRecords document.additional = .ok additional) :
    ((checked wire q octets = .ok m ↔ Alone repeated q) ∧
      (¬ Alone repeated q → ∃ reason, checked wire q octets = .error (.undecodable reason))) ∧
    ((checked json q body = .ok (document.message q answers authority additional) ↔
        First repeated q) ∧
      (¬ First repeated q → ∃ reason, checked json q body = .error (.undecodable reason))) ∧
    ((Alone repeated q ↔ First repeated q) ↔ ∀ r others, repeated = r :: others →
      isSameQuestion r q = true → (others = [] ↔ r.name.Literal)) := by
  obtain ⟨hq, hclass⟩ := List.forall_mem_cons.mp hclass
  have hoctets_iff {m' : Dns.Message} : Accepted wire q octets m' ↔ Alone repeated q ∧ m' = m :=
    hm ▸ accepted_octets_iff hwire hoctets
  have hdocument_iff {m' : Dns.Message} : Accepted json q body m' ↔
      First repeated q ∧ m' = document.message q answers authority additional := by
    rw [accepted_document_iff hjson hbody hanswers hauthority hadditional,
      isFor_iff_first hdocument fun r hr => (hclass r hr).trans hq.symm]
  refine ⟨⟨?_, fun h => ?_⟩, ⟨?_, fun h => ?_⟩, alone_iff_first_iff⟩
  · rw [checked_eq_ok_iff, hoctets_iff, and_iff_left rfl]
  · exact checked_of_not_accepted fun m' hm' => h (hoctets_iff.mp hm').1
  · rw [checked_eq_ok_iff, hdocument_iff, and_iff_left rfl]
  · exact checked_of_not_accepted fun m' hm' => h (hdocument_iff.mp hm').1

open Resolve (labelQuestion fits_labelQuestion fits_of_mem_labelQuestion decode_of_noError)

/-- The question about the name that is a letter. -/
def smallQuestion : Dns.Question :=
  labelQuestion (Service.letter 0x61)

/-- The same with a capital. -/
def capitalQuestion : Dns.Question :=
  labelQuestion (Service.letter 0x41)

/-- A response without records, with some questions. -/
def repeating (questions : List Dns.Question) : Dns.Message :=
  { Dns.Message.empty with response := true, questions }

/-- The question is repeated alone, with a capital. -/
theorem repeated_accepted_iff_capital :
    ∃ octets body document,
      Dns.Message.decode octets = .ok (repeating [capitalQuestion]) ∧
      Resolve.Answer.parse body = .ok document ∧
      List.Forall₂ Resolve.Question.Says document.questions [capitalQuestion] ∧
      checked Service.posting smallQuestion octets =
        .ok (repeating [capitalQuestion]) ∧
      checked Service.resolving smallQuestion body =
        .ok (document.message smallQuestion [] [] []) := by
  have hdecode : Dns.Message.decode
      [0, 0, 0x80, 0, 0, 1, 0, 0, 0, 0, 0, 0, 1, 0x41, 0, 0, 1, 0, 1] =
        .ok (repeating [capitalQuestion]) :=
    decode_of_noError ⟨rfl, rfl, rfl, rfl⟩ rfl (fits_of_mem_labelQuestion _) rfl
  have hparse := Resolve.Answer.parse_writtenEcho 0 (.asked capitalQuestion)
  have hsays : List.Forall₂ Resolve.Question.Says [.asked capitalQuestion] [capitalQuestion] := by
    refine .cons ⟨Dns.Name.spells_text ?_ (.inl rfl), rfl⟩ .nil
    exact Nat.le_of_lt (fits_labelQuestion _).sizeOfLabels_lt
  obtain ⟨⟨hoctets, -⟩, ⟨hdocument, -⟩, -⟩ := repeated_accepted_iff
    (rfl : Service.posting.convention = .wire) (rfl : Service.resolving.convention = .json)
    (q := smallQuestion) (by decide) hdecode rfl hparse hsays rfl rfl rfl
  exact ⟨_, _, _, hdecode, hparse, hsays, hoctets.mpr (alone_cons.mpr ⟨rfl, by decide⟩),
    hdocument.mpr (first_cons.mpr ⟨by decide, by decide⟩)⟩

/-- The question about the root, and another. -/
def twoQuestions : List Dns.Question :=
  [Dns.rootQuestion, { Dns.rootQuestion with type := .ns }]

/-- The octets of a response that repeats both. -/
def twoOctets : List UInt8 :=
  [0, 0, 0x80, 0, 0, 2, 0, 0, 0, 0, 0, 0, 0, 0, 1, 0, 1, 0, 0, 2, 0, 1]

/-- A document that repeats both. -/
def twoDocument : List UInt8 :=
  Text.utf8 ("\x7b\"Status\":0,\"Question\":[\x7b\"name\":\".\",\"type\":1\x7d," ++
    "\x7b\"name\":\".\",\"type\":2\x7d]\x7d").toList

/-- **A second question is accepted in a document, and in octets it is not.** -/
theorem second_accepted :
    Dns.Message.decode twoOctets = .ok (repeating twoQuestions) ∧
      (∀ r ∈ twoQuestions, r.qclass = Dns.classIn) ∧
      (∃ document, Resolve.Answer.parse twoDocument = .ok document ∧
        List.Forall₂ Resolve.Question.Says document.questions twoQuestions ∧ document.Bare ∧
        checked Service.resolving Dns.rootQuestion twoDocument =
          .ok (document.message Dns.rootQuestion [] [] [])) ∧
      ∃ reason, checked Service.posting Dns.rootQuestion twoOctets =
        .error (.undecodable reason) := by
  have hfits : ∀ r ∈ twoQuestions, r.name.length < Dns.Name.maxLength := by decide
  have hdecode : Dns.Message.decode twoOctets = .ok (repeating twoQuestions) :=
    decode_of_noError ⟨rfl, rfl, rfl, rfl⟩ rfl hfits rfl
  have hparse : (Resolve.Answer.parse twoDocument).toOption = some
      { Resolve.Answer.layout.blank with questions := [⟨['.'], 1⟩, ⟨['.'], 2⟩] } := by
    decide +kernel
  have hroot : Dns.Name.Spells ['.'] .root := rfl
  have hsays : List.Forall₂ Resolve.Question.Says [⟨['.'], 1⟩, ⟨['.'], 2⟩] twoQuestions :=
    .cons ⟨hroot, rfl⟩ (.cons ⟨hroot, rfl⟩ .nil)
  have hfirst : First twoQuestions Dns.rootQuestion := first_cons.mpr ⟨by decide, by decide⟩
  have halone : ¬ Alone twoQuestions Dns.rootQuestion := fun h => by cases (alone_cons.mp h).1
  refine ⟨hdecode, by decide, ⟨_, eq_ok_of_toOption hparse, hsays, ⟨rfl, rfl, rfl⟩, ?_⟩, ?_⟩
  · refine checked_eq_ok_iff.mpr ((accepted_document_iff rfl (eq_ok_of_toOption hparse) rfl rfl
      rfl).mpr ⟨(isFor_iff_first hsays ?_).mpr hfirst, rfl⟩)
    decide
  · exact checked_of_not_accepted fun m hm =>
      halone ((accepted_octets_iff rfl hdecode).mp hm).1

end Inquiry

end DohRelay
