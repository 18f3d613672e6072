import DohRelay.Proofs.Service.Answers

/-!
# Documents that are understood

A document is understood if it repeats no question, or the one that was asked first of all, and each
of its records has data of its type or is passed over.  The message made of it has just the records
that are understood, in order.  Whatever goes wrong is told as a reply that makes no sense.

## Main definitions

* `OnlyUndecodable` — nothing else can go wrong.
* `Resolve.Question.Names` — a question of a document is one that can be asked.
* `Resolve.Answer.IsFor` — a document repeats the question that was asked, or none.
* `Resolve.Answer.message` — the message with the codes of a document and some records.

## Main results

* `Resolve.answer_eq_ok_iff` — **when a body is understood, and as which message.**
* `Resolve.onlyUndecodable_answer` — **otherwise the reply makes no sense.**
-/

namespace DohRelay

/-! ### Errors -/

/-- If something goes wrong, then the reply makes no sense. -/
def OnlyUndecodable {α : Type} (outcome : Except Error α) : Prop :=
  ∀ e, outcome = .error e → ∃ reason, e = .undecodable reason

namespace OnlyUndecodable

variable {α β : Type}

theorem ok (a : α) : OnlyUndecodable (.ok a : Except Error α) := nofun

theorem error (reason : String) : OnlyUndecodable (.error (.undecodable reason) : Except Error α) :=
  fun _ h => ⟨reason, (Except.error.inj h).symm⟩

/-- One step after the other goes wrong as either does. -/
theorem bind {outcome : Except Error α} {k : α → Except Error β} (h : OnlyUndecodable outcome)
    (hk : ∀ a, OnlyUndecodable (k a)) : OnlyUndecodable (outcome >>= k) := by
  cases outcome with
  | error e =>
    intro e' he'
    cases he'
    exact h e rfl
  | ok a => exact hk a

theorem map {outcome : Except Error α} (h : OnlyUndecodable outcome) (f : α → β) :
    OnlyUndecodable (outcome.map f) := by
  cases outcome with
  | error e =>
    intro e' he'
    cases he'
    exact h e rfl
  | ok a => exact ok _

theorem ite {c : Prop} [Decidable c] {r s : Except Error α} (hr : OnlyUndecodable r)
    (hs : OnlyUndecodable s) : OnlyUndecodable (if c then r else s) := by
  split
  · exact hr
  · exact hs

/-- So does a list of steps. -/
theorem mapM {f : α → Except Error β} (hf : ∀ a, OnlyUndecodable (f a)) (as : List α) :
    OnlyUndecodable (as.mapM f) := by
  induction as with
  | nil => exact ok _
  | cons a as ih =>
    rw [List.mapM_cons]
    exact (hf a).bind fun b => ih.bind fun bs => ok _

/-- Where nothing comes out, something went wrong. -/
theorem exists_error {outcome : Except Error α} (h : OnlyUndecodable outcome)
    (hno : ∀ a, outcome ≠ .ok a) : ∃ reason, outcome = .error (.undecodable reason) := by
  cases outcome with
  | error e =>
    obtain ⟨reason, rfl⟩ := h e rfl
    exact ⟨reason, rfl⟩
  | ok a => exact absurd rfl (hno a)

end OnlyUndecodable

namespace Resolve

open OnlyUndecodable

theorem readName_eq_ok_iff {s : List Char} {n : Dns.Name} :
    readName s = .ok n ↔ Dns.Name.ofText s = .ok n := by
  unfold readName
  cases Dns.Name.ofText s with
  | error fault => exact ⟨nofun, nofun⟩
  | ok name => exact ⟨fun h => congrArg _ (Except.ok.inj h), fun h => congrArg _ (Except.ok.inj h)⟩

theorem onlyUndecodable_readName (s : List Char) : OnlyUndecodable (readName s) := by
  unfold readName
  split
  · exact ok _
  · exact error _

/-- Data that is not understood makes no sense. -/
theorem onlyUndecodable_readData (type : Dns.RecordType) (data : List Char) :
    OnlyUndecodable (readData type data) := by
  unfold readData
  dsimp only
  refine .ite ?_ (.ite ?_ (.ite ?_ (.ite ?_ (.ite ?_ (.ite ?_ (.ite (ok _) (ok _)))))))
  · split
    · exact ok _
    · exact error _
  · split
    · exact ok _
    · exact error _
  · exact (onlyUndecodable_readName _).bind fun _ => ok _
  · split
    · refine (OnlyUndecodable.map ?_ _).bind fun _ =>
        (onlyUndecodable_readName _).bind fun _ => ok _
      split
      · exact ok _
      · exact error _
    · exact error _
  · split
    · refine (OnlyUndecodable.map ?_ _).bind fun _ => (OnlyUndecodable.map ?_ _).bind fun _ =>
        (OnlyUndecodable.map ?_ _).bind fun _ => (onlyUndecodable_readName _).bind fun _ => ok _
      all_goals
        split
        · exact ok _
        · exact error _
    · exact error _
  · split
    · refine (onlyUndecodable_readName _).bind fun _ => (onlyUndecodable_readName _).bind fun _ =>
        (OnlyUndecodable.map ?_ _).bind fun _ => OnlyUndecodable.bind ?_ fun _ =>
        OnlyUndecodable.bind ?_ fun _ => OnlyUndecodable.bind ?_ fun _ =>
        (OnlyUndecodable.map ?_ _).bind fun _ => ok _
      all_goals
        split
        · exact ok _
        · exact error _
    · exact error _

theorem onlyUndecodable_readRecords (rs : List Record) : OnlyUndecodable (readRecords rs) := by
  have hrecord (r : Record) : OnlyUndecodable (readRecord r) := by
    refine (onlyUndecodable_readData _ _).bind fun data => ?_
    cases data with
    | none => exact ok _
    | some d => exact (onlyUndecodable_readName _).bind fun _ => ok _
  exact (mapM hrecord rs).bind fun _ => ok _

/-! ### Questions that are repeated -/

/-- A question of a document is one that can be asked. -/
def Question.Names (e : Question) (q : Dns.Question) : Prop :=
  (∃ n, readName e.name = .ok n ∧ n.sameAs q.name = true) ∧ e.type = q.type.code

/-- A document repeats no question, or first of all the one that was asked. -/
def Answer.IsFor (document : Answer) (q : Dns.Question) : Prop :=
  document.questions = [] ∨ ∃ e others, document.questions = e :: others ∧ e.Names q

theorem checkEcho_eq_ok_iff {document : Answer} {q : Dns.Question} :
    checkEcho document q = .ok () ↔ document.IsFor q := by
  unfold checkEcho Answer.IsFor
  cases document.questions with
  | nil => exact ⟨fun _ => .inl rfl, fun _ => rfl⟩
  | cons e others =>
    constructor
    · intro h
      obtain ⟨n, hn, h⟩ := exists_of_bind_eq_ok h
      split at h
      case isTrue => cases h
      case isFalse hsame =>
        simp only [Bool.or_eq_true, Bool.not_eq_true', bne_iff_ne, not_or, Bool.not_eq_false,
          ne_eq, not_not] at hsame
        exact .inr ⟨e, others, rfl, ⟨n, hn, hsame.1⟩, hsame.2⟩
    · rintro (h | ⟨e', others', h, ⟨n, hn, hsame⟩, htype⟩)
      · cases h
      · cases h
        dsimp only
        rw [hn]
        exact if_neg (by simp [hsame, htype])

theorem onlyUndecodable_checkEcho (document : Answer) (q : Dns.Question) :
    OnlyUndecodable (checkEcho document q) := by
  unfold checkEcho
  split
  · exact ok _
  · refine (onlyUndecodable_readName _).bind fun n => ?_
    exact .ite (error _) (ok _)

/-! ### Messages -/

/-- The message with the codes of a document, that answers a question with some records. -/
def Answer.message (document : Answer) (q : Dns.Question)
    (answers authority additional : List Dns.Record) : Dns.Message :=
  { Dns.Message.empty with
    response := true
    rcode := document.status
    truncated := document.truncated
    recursionAvailable := document.recursionAvailable
    authenticData := document.authenticData
    checkingDisabled := document.checkingDisabled
    questions := [q]
    answers, authority, additional }

/-- **A body is understood if it is a document for the question and all its records are.**  The
message has those records. -/
theorem answer_eq_ok_iff {body : List UInt8} {q : Dns.Question} {m : Dns.Message} :
    answer body q = .ok m ↔ ∃ document, Answer.parse body = .ok document ∧ document.IsFor q ∧
      ∃ answers authority additional, readRecords document.answers = .ok answers ∧
        readRecords document.authority = .ok authority ∧
        readRecords document.additional = .ok additional ∧
        m = document.message q answers authority additional := by
  unfold answer
  constructor
  · intro h
    split at h
    case h_1 => cases h
    case h_2 document hdocument =>
      obtain ⟨_, hecho, h⟩ := exists_of_bind_eq_ok h
      obtain ⟨answers, hanswers, h⟩ := exists_of_bind_eq_ok h
      obtain ⟨authority, hauthority, h⟩ := exists_of_bind_eq_ok h
      obtain ⟨additional, hadditional, h⟩ := exists_of_bind_eq_ok h
      cases h
      exact ⟨document, hdocument, checkEcho_eq_ok_iff.mp hecho, answers, authority, additional,
        hanswers, hauthority, hadditional, rfl⟩
  · rintro ⟨document, hdocument, hfor, answers, authority, additional, hanswers, hauthority,
      hadditional, rfl⟩
    rw [hdocument]
    dsimp only
    rw [Answer.toMessage, checkEcho_eq_ok_iff.mpr hfor, hanswers, hauthority, hadditional]
    rfl

/-- A document that is understood is for the question. -/
theorem isFor_of_answer {body : List UInt8} {document : Answer} {q : Dns.Question}
    {m : Dns.Message} (hbody : Answer.parse body = .ok document) (h : answer body q = .ok m) :
    document.IsFor q := by
  obtain ⟨document', hbody', hfor, -⟩ := answer_eq_ok_iff.mp h
  cases hbody.symm.trans hbody'
  exact hfor

/-- **A body that is not understood makes no sense.** -/
theorem onlyUndecodable_answer (body : List UInt8) (q : Dns.Question) :
    OnlyUndecodable (answer body q) := by
  unfold answer
  split
  · exact error _
  · refine (onlyUndecodable_checkEcho _ _).bind fun _ => ?_
    exact (onlyUndecodable_readRecords _).bind fun _ =>
      (onlyUndecodable_readRecords _).bind fun _ =>
      (onlyUndecodable_readRecords _).bind fun _ => ok _

end Resolve

end DohRelay
