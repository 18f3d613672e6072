import DohRelay.Proofs.Service.Rulings

/-!
# Answers that are shared

An answer is fitted to the query of the errand before it is stored or passed on, and to the query of
each client after that.  The second fitting undoes all that the first has changed, except that an
extension record which the first has taken away does not come back.  Whether a query has such a
record is not told by its fingerprint, so what a client is told may depend on who asked first.

## Main definitions

* `FittedTo` — a result is made of a message of the endpoint, fitted to a query with the key.

## Main results

* `Dns.Message.answering_answering_eq_iff` — when the first fitting does not show.
* `shared_answer_eq_iff` — **when a client is told what it would have been told alone.**
* `shared_answer_extended` — a client who is told something else.
-/

namespace DohRelay

namespace Dns.Message

/-- An answer that is fitted to one query and then to another differs from one that is fitted to the
other alone in the extension record at most. -/
theorem answering_answering (a q r : Message) :
    (a.answering q).answering r =
      { a.answering r with edns := if q.edns.isNone then none else (a.answering r).edns } := by
  simp only [answering]
  cases q.edns <;> cases r.edns <;> rfl

/-- The first fitting does not show just if it has not taken away an extension record that the
second would have left. -/
theorem answering_answering_eq_iff (a q r : Message) :
    (a.answering q).answering r = a.answering r ↔
      (q.edns = none → r.edns = none ∨ a.edns = none) := by
  rw [answering_answering]
  have hedns : (a.answering r).edns = if r.edns.isNone then none else a.edns := rfl
  constructor
  · intro h hq
    have hsame := congrArg edns h
    rw [hedns, hq] at hsame
    cases hr : r.edns with
    | none => exact .inl rfl
    | some e =>
      rw [hr] at hsame
      exact .inr hsame.symm
  · intro h
    cases hq : q.edns with
    | some e => rfl
    | none =>
      have hnone : (a.answering r).edns = none := by
        rw [hedns]
        rcases h hq with hr | ha
        · rw [hr]
          rfl
        · rw [ha, ite_self]
      change { a.answering r with edns := none } = a.answering r
      rw [← hnone]

end Dns.Message

namespace Service

open Cache (CallerId)

/-- A result, if it is an answer, is made of a message that the endpoint sent, fitted to a query
that was handed in and has the key. -/
def FittedTo (config : Config) (moves : List Move) (key : Fingerprint)
    (result : Cache.FetchResult) : Prop :=
  ∀ answer, result = .ok answer → ∃ message other asked subnet, Sent config moves message ∧
    (∃ id input, HandedIn moves id input ∧ input.decode = .ok other) ∧
    Dns.Message.question other = .ok asked ∧ key = .ofQuery other asked subnet ∧
    answer = message.answering other

/-- So is every result that an errand comes to. -/
theorem Run.fittedTo {config : Config} {fetchTimeout : Nat} {moves : List Move} {s : State}
    (h : Run config fetchTimeout moves s) {m : Move} (hm : m ∈ moves) {id : CallerId}
    {f : Cache.Fetch} {result : Cache.FetchResult} (hf : m.before.cache.fetches.find? id = some f)
    (hresolves : Resolves m.before m.event id result) : FittedTo config moves f.key result := by
  obtain ⟨earlier, hsuffix, hrun⟩ := h.exists_before hm
  intro answer hanswer
  generalize hevent : m.event = e at hresolves
  cases hresolves with
  | expire => cases hanswer
  | crash => cases hanswer
  | @finish _ _ errand _ herrand hfinishes =>
    obtain ⟨input, question, ⟨m', hm', hin⟩, hinput, hquestion, hkey⟩ :=
      (Keyed.of_run hrun).key_of_errand hf herrand
    obtain ⟨_, admitted⟩ := (Sound.of_run hrun).errands id errand herrand
    rw [← hrun.config_eq] at admitted
    cases hfinishes with
    | refuse => cases hanswer
    | answer hplan => exact absurd hplan (admitted.plan_ne_reply _)
    | @respond _ _ asked response =>
      cases response with
      | error fault => cases hanswer
      | ok response =>
        obtain ⟨hsuccess, message, hread, -, rfl⟩ := Inquiry.conclude_eq_ok hanswer
        rw [hrun.config_eq] at hread
        exact ⟨message, errand.query, question, errand.subnet,
          ⟨m, hm, id, response, asked, hevent, hsuccess, hread⟩,
          ⟨id, input, ⟨m', hsuffix.subset hm', hin⟩, hinput⟩, hquestion, hkey, rfl⟩

/-- **A client is told what it would have been told alone, but for the extension record**, which is
missing just if the message of the endpoint and the query have one, and the query that was asked
first has none.  So it is for any message and any two queries; and in every run whoever is given an
answer, from the store or by a fetch, is given what is made of a message of the endpoint by fitting
it to a query with the same fingerprint first. -/
theorem shared_answer_eq_iff (a first query : Dns.Message) :
    { (a.answering first).answering query with edns := none } =
        { a.answering query with edns := none } ∧
      ((a.answering first).answering query = a.answering query ↔
        (first.edns = none → query.edns = none ∨ a.edns = none)) ∧
      ∀ config fetchTimeout moves s, Run config fetchTimeout moves s →
        ∀ id, HandedIn moves id (.query query) → ∀ c, s.clients.find? id = some c →
        ∀ answer outcome, c.stage = .told answer (.ofOutcome outcome) →
        ∃ message other question asked subnet, Sent config moves message ∧
          (∃ i input, HandedIn moves i input ∧ input.decode = .ok other) ∧
          query.question = .ok question ∧ other.question = .ok asked ∧
          Fingerprint.ofQuery query question subnet = .ofQuery other asked subnet ∧
          answer = (message.answering other).answering query := by
  refine ⟨?_, a.answering_answering_eq_iff first query, ?_⟩
  · rw [a.answering_answering]
  · intro config fetchTimeout moves s h id hin c hc answer outcome hstage
    have hruling : Ruling config (FittedTo config moves) query answer (.ofOutcome outcome) :=
      h.ruling_of_told (fun m hm i f result => h.fittedTo hm) (fun _ _ _ _ _ _ h => by cases h) hin
        rfl hc hstage
    generalize hresolution : Resolution.ofOutcome outcome = resolution at hruling
    cases hruling with
    | unsupported | synthesized | failed => cases outcome <;> cases hresolution
    | @answered question _ subnet _ admitted hresult =>
      obtain ⟨message, other, asked, net, hsent, hother, hasked, hkey, rfl⟩ := hresult _ rfl
      -- the fingerprints tell one network
      have hnet : subnet = net := congrArg Fingerprint.subnet hkey
      rw [← hnet] at hkey
      exact ⟨message, other, question, asked, subnet, hsent, hother, admitted.single, hasked, hkey,
        rfl⟩

/-! ### A query that says more than the first -/

/-- The query about the root, with an extension record. -/
def extendedMessage : Dns.Message :=
  { rootMessage with id := 2, edns := some Wire.newEdns }

/-- The plain query is asked first, and the other one joins its fetch; the endpoint answers with an
extension record. -/
def extendedEvents : List Event :=
  [.submit 0 rootMessage, .ask 0, .cache (.look 0), .cache (.enter 0), .send 0,
    .submit 1 extendedMessage, .ask 1, .cache (.look 1), .cache (.enter 1),
    .respond 0 (.ok ⟨200, Dns.badVersionBytes⟩), .cache (.store 0), .cache (.release 0),
    .cache (.take 1), .decide 1, .reply 1]

/-- What the client with the other query is told. -/
def extendedAnswer : Dns.Message :=
  (Dns.badVersion.answering rootMessage).answering extendedMessage

theorem play_extendedEvents : ∃ s, (State.start posting 5000).play extendedEvents = some s ∧
    s.clients.find? 1 = some ⟨none, 0, .told extendedAnswer .shared⟩ := by
  simp only [extendedEvents, State.play, State.step, State.respond, Except.bind, Inquiry.conclude,
    Inquiry.readAnswer, Wire.answer, Dns.decode_badVersionBytes]
  exact ⟨_, rfl, rfl⟩

/-- These events make a run. -/
theorem exists_run_extended : ∃ moves s, Run posting 5000 moves s ∧
    HandedIn moves 0 (.query rootMessage) ∧ HandedIn moves 1 (.query extendedMessage) ∧
      s.clients.find? 1 = some ⟨none, 0, .told extendedAnswer .shared⟩ ∧
      Sent posting moves Dns.badVersion := by
  obtain ⟨s, hs, hc⟩ := play_extendedEvents
  obtain ⟨moves, hrun, hmap⟩ := Run.of_play hs
  have hfirst : HandedIn moves 0 (.query rootMessage) := .of_play hmap List.mem_cons_self rfl
  have hsubmit : .submit 1 extendedMessage ∈ extendedEvents := by simp [extendedEvents]
  have hsecond : HandedIn moves 1 (.query extendedMessage) := .of_play hmap hsubmit rfl
  have hmem : .respond 0 (.ok ⟨200, Dns.badVersionBytes⟩) ∈ moves.map Move.event := by
    rw [hmap, List.mem_reverse]
    simp [extendedEvents]
  obtain ⟨m, hm, hevent⟩ := List.mem_map.mp hmem
  have hread : Inquiry.readAnswer posting Dns.rootQuestion Dns.badVersionBytes =
      .ok Dns.badVersion := by
    change Wire.answer Dns.badVersionBytes = _
    rw [Wire.answer, Dns.decode_badVersionBytes]
  exact ⟨moves, s, hrun, hfirst, hsecond, hc,
    ⟨m, hm, 0, ⟨200, Dns.badVersionBytes⟩, Dns.rootQuestion, hevent, rfl, hread⟩⟩

/-- The client with the other query is given what is made of a message of the endpoint by fitting it
to a query with the same fingerprint. -/
theorem shared_answer_eq_iff_extended : ∃ moves s, Run posting 5000 moves s ∧
    s.clients.find? 1 = some ⟨none, 0, .told extendedAnswer .shared⟩ ∧
      (∃ message other, Sent posting moves message ∧
        extendedAnswer = (message.answering other).answering extendedMessage) ∧
      (extendedAnswer = Dns.badVersion.answering extendedMessage ↔
        (rootMessage.edns = none → extendedMessage.edns = none ∨ Dns.badVersion.edns = none)) := by
  obtain ⟨moves, s, hrun, -, hsecond, hc, -⟩ := exists_run_extended
  obtain ⟨-, hiff, hgiven⟩ := shared_answer_eq_iff Dns.badVersion rootMessage extendedMessage
  obtain ⟨message, other, _, _, _, hsent, -, -, -, -, hanswer⟩ :=
    hgiven posting 5000 moves s hrun 1 hsecond _ hc extendedAnswer .joined rfl
  exact ⟨moves, s, hrun, hc, ⟨message, other, hsent, hanswer⟩, hiff⟩

/-- **A client may be told less than alone**: the fingerprints are the same, the endpoint sends a
message with an extension record, and the query has one, and yet the answer has none. -/
theorem shared_answer_extended : ∃ moves s, Run posting 5000 moves s ∧
    HandedIn moves 0 (.query rootMessage) ∧ HandedIn moves 1 (.query extendedMessage) ∧
      (∀ subnet, Fingerprint.ofQuery extendedMessage Dns.rootQuestion subnet =
        .ofQuery rootMessage Dns.rootQuestion subnet) ∧
      Sent posting moves Dns.badVersion ∧
      s.clients.find? 1 = some ⟨none, 0,
        .told ((Dns.badVersion.answering rootMessage).answering extendedMessage) .shared⟩ ∧
      (Dns.badVersion.answering rootMessage).answering extendedMessage ≠
        Dns.badVersion.answering extendedMessage := by
  obtain ⟨moves, s, hrun, hfirst, hsecond, hc, hsent⟩ := exists_run_extended
  exact ⟨moves, s, hrun, hfirst, hsecond, fun _ => rfl, hsent, hc, by decide⟩

end Service

end DohRelay
