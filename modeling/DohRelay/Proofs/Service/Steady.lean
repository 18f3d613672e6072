import DohRelay.Proofs.Dns.NameText
import DohRelay.Proofs.Exchange.Checking
import DohRelay.Proofs.Service.Rulings

/-!
# Answers of a steady endpoint

Where the response to a request depends on the fingerprint of the query alone, queries with one
fingerprint have one answer, up to the spelling of the question, which is fitted to each query in
any case, and up to an extension record.  So it makes no difference whether a client is given what
was made for another query, at another time even: it is told what a request of its own would have
brought.

## Main definitions

* `Inquiry.direct` — the answer to a query that is asked without the service.
* `Move.Steady` — a move in which the endpoint is steady and nothing takes too long.

## Main results

* `Inquiry.conclude_of_same` — answers to one question in two spellings.
* `Run.direct_of_told` — **whoever is told something in a steady run is told what follows from the
  query alone.**
-/

namespace DohRelay

/-! ### Questions in two spellings -/

namespace Inquiry

variable {question asked : Dns.Question}

/-- A name is that of a question in each of its spellings or in none. -/
theorem sameAs_congr (h : isSameQuestion question asked = true) (n : Dns.Name) :
    n.sameAs question.name = n.sameAs asked.name := by
  have hfold := Dns.Name.sameAs_iff.mp (isSameQuestion_iff.mp h).1
  rw [Dns.Name.sameAs, Dns.Name.sameAs, hfold]

/-- Queries with one fingerprint ask one question. -/
theorem isSameQuestion_of_key {query other : Dns.Message} {subnet net : Option Net.Network}
    (h : Fingerprint.ofQuery query question subnet = .ofQuery other asked net) :
    isSameQuestion question asked = true := by
  have hname := Dns.Name.text_fold_inj.mp (congrArg Fingerprint.name h)
  have htype : question.type = asked.type :=
    congrArg Dns.RecordType.mk (congrArg Fingerprint.type h)
  exact isSameQuestion_iff.mpr ⟨hname, htype, congrArg Fingerprint.qclass h⟩

/-- An answer that repeats a question repeats it in any spelling. -/
theorem checkQuestion_of_same (h : isSameQuestion question asked = true) {answer : Dns.Message}
    (hcheck : checkQuestion answer question = .ok ()) : checkQuestion answer asked = .ok () := by
  obtain ⟨-, htype, hclass⟩ := isSameQuestion_iff.mp h
  unfold checkQuestion at hcheck ⊢
  split
  case h_1 => rfl
  case h_2 echoed others hquestions =>
    rw [hquestions] at hcheck
    have hsame : isSameQuestion echoed asked = isSameQuestion echoed question := by
      rw [isSameQuestion, isSameQuestion, sameAs_congr h, htype, hclass]
    rw [hsame]
    split
    case isTrue => rfl
    case isFalse hno =>
      simp only [if_neg hno] at hcheck
      cases hcheck

/-- So does a document. -/
theorem checkEcho_of_same (h : isSameQuestion question asked = true) {document : Resolve.Answer}
    (hcheck : Resolve.checkEcho document question = .ok ()) :
    Resolve.checkEcho document asked = .ok () := by
  obtain ⟨-, htype, -⟩ := isSameQuestion_iff.mp h
  unfold Resolve.checkEcho at hcheck ⊢
  split
  case h_1 => rfl
  case h_2 echoed others hquestions =>
    rw [hquestions] at hcheck
    obtain ⟨name, hname, hcheck⟩ := exists_of_bind_eq_ok hcheck
    have hsame : (!name.sameAs asked.name || echoed.type != asked.type.code) =
        (!name.sameAs question.name || echoed.type != question.type.code) := by
      rw [sameAs_congr h name, htype]
    rw [hname]
    change (if (!name.sameAs asked.name || echoed.type != asked.type.code) = true then
      throw (Resolve.otherQuestion echoed.name ⟨echoed.type⟩ asked) else pure ()) = _
    rw [hsame]
    split
    case isTrue hother =>
      rw [if_pos hother] at hcheck
      cases hcheck
    case isFalse => rfl

/-- The message that a document says repeats the question, and is the same otherwise. -/
theorem toMessage_of_same (h : isSameQuestion question asked = true) {document : Resolve.Answer}
    {message : Dns.Message} (hmessage : document.toMessage question = .ok message) :
    document.toMessage asked = .ok { message with questions := [asked] } := by
  obtain ⟨_, hecho, hmessage⟩ := exists_of_bind_eq_ok hmessage
  obtain ⟨answers, hanswers, hmessage⟩ := exists_of_bind_eq_ok hmessage
  obtain ⟨authority, hauthority, hmessage⟩ := exists_of_bind_eq_ok hmessage
  obtain ⟨additional, hadditional, hmessage⟩ := exists_of_bind_eq_ok hmessage
  cases hmessage
  simp only [Resolve.Answer.toMessage, checkEcho_of_same h hecho, hanswers, hauthority,
    hadditional]
  rfl

/-- The message that a body is, read as the answer to a question in another spelling, is the same
but for the question that it repeats. -/
theorem readAnswer_of_same {config : Config} (h : isSameQuestion question asked = true)
    {body : List UInt8} {message : Dns.Message}
    (hread : readAnswer config question body = .ok message)
    (hcheck : checkQuestion message question = .ok ()) :
    ∃ message', readAnswer config asked body = .ok message' ∧
      checkQuestion message' asked = .ok () ∧
      { message' with questions := [] } = { message with questions := [] } := by
  unfold readAnswer at hread ⊢
  split at hread
  case h_1 hwire => exact ⟨message, hread, checkQuestion_of_same h hcheck, rfl⟩
  case h_2 hjson =>
    unfold Resolve.answer at hread ⊢
    split at hread
    case h_1 => cases hread
    case h_2 document hdocument =>
      have hself : isSameQuestion asked asked = true :=
        isSameQuestion_iff.mpr ⟨asked.name.sameAs_self, rfl, rfl⟩
      refine ⟨{ message with questions := [asked] }, toMessage_of_same h hread, ?_, rfl⟩
      simp only [checkQuestion, List.isEmpty_nil, hself, Bool.and_self, if_true]

/-- **Answers to one question in two spellings are the same**, fitted to any one query, but for the
extension record. -/
theorem conclude_of_same {config : Config} (h : isSameQuestion question asked = true)
    {query other : Dns.Message} {response : Http.Response} {answer : Dns.Message}
    (hanswer : conclude config query question response = .ok answer) :
    ∃ answer', conclude config other asked response = .ok answer' ∧
      ∀ q, { answer'.answering q with edns := none } =
        { answer.answering q with edns := none } := by
  obtain ⟨hsuccess, message, hread, hcheck, rfl⟩ := conclude_eq_ok hanswer
  obtain ⟨message', hread', hcheck', hsame⟩ := readAnswer_of_same h hread hcheck
  refine ⟨message'.answering other, ?_, fun q => ?_⟩
  · unfold conclude
    rw [hsuccess, hread']
    change (checkQuestion message' asked).bind (fun _ => .ok (message'.answering other)) = _
    rw [hcheck']
    rfl
  · -- whatever differs is fitted to the query in the end
    have hfit := congrArg (fun m => { m.answering q with edns := none }) hsame
    exact hfit

/-- What is fitted to a query already stays as it is. -/
theorem answering_of_conclude {config : Config} {query : Dns.Message} {response : Http.Response}
    {answer : Dns.Message} (h : conclude config query question response = .ok answer) :
    answer.answering query = answer := by
  obtain ⟨-, message, -, -, rfl⟩ := conclude_eq_ok h
  simp only [Dns.Message.answering]
  cases query.edns <;> rfl

/-! ### Asking without the service -/

/-- The answer to a query that is asked without the service, of an endpoint whose response depends
on the fingerprint of the query. -/
def direct (config : Config) (endpoint : Fingerprint → Except Error Http.Response)
    (subnet : Option Net.Network) (query : Dns.Message) : Dns.Message :=
  match query.question with
  | .error _ => query.servFailFor
  | .ok question =>
    match (run config (fun _ => endpoint (.ofQuery query question subnet)) query subnet).1 with
    | .ok answer => answer
    | .error _ => query.servFailFor

/-- A query that needs a request is answered with what its response makes. -/
theorem direct_eq {config : Config} {endpoint : Fingerprint → Except Error Http.Response}
    {subnet : Option Net.Network} {query : Dns.Message} (hquestion : query.question = .ok question)
    (hpolicy : (config.noAaaa && question.isAaaa) = false) {r : Http.Request}
    (hrequest : request config query question subnet = .ok r) :
    direct config endpoint subnet query =
      match (endpoint (.ofQuery query question subnet)).bind (conclude config query question) with
      | .ok answer => answer
      | .error _ => query.servFailFor := by
  have hplan : plan config query subnet = .ok (.exchange question r) := by
    rw [plan_of_question hquestion hpolicy, hrequest]
    rfl
  simp only [direct, hquestion, run, hplan]
  cases (endpoint (.ofQuery query question subnet)).bind (conclude config query question) <;> rfl

end Inquiry

namespace Service

open Cache (CallerId)

/-! ### Steady runs -/

/-- The network to advertise, where it is not detected. -/
def advertised? (config : Config) : Option (Option Net.Network) :=
  match config.subnet with
  | .disabled => some none
  | .fixed net => some (some net)
  | .detect _ _ => none

/-- By a move the endpoint responds as the key of the fetch tells, if it responds, and nothing takes
too long or dies. -/
def Move.Steady (endpoint : Fingerprint → Except Error Http.Response) (m : Move) : Prop :=
  match m.event with
  | .respond id response =>
    ∀ f, m.before.cache.fetches.find? id = some f → response = endpoint f.key
  | .cache (.expire _) | .cache (.crash _) | .giveUp _ => False
  | _ => True

/-- There are requests for all queries that were handed in. -/
def Askable (config : Config) (subnet : Option Net.Network) (moves : List Move) : Prop :=
  ∀ id input query question, HandedIn moves id input → input.decode = .ok query →
    query.question = .ok question → ∃ r, Inquiry.request config query question subnet = .ok r

/-- A result follows from the response of the endpoint to a query with the key. -/
def Fetched (config : Config) (endpoint : Fingerprint → Except Error Http.Response)
    (subnet : Option Net.Network) (key : Fingerprint) (result : Cache.FetchResult) : Prop :=
  ∃ query question, Dns.Message.question query = .ok question ∧
    key = .ofQuery query question subnet ∧
    result = (endpoint key).bind (Inquiry.conclude config query question)

section

variable {config : Config} {fetchTimeout : Nat} {moves : List Move} {s : State}
  {endpoint : Fingerprint → Except Error Http.Response} {subnet : Option Net.Network}

/-- One more move, by which nothing is handed in for which there is no request. -/
theorem Askable.cons (h : Askable config subnet moves) {m : Move}
    (hm : ∀ id input query question, m.event.input? = some (id, input) →
      input.decode = .ok query → query.question = .ok question →
      ∃ r, Inquiry.request config query question subnet = .ok r) :
    Askable config subnet (m :: moves) := by
  intro id input query question hin hquery hquestion
  rcases HandedIn.cons.mp hin with hin | hin
  · exact hm id input query question hin hquery hquestion
  · exact h id input query question hin hquery hquestion

/-- More moves, by which nothing is handed in. -/
theorem Askable.append (h : Askable config subnet moves) {more : List Move}
    (hmore : ∀ m ∈ more, m.event.input? = none) : Askable config subnet (more ++ moves) := by
  induction more with
  | nil => exact h
  | cons m more ih =>
    obtain ⟨hm, hmore⟩ := List.forall_mem_cons.mp hmore
    refine (ih hmore).cons fun id input query question hin => ?_
    cases hm.symm.trans hin

theorem located_of_advertised (h : advertised? s.config = some subnet) (id : CallerId) :
    s.located id = some subnet := by
  unfold advertised? at h
  unfold State.located
  cases hmode : s.config.subnet <;> rw [hmode] at h <;> first | exact h | cases h

theorem detects_of_advertised (h : advertised? s.config = some subnet) : s.detects = false := by
  unfold advertised? at h
  unfold State.detects
  cases hmode : s.config.subnet with
  | detect =>
    rw [hmode] at h
    cases h
  | _ => rfl

/-- Errands advertise the network, where it is not detected. -/
theorem Run.subnet_of_errand (h : Run config fetchTimeout moves s)
    (hsubnet : advertised? config = some subnet) {id : CallerId} {errand : Errand}
    (herrand : s.errands.find? id = some errand) : errand.subnet = subnet := by
  induction h generalizing errand with
  | start => simp [State.start] at herrand
  | move m run ih =>
    rcases m.effect.errand_after herrand with ⟨before, hbefore, heq⟩ | ⟨_, _, _, _, hlocated, -⟩
    · have hsame : before.subnet = subnet := ih hbefore
      exact (congrArg Errand.subnet heq).trans hsame
    · rw [← run.config_eq] at hsubnet
      rw [located_of_advertised hsubnet, Option.some.injEq] at hlocated
      exact hlocated.symm

/-- A request asks the question of its query. -/
theorem Run.question_of_errand (h : Run config fetchTimeout moves s) {id : CallerId}
    {errand : Errand} (herrand : s.errands.find? id = some errand) {question : Dns.Question}
    (hphase : errand.phase = .sent question) : errand.query.question = .ok question := by
  induction h generalizing errand with
  | start => simp [State.start] at herrand
  | @move moves m run ih =>
    have hset {i : CallerId} {d : Errand} {t : State}
        (hd : d.phase = .sent question → d.query.question = .ok question)
        (ht : t.errands = m.before.errands.insert i d)
        (h : t.errands.find? id = some errand) : errand.query.question = .ok question := by
      rw [ht] at h
      rcases Table.find?_insert_eq_some.mp h with ⟨-, rfl⟩ | ⟨-, h⟩
      · exact hd hphase
      · exact ih h hphase
    have heffect := m.effect
    generalize m.event = e at heffect
    generalize m.after = s' at heffect herrand
    cases heffect with
    | ask => exact hset (fun h => by cases h) rfl herrand
    | send _ _ _ hplan =>
      refine hset (fun h => ?_) rfl herrand
      cases h
      exact (Inquiry.plan_eq_exchange hplan).1
    | finish => exact hset (fun h => by cases h) rfl herrand
    | _ => exact ih herrand hphase

/-- **Where the endpoint is steady, every result follows from its response to a query with the
key.** -/
theorem Run.fetched (h : Run config fetchTimeout moves s)
    (hsubnet : advertised? config = some subnet)
    (hsteady : ∀ m ∈ moves, m.Steady endpoint) (haskable : Askable config subnet moves) {m : Move}
    (hm : m ∈ moves) {id : CallerId} {f : Cache.Fetch} {result : Cache.FetchResult}
    (hf : m.before.cache.fetches.find? id = some f)
    (hresolves : Resolves m.before m.event id result) :
    Fetched config endpoint subnet f.key result := by
  obtain ⟨earlier, hsuffix, hrun⟩ := h.exists_before hm
  have hmove := hsteady m hm
  unfold Move.Steady at hmove
  generalize m.event = e at hresolves hmove
  cases hresolves with
  | expire | crash => exact hmove.elim
  | @finish _ _ errand _ herrand hfinishes =>
    obtain ⟨input, question, ⟨m', hm', hin⟩, hinput, hquestion, hkey⟩ :=
      (Keyed.of_run hrun).key_of_errand hf herrand
    obtain rfl := hrun.subnet_of_errand hsubnet herrand
    obtain ⟨question', admitted⟩ := (Sound.of_run hrun).errands id errand herrand
    obtain rfl : question = question' := Except.ok.inj (hquestion.symm.trans admitted.single)
    rw [← hrun.config_eq] at admitted haskable ⊢
    cases hfinishes with
    | refuse hplan =>
      -- there is a request for the query of the errand
      obtain ⟨r, hrequest⟩ := haskable id input errand.query question
        ⟨m', hsuffix.subset hm', hin⟩ hinput hquestion
      simp only [Inquiry.plan, hquestion, admitted.policy, Bool.false_eq_true, if_false, hrequest]
        at hplan
      cases hplan
    | answer hplan => exact absurd hplan (admitted.plan_ne_reply _)
    | @respond _ _ asked response hphase =>
      have hasked := hrun.question_of_errand herrand hphase
      obtain rfl : question = asked := Except.ok.inj (hquestion.symm.trans hasked)
      refine ⟨errand.query, question, hquestion, hkey, ?_⟩
      rw [hmove f hf]

/-- **Whoever is told something in a steady run is told what follows from the query alone**, up to
an extension record: it does not matter whether there is a cache, and what others have asked
before, or ask at the same time. -/
theorem Run.direct_of_told (h : Run config fetchTimeout moves s)
    (hsubnet : advertised? config = some subnet) (hsteady : ∀ m ∈ moves, m.Steady endpoint)
    (haskable : Askable config subnet moves) {id : CallerId} {input : Input}
    (hin : HandedIn moves id input) {query : Dns.Message} (hquery : input.decode = .ok query)
    {c : Client} (hc : s.clients.find? id = some c) {answer : Dns.Message}
    {resolution : Resolution} (hstage : c.stage = .told answer resolution) :
    { answer with edns := none } =
      { Inquiry.direct config endpoint subnet query with edns := none } := by
  have hlate : ∀ m ∈ moves, ∀ i, m.event = .giveUp i → ∀ key,
      Fetched config endpoint subnet key (.error .timeout) := by
    intro m hm i hevent
    have hmove := hsteady m hm
    rw [Move.Steady, hevent] at hmove
    exact hmove.elim
  have hruling : Ruling config (Fetched config endpoint subnet) query answer resolution :=
    h.ruling_of_told (fun m hm i f result => h.fetched hsubnet hsteady haskable hm) hlate hin hquery
      hc hstage
  cases hruling with
  | unsupported hquestion => simp only [Inquiry.direct, hquestion]
  | synthesized hquestion hpolicy =>
    simp only [Inquiry.direct, Inquiry.run, Inquiry.plan, hquestion, hpolicy, if_true]
  | @answered question a net outcome admitted hresult =>
    obtain ⟨other, asked, hasked, hkey, hresult⟩ := hresult
    obtain rfl : net = subnet := congrArg Fingerprint.subnet hkey
    obtain ⟨r, hrequest⟩ := haskable id input query question hin hquery admitted.single
    rw [Inquiry.direct_eq admitted.single admitted.policy hrequest]
    obtain ⟨response, hresponse, hconclude⟩ := exists_of_bind_eq_ok hresult.symm
    obtain ⟨answer', hanswer', hsame⟩ : ∃ answer',
        Inquiry.conclude config query question response = .ok answer' ∧ ∀ q,
          { answer'.answering q with edns := none } = { a.answering q with edns := none } :=
      Inquiry.conclude_of_same (Inquiry.isSameQuestion_of_key hkey.symm) hconclude
    have hdirect : (endpoint (.ofQuery query question net)).bind
        (Inquiry.conclude config query question) = .ok answer' := by
      rw [hresponse]
      exact hanswer'
    rw [hdirect, ← hsame query, Inquiry.answering_of_conclude hanswer']
  | @failed question fault net admitted hresult =>
    obtain ⟨other, asked, hasked, hkey, hresult⟩ := hresult
    obtain rfl : net = subnet := congrArg Fingerprint.subnet hkey
    obtain ⟨r, hrequest⟩ := haskable id input query question hin hquery admitted.single
    rw [Inquiry.direct_eq admitted.single admitted.policy hrequest]
    -- an answer here would be one for the other query as well
    cases hdirect : (endpoint (.ofQuery query question net)).bind
        (Inquiry.conclude config query question) with
    | error fault' => rfl
    | ok answer =>
      obtain ⟨response, hresponse, hconclude⟩ := exists_of_bind_eq_ok hdirect
      obtain ⟨answer', hanswer', -⟩ : ∃ answer',
          Inquiry.conclude config other asked response = .ok answer' ∧ ∀ q,
            { answer'.answering q with edns := none } =
              { answer.answering q with edns := none } :=
        Inquiry.conclude_of_same (Inquiry.isSameQuestion_of_key hkey) hconclude
      rw [hresponse] at hresult
      cases hresult.trans hanswer'

end

end Service

end DohRelay
