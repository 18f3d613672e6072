import DohRelay.Proofs.Dns.Whole
import DohRelay.Proofs.Dns.Writable
import DohRelay.Proofs.Service.ResponseCode
import DohRelay.Proofs.Service.Rulings

/-!
# What is found, told and counted

An answer is found for a client by policy, or when the cache tells the client one.  A query is
counted as failed if nothing was found for it, and otherwise in the way that the answer was found.
That is settled before the answer is written, and one that cannot be written is lost: the reply
refuses the query, and the query is counted as if it had been answered.

Only a document can have an answer that is lost in this way, since whatever was read as a message
can be written again.

## Main definitions

* `Found` — the answers that were found for a client.
* `Delivers`, `Refuses` — replies that are made of an answer, or say that there is none.
* `Refused`, `Lost`, `Recorded` — what became of a client, of an answer and of the counters.
* `Course` — what was found for a client by the time it is at some stage.

## Main results

* `Run.course` — **every client comes to what was found for it, and to one answer at most.**
* `Lost.of_document` — **an answer is lost only if it is made of a document with a name or a text
  that is too long.**
* `failed_iff_refused` — **a query is counted as failed just when it is refused and no answer to it
  was lost.**
* `refused_and_forwarded` — a query that is refused and counted as answered.
-/

namespace DohRelay

/-- What the cache comes to is neither a failure nor made up by policy. -/
theorem Resolution.ofOutcome_ne (outcome : Cache.Outcome) :
    ofOutcome outcome ≠ .failed ∧ ofOutcome outcome ≠ .synthesized := by
  cases outcome <;> decide

namespace Service

open Cache (CallerId)

/-! ### Answers that are found -/

/-- By an event the cache tells a client an answer. -/
def Tells (s : State) (e : Event) (id : CallerId) (answer : Dns.Message)
    (outcome : Cache.Outcome) : Prop :=
  e = .decide id ∧ ∃ d, s.cache.callers.find? id = some d ∧ d.phase = .answered answer outcome

/-- An event tells a client one answer at most. -/
theorem Tells.unique {s : State} {e : Event} {id : CallerId} {answer answer' : Dns.Message}
    {outcome outcome' : Cache.Outcome} (h : Tells s e id answer outcome)
    (h' : Tells s e id answer' outcome') : answer' = answer ∧ outcome' = outcome := by
  obtain ⟨-, d, hd, hphase⟩ := h
  obtain ⟨-, d', hd', hphase'⟩ := h'
  obtain rfl := Option.some.inj (hd.symm.trans hd')
  rw [hphase] at hphase'
  cases hphase'
  exact ⟨rfl, rfl⟩

/-- The answers to its query that were found for a client, and how. -/
inductive Found (config : Config) (moves : List Move) (id : CallerId) (query : Dns.Message) :
    Dns.Message → Resolution → Prop
  /-- By policy there is nothing. -/
  | policy {question : Dns.Question} (hquestion : query.question = .ok question)
      (hpolicy : (config.noAaaa && question.isAaaa) = true) :
      Found config moves id query query.emptyAnswerFor .synthesized
  /-- The cache told the client an answer. -/
  | told {question : Dns.Question} {m : Move} {answer : Dns.Message} {outcome : Cache.Outcome}
      (admitted : Admitted config query question) (hm : m ∈ moves)
      (htells : Tells m.before m.event id answer outcome) :
      Found config moves id query (answer.answering query) (.ofOutcome outcome)

section

variable {config : Config} {moves : List Move} {id : CallerId} {query answer : Dns.Message}
  {r : Resolution}

theorem Found.cons (h : Found config moves id query answer r) (m : Move) :
    Found config (m :: moves) id query answer r := by
  cases h with
  | policy hquestion hpolicy => exact .policy hquestion hpolicy
  | told admitted hm htells => exact .told admitted (List.mem_cons_of_mem _ hm) htells

/-- Where an answer was found: before, or by the last move. -/
theorem Found.of_cons {m : Move} (h : Found config (m :: moves) id query answer r) :
    Found config moves id query answer r ∨
      ∃ a outcome, Tells m.before m.event id a outcome ∧ answer = a.answering query ∧
        r = .ofOutcome outcome := by
  cases h with
  | policy hquestion hpolicy => exact .inl (.policy hquestion hpolicy)
  | told admitted hm htells =>
    rcases List.mem_cons.mp hm with rfl | hm
    · exact .inr ⟨_, _, htells, rfl, rfl⟩
    · exact .inl (.told admitted hm htells)

/-- A move that tells a client nothing finds nothing for it. -/
theorem Found.cons_eq {m : Move} (h : ∀ a outcome, ¬ Tells m.before m.event id a outcome) :
    Found config (m :: moves) id query = Found config moves id query := by
  funext answer r
  refine propext ⟨fun hfound => ?_, fun hfound => hfound.cons m⟩
  exact hfound.of_cons.resolve_right fun ⟨a, outcome, htells, _⟩ => h a outcome htells

end

/-! ### The course of a client -/

/-- What comes of a query, where certain answers were found. -/
inductive Comes (F : Dns.Message → Resolution → Prop) (query : Dns.Message) :
    Dns.Message → Resolution → Prop
  /-- Nothing was found. -/
  | nothing (hnone : ∀ answer r, ¬ F answer r) : Comes F query query.servFailFor .failed
  /-- One answer was found. -/
  | answer {answer : Dns.Message} {r : Resolution} (hfound : F answer r)
      (hone : ∀ a r', F a r' → a = answer ∧ r' = r) (hne : r ≠ .failed) : Comes F query answer r

/-- There was one answer at most. -/
theorem Comes.unique {F : Dns.Message → Resolution → Prop} {query answer a a' : Dns.Message}
    {r p p' : Resolution} (h : Comes F query answer r) (ha : F a p) (ha' : F a' p') :
    a' = a ∧ p' = p := by
  cases h with
  | nothing hnone => exact absurd ha (hnone a p)
  | answer _ hone =>
    obtain ⟨rfl, rfl⟩ := hone a p ha
    exact hone a' p' ha'

/-- What was found for a client with a query by the time it is at some stage. -/
inductive Course (F : Dns.Message → Resolution → Prop) (carrier? : Option Carrier)
    (query : Dns.Message) : Stage → Prop
  /-- The client waits to be told the network to advertise, and nothing was found. -/
  | locating {question : Dns.Question} (hnone : ∀ answer r, ¬ F answer r) :
      Course F carrier? query (.locating query question)
  /-- The client waits for the cache, and nothing was found. -/
  | asking {question : Dns.Question} {subnet : Option Net.Network} {since : Nat}
      (hnone : ∀ answer r, ¬ F answer r) :
      Course F carrier? query (.asking query question subnet since)
  /-- There is an answer for the client, or nothing was found. -/
  | decided {answer : Dns.Message} {r : Resolution} (h : Comes F query answer r) :
      Course F carrier? query (.decided query answer r)
  /-- The client has octets as reply, or none. -/
  | replied {carrier : Carrier} {answer : Dns.Message} {r : Resolution}
      (hcarrier : carrier? = some carrier) (h : Comes F query answer r) :
      Course F carrier? query (.replied (State.replyBytes carrier query answer) r)
  /-- The client has a message as reply. -/
  | told {answer : Dns.Message} {r : Resolution} (h : Comes F query answer r) :
      Course F carrier? query (.told answer r)
  /-- The client went away. -/
  | gone : Course F carrier? query .gone

/-- Where nothing is told, a client begins its course. -/
theorem Course.firstStage {s : State} {moves : List Move} {id : CallerId} {query : Dns.Message}
    (hsilent : ∀ m ∈ moves, ∀ a outcome, ¬ Tells m.before m.event id a outcome)
    (carrier? : Option Carrier) :
    Course (Found s.config moves id query) carrier? query (s.firstStage query) := by
  unfold State.firstStage
  split
  case h_1 fault hquestion =>
    refine .decided (.nothing fun answer r hfound => ?_)
    cases hfound with
    | policy hquestion' =>
      rw [hquestion] at hquestion'
      cases hquestion'
    | told _ hm htells => exact hsilent _ hm _ _ htells
  case h_2 question hquestion =>
    split
    case isTrue hpolicy =>
      refine .decided (.answer (.policy hquestion hpolicy) (fun answer r hfound => ?_) nofun)
      cases hfound with
      | policy => exact ⟨rfl, rfl⟩
      | told _ hm htells => exact absurd htells (hsilent _ hm _ _)
    case isFalse hpolicy =>
      refine .locating fun answer r hfound => ?_
      cases hfound with
      | policy hquestion' hpolicy' =>
        rw [hquestion] at hquestion'
        cases hquestion'
        exact hpolicy hpolicy'
      | told _ hm htells => exact hsilent _ hm _ _ htells

/-- A client who is told an answer waited for the cache, and now there is the answer. -/
theorem Effect.of_tells {s s' : State} {e : Event} (h : Effect s e s') {id : CallerId}
    {answer : Dns.Message} {outcome : Cache.Outcome} (htells : Tells s e id answer outcome) :
    ∃ c query question subnet since, s.clients.find? id = some c ∧
      c.stage = .asking query question subnet since ∧ s'.clients.find? id =
        some { c with stage := .decided query (answer.answering query) (.ofOutcome outcome) } := by
  obtain ⟨rfl, d, hd, hphase⟩ := htells
  cases h with
  | @decideAnswer _ c d' query _ question subnet since _ hc hstage hd' hphase' =>
    obtain rfl := Option.some.inj (hd.symm.trans hd')
    rw [hphase] at hphase'
    cases hphase'
    exact ⟨c, query, question, subnet, since, hc, hstage, Table.find?_insert_self ..⟩
  | decideError hc hstage hd' hphase' =>
    obtain rfl := Option.some.inj (hd.symm.trans hd')
    rw [hphase] at hphase'
    cases hphase'
  | enroll hinput => cases hinput
  | finish _ hfinishes => cases hfinishes

/-- What is decided at once is not what the cache told. -/
theorem State.firstStage_ne_ofOutcome (s : State) (query q answer : Dns.Message)
    (outcome : Cache.Outcome) : s.firstStage query ≠ .decided q answer (.ofOutcome outcome) := by
  intro h
  obtain ⟨hfailed, hsynthesized⟩ := Resolution.ofOutcome_ne outcome
  unfold State.firstStage at h
  split at h
  case h_1 =>
    injection h with _ _ hresolution
    exact hfailed hresolution.symm
  case h_2 =>
    split at h
    case isTrue =>
      injection h with _ _ hresolution
      exact hsynthesized hresolution.symm
    case isFalse => cases h

/-- Only by being told an answer does a client who waits for the cache come to one of the cache. -/
theorem Effect.tells_of_decided {s s' : State} {e : Event} (h : Effect s e s') {id : CallerId}
    {c : Client} (hc : s.clients.find? id = some c) {query q answer : Dns.Message}
    {question : Dns.Question} {subnet : Option Net.Network} {since : Nat} {outcome : Cache.Outcome}
    (hstage : c.stage = .asking query question subnet since) (hafter : s'.clients.find? id =
      some { c with stage := .decided q answer (.ofOutcome outcome) }) :
    ∃ a outcome, Tells s e id a outcome := by
  rcases h.decided_after hafter rfl with hsame | hfirst | ⟨_, _, _, _, -, -, htold⟩
  · have hstage' := congrArg Client.stage (Option.some.inj (hc.symm.trans hsame))
    rw [hstage] at hstage'
    cases hstage'
  · exact absurd hfirst (s.firstStage_ne_ofOutcome _ _ _ _)
  · rcases htold with ⟨hevent, d, a, outcome', hd, hphase, -⟩ | ⟨_, _, -, -, -, hfailed⟩ |
      ⟨-, -, hfailed⟩
    · exact ⟨a, outcome', hevent, d, hd, hphase⟩
    · exact absurd hfailed (Resolution.ofOutcome_ne outcome).1
    · exact absurd hfailed (Resolution.ofOutcome_ne outcome).1

/-- **A client gets on in its course**: it is told an answer, the first one, or what was found
before stays all that was. -/
theorem Course.effect {F : Dns.Message → Resolution → Prop} {query : Dns.Message} {s s' : State}
    {e : Event} {id : CallerId} {c : Client} (hcourse : Course F c.carrier query c.stage)
    (h : Effect s e s') (hc : s.clients.find? id = some c) :
    ∃ stage, s'.clients.find? id = some { c with stage } ∧
      ((∃ question subnet since answer outcome, c.stage = .asking query question subnet since ∧
          Tells s e id answer outcome ∧ (∀ a r, ¬ F a r) ∧
          stage = .decided query (answer.answering query) (.ofOutcome outcome)) ∨
        (∀ answer outcome, ¬ Tells s e id answer outcome) ∧ Course F c.carrier query stage) := by
  by_cases htells : ∃ answer outcome, Tells s e id answer outcome
  case pos =>
    obtain ⟨answer, outcome, htells⟩ := htells
    obtain ⟨c', q, question, subnet, since, hc', hstage, hafter⟩ := h.of_tells htells
    obtain rfl := Option.some.inj (hc.symm.trans hc')
    rw [hstage] at hcourse
    cases hcourse with
    | asking hnone =>
      exact ⟨_, hafter, .inl ⟨question, subnet, since, answer, outcome, hstage, htells, hnone, rfl⟩⟩
  case neg =>
    have hsilent (answer : Dns.Message) (outcome : Cache.Outcome) :
        ¬ Tells s e id answer outcome := fun h => htells ⟨answer, outcome, h⟩
    obtain ⟨stage, hafter, hgo⟩ := h.client_before hc
    refine ⟨stage, hafter, .inr ⟨hsilent, ?_⟩⟩
    rcases hgo with rfl | hadvance
    · exact hcourse
    · cases hadvance with
      | ask _ hstage =>
        rw [hstage] at hcourse
        cases hcourse with
        | locating hnone => exact .asking hnone
      | answer hstage =>
        obtain ⟨answer, outcome, htells'⟩ := h.tells_of_decided hc hstage hafter
        exact absurd htells' (hsilent answer outcome)
      | fail hstage =>
        rw [hstage] at hcourse
        cases hcourse with
        | asking hnone => exact .decided (.nothing hnone)
      | reply hstage hcarrier =>
        rw [hstage] at hcourse
        cases hcourse with
        | decided hcomes => exact .replied hcarrier hcomes
      | tell hstage =>
        rw [hstage] at hcourse
        cases hcourse with
        | decided hcomes => exact .told hcomes
      | leave => exact .gone

namespace Run

variable {config : Config} {fetchTimeout : Nat} {moves : List Move} {s : State} {id : CallerId}

/-- Whoever was told an answer is in the books. -/
theorem find?_ne_none_of_tells (h : Run config fetchTimeout moves s) {m : Move} (hm : m ∈ moves)
    {answer : Dns.Message} {outcome : Cache.Outcome}
    (htells : Tells m.before m.event id answer outcome) : s.clients.find? id ≠ none := by
  induction h with
  | start => cases hm
  | move last run ih =>
    rcases List.mem_cons.mp hm with rfl | hm
    · obtain ⟨c, _, _, _, _, -, -, hafter⟩ := m.effect.of_tells htells
      simp [hafter]
    · obtain ⟨c, hc⟩ := Option.ne_none_iff_exists'.mp (ih hm)
      obtain ⟨stage, hafter, -⟩ := last.effect.client_before hc
      simp [hafter]

/-- **Every client with a query comes to what was found for it, and to one answer at most.** -/
theorem course (h : Run config fetchTimeout moves s) {input : Input}
    (hin : HandedIn moves id input) {query : Dns.Message} (hquery : input.decode = .ok query)
    {c : Client} (hc : s.clients.find? id = some c) :
    Course (Found config moves id query) c.carrier query c.stage := by
  induction h generalizing c with
  | start => simp [State.start] at hc
  | @move moves m run ih =>
    rcases HandedIn.cons.mp hin with hinput | hin
    · -- nobody has told anything to who has just come
      obtain ⟨fresh, hafter⟩ := m.effect.client_of_input hinput
      obtain rfl := Option.some.inj (hc.symm.trans hafter)
      have hsilent : ∀ m' ∈ m :: moves, ∀ a outcome, ¬ Tells m'.before m'.event id a outcome := by
        intro m' hm' a outcome htells
        rcases List.mem_cons.mp hm' with rfl | hm'
        · rw [htells.1] at hinput
          cases hinput
        · exact run.find?_ne_none_of_tells hm' htells fresh
      have hstage : m.before.entryStage input = m.before.firstStage query := by
        simp only [State.entryStage, hquery]
      rw [hstage, ← run.config_eq]
      exact .firstStage hsilent _
    · obtain ⟨before, hbefore, -⟩ := (Sound.of_run run).clients id input hin
      obtain ⟨stage, hafter, hgo⟩ := (ih hin hbefore).effect m.effect hbefore
      obtain rfl := Option.some.inj (hc.symm.trans hafter)
      rcases hgo with ⟨question, subnet, since, answer, outcome, hstage, htells, hnone, rfl⟩ |
        ⟨hsilent, hcourse⟩
      · obtain ⟨-, hstory⟩ := run.story hin hbefore
        rw [hstage] at hstory
        cases hstory with
        | asking _ _ _ admitted =>
          refine .decided (.answer (.told admitted List.mem_cons_self htells) ?_
            (Resolution.ofOutcome_ne outcome).1)
          intro a r hfound
          rcases hfound.of_cons with hfound | ⟨a', outcome', htells', rfl, rfl⟩
          · exact absurd hfound (hnone a r)
          · obtain ⟨rfl, rfl⟩ := htells.unique htells'
            exact ⟨rfl, rfl⟩
      · rw [Found.cons_eq hsilent]
        exact hcourse

/-- For a client with a query who stays, one answer is found at most. -/
theorem found_unique (h : Run config fetchTimeout moves s) {input : Input}
    (hin : HandedIn moves id input) {query : Dns.Message} (hquery : input.decode = .ok query)
    {c : Client} (hc : s.clients.find? id = some c) (hstays : c.stage ≠ .gone)
    {answer answer' : Dns.Message} {r r' : Resolution}
    (hfound : Found config moves id query answer r)
    (hfound' : Found config moves id query answer' r') : answer' = answer ∧ r' = r := by
  have hcourse := h.course hin hquery hc
  generalize c.stage = stage at hcourse hstays
  cases hcourse with
  | locating hnone | asking hnone => exact absurd hfound (hnone answer r)
  | decided hcomes | replied _ hcomes | told hcomes => exact hcomes.unique hfound hfound'
  | gone => exact absurd rfl hstays

end Run

/-! ### What is counted -/

/-- The query of a client was counted in some way when the client got its reply. -/
def Recorded (moves : List Move) (id : CallerId) (r : Resolution) : Prop :=
  ∃ m ∈ moves, m.event = .reply id ∧ ∃ nanos, m.after.stats = m.before.stats.record r nanos

/-- Where a client came from who has octets as reply, or none: it had them before, it handed in what
is no query, or it has just got them and the query was counted. -/
theorem Effect.replied_after {s s' : State} {e : Event} (h : Effect s e s') {id : CallerId}
    {c : Client} (hc : s'.clients.find? id = some c) {reply : Option (List UInt8)} {r : Resolution}
    (hstage : c.stage = .replied reply r) :
    s.clients.find? id = some c ∨ (∃ input, e.input? = some (id, input)) ∨
      e = .reply id ∧ ∃ nanos, s'.stats = s.stats.record r nanos := by
  have hset {i : CallerId} {d : Client} {stage : Stage} {t : State} (ht : t.clients = s.clients)
      (hne : stage ≠ .replied reply r) (hc : (t.setClient i d stage).clients.find? id = some c) :
      s.clients.find? id = some c := by
    rcases Table.find?_insert_eq_some.mp hc with ⟨-, rfl⟩ | ⟨-, hc⟩
    · exact absurd hstage hne
    · exact ht ▸ hc
  cases h with
  | malformed =>
    rcases Table.find?_insert_eq_some.mp hc with ⟨rfl, -⟩ | ⟨-, hc⟩
    · exact .inr (.inl ⟨.octets _ _, rfl⟩)
    · exact .inl hc
  | enroll hinput =>
    rcases Table.find?_insert_eq_some.mp hc with ⟨rfl, -⟩ | ⟨-, hc⟩
    · exact .inr (.inl ⟨_, hinput⟩)
    · exact .inl hc
  | reply =>
    rcases Table.find?_insert_eq_some.mp hc with ⟨rfl, rfl⟩ | ⟨-, hc⟩
    · cases hstage
      exact .inr (.inr ⟨rfl, _, rfl⟩)
    · exact .inl hc
  | ask | decideAnswer | decideError | giveUp | tell | leave =>
    exact .inl (hset rfl (by simp) hc)
  | _ => exact .inl hc

/-- **Whoever has a reply was counted.** -/
theorem Run.recorded {config : Config} {fetchTimeout : Nat} {moves : List Move} {s : State}
    (h : Run config fetchTimeout moves s) {id : CallerId} {input : Input}
    (hin : HandedIn moves id input) {query : Dns.Message} (hquery : input.decode = .ok query)
    {c : Client} (hc : s.clients.find? id = some c) {reply : Option (List UInt8)} {r : Resolution}
    (hstage : c.stage = .replied reply r) : Recorded moves id r := by
  induction h generalizing c with
  | start => simp [State.start] at hc
  | move m run ih =>
    rcases m.effect.replied_after hc hstage with hbefore | ⟨input', hinput⟩ | ⟨hevent, hcounted⟩
    · rcases HandedIn.cons.mp hin with hinput | hin
      · rw [(m.effect.client_of_input hinput).1] at hbefore
        cases hbefore
      · obtain ⟨m', hm', hrest⟩ := ih hin hbefore hstage
        exact ⟨m', List.mem_cons_of_mem _ hm', hrest⟩
    · obtain ⟨fresh, hafter⟩ := m.effect.client_of_input hinput
      rcases HandedIn.cons.mp hin with hinput' | hin
      · -- a query begins at a stage before the reply
        rw [hinput] at hinput'
        cases hinput'
        obtain rfl := Option.some.inj (hc.symm.trans hafter)
        simp only [State.entryStage, hquery, State.firstStage] at hstage
        split at hstage
        · cases hstage
        · split at hstage <;> cases hstage
      · obtain ⟨before, hbefore, -⟩ := (Sound.of_run run).clients id input hin
        rw [fresh] at hbefore
        cases hbefore
    · exact ⟨m, List.mem_cons_self, hevent, hcounted⟩

/-! ### Replies -/

/-- A reply is made of an answer: of all of it, or of its short form where there is no room. -/
inductive Delivers (limit : Nat) (answer : Dns.Message) : Option (List UInt8) → Prop
  /-- All of it is told. -/
  | full {octets : List UInt8} (hfull : answer.encode = .ok octets) (hle : octets.length ≤ limit) :
      Delivers limit answer (some octets)
  /-- It is too long. -/
  | short {octets short : List UInt8} (hfull : answer.encode = .ok octets)
      (hlt : limit < octets.length) (hshort : answer.shortened.encode = .ok short) :
      Delivers limit answer (some short)

/-- A reply says that there is no answer to a query, or that cannot be said either. -/
inductive Refuses (query : Dns.Message) : Option (List UInt8) → Prop
  /-- It says so. -/
  | full {octets : List UInt8} (hfull : query.servFailFor.encode = .ok octets) :
      Refuses query (some octets)
  /-- It says so in the short form. -/
  | short {octets : List UInt8} (hshort : query.servFailFor.shortened.encode = .ok octets) :
      Refuses query (some octets)
  /-- There is no reply. -/
  | none {fault : Dns.Fault} (hnone : query.servFailFor.encode = .error fault) : Refuses query none

/-- A reply is made of an answer that has octets. -/
theorem delivers_replyBytes {carrier : Carrier} {query answer : Dns.Message} {octets : List UInt8}
    (h : answer.encode = .ok octets) :
    Delivers (carrier.limit query) answer (State.replyBytes carrier query answer) := by
  unfold State.replyBytes Dns.Message.encodeWithin
  rw [h]
  dsimp only
  by_cases hle : octets.length ≤ carrier.limit query
  · rw [if_pos hle]
    exact .full h hle
  · rw [if_neg hle]
    obtain ⟨short, hshort⟩ := Dns.Message.exists_encode_shortened h
    rw [hshort]
    exact .short h (Nat.lt_of_not_le hle) hshort

/-- No reply is made of an answer that has none. -/
theorem not_delivers_of_error {limit : Nat} {answer : Dns.Message} {fault : Dns.Fault}
    (h : answer.encode = .error fault) (reply : Option (List UInt8)) :
    ¬ Delivers limit answer reply := by
  intro hdelivers
  cases hdelivers with
  | full hfull | short hfull =>
    rw [h] at hfull
    cases hfull

/-- In the place of an answer that has no octets, the query is refused. -/
theorem refuses_replyBytes_of_error {carrier : Carrier} {query answer : Dns.Message}
    {fault : Dns.Fault} (h : answer.encode = .error fault) :
    Refuses query (State.replyBytes carrier query answer) := by
  unfold State.replyBytes
  rw [Dns.Message.encodeWithin_of_error h]
  dsimp only
  cases hrefusal : query.servFailFor.encode with
  | error fault' => exact .none hrefusal
  | ok octets => exact .full hrefusal

/-- A query for which nothing was found is refused. -/
theorem refuses_replyBytes (carrier : Carrier) (query : Dns.Message) :
    Refuses query (State.replyBytes carrier query query.servFailFor) := by
  cases hrefusal : query.servFailFor.encode with
  | error fault => exact refuses_replyBytes_of_error hrefusal
  | ok octets =>
    have hdelivers : Delivers (carrier.limit query) query.servFailFor
        (State.replyBytes carrier query query.servFailFor) := delivers_replyBytes hrefusal
    generalize State.replyBytes carrier query query.servFailFor = reply at hdelivers
    cases hdelivers with
    | full hfull => exact .full hfull
    | short _ _ hshort => exact .short hshort

/-! ### Answers that are lost -/

section

variable (config : Config) (moves : List Move) (id : CallerId) (query : Dns.Message)

/-- A client is refused: the reply says that there is no answer, and is made of none that was found.
-/
def Refused (carrier : Carrier) (reply : Option (List UInt8)) : Prop :=
  Refuses query reply ∧
    ∀ answer r, Found config moves id query answer r → ¬ Delivers (carrier.limit query) answer reply

/-- An answer was found for a client that cannot be written. -/
def Lost : Prop :=
  ∃ answer r fault, Found config moves id query answer r ∧ answer.encode = .error fault

end

/-- What the endpoint sends as a message can be written. -/
theorem writable_of_readAnswer {config : Config} {question : Dns.Question} {body : List UInt8}
    {message : Dns.Message} (h : Inquiry.readAnswer config question body = .ok message) :
    config.convention = .json ∨ message.Writable := by
  unfold Inquiry.readAnswer at h
  split at h
  case h_1 =>
    unfold Wire.answer at h
    split at h
    case h_1 hread =>
      cases h
      exact .inr (Dns.Message.writable_of_decode hread)
    case h_2 => cases h
  case h_2 hjson => exact .inl hjson

/-- The answers that a client is told are made of messages of the endpoint. -/
theorem Run.obtained_of_tells {config : Config} {fetchTimeout : Nat} {moves : List Move} {s : State}
    (h : Run config fetchTimeout moves s) {m : Move} (hm : m ∈ moves) {id : CallerId}
    {answer : Dns.Message} {outcome : Cache.Outcome}
    (htells : Tells m.before m.event id answer outcome) : Obtained config moves answer := by
  obtain ⟨earlier, hsuffix, hrun⟩ := h.exists_before hm
  obtain ⟨-, d, hd, hphase⟩ := htells
  obtain ⟨message, other, ⟨m', hm', hsent⟩, hanswer⟩ :=
    (Sound.of_run hrun).cache.callers id d answer outcome hd hphase
  exact ⟨message, other, ⟨m', hsuffix.subset hm', hsent⟩, hanswer⟩

/-- **An answer is lost only if it is made of a document with a name or a text that is too long.**
-/
theorem Lost.of_document {config : Config} {fetchTimeout : Nat} {moves : List Move} {s : State}
    (h : Run config fetchTimeout moves s) {id : CallerId} {query : Dns.Message}
    (hfits : ∀ q ∈ query.questions, q.name.Fits) (hlost : Lost config moves id query) :
    config.convention = .json ∧ ∃ message, Sent config moves message ∧ ¬ message.Writable := by
  obtain ⟨answer, r, fault, hfound, herror⟩ := hlost
  have hfew {question : Dns.Question} (hquestion : query.question = .ok question) :
      query.questions.length ≤ 252 := by
    rw [Dns.Message.questions_of_question hquestion]
    exact (by decide : 1 ≤ 252)
  cases hfound with
  | policy hquestion =>
    obtain ⟨octets, hoctets⟩ :=
      (Dns.Message.isBare_replyTo query .noError).exists_encode hfits (hfew hquestion)
    exact absurd (herror.symm.trans hoctets) nofun
  | told admitted hm htells =>
    obtain ⟨message, other, hsent, rfl⟩ := h.obtained_of_tells hm htells
    have hunwritable : ¬ message.Writable := by
      intro hwritable
      -- fitted to queries, the message has the records that it had
      have hwritable' : ((message.answering other).answering query).Writable := hwritable
      obtain ⟨octets, hoctets⟩ := hwritable'.exists_encode hfits (hfew admitted.single)
      exact absurd (herror.symm.trans hoctets) nofun
    have hsent' := hsent
    obtain ⟨m, -, id', response, question, -, -, hread⟩ := hsent'
    exact ⟨(writable_of_readAnswer hread).resolve_right hunwritable, message, hsent, hunwritable⟩

/-! ### Failures -/

/-- **A query is counted as failed just when it is refused and no answer to it was lost.**  A client
who handed in a query and has its reply was counted.  If its query was not counted as failed, then
one answer was found for the client, in the way that was counted, and the reply is made of that,
unless the answer cannot be written: the query is refused then.  The answer is made in this case of
a document that the endpoint sent, with a name or a text that is too long. -/
theorem failed_iff_refused {config : Config} {fetchTimeout : Nat} {moves : List Move} {s : State}
    (h : Run config fetchTimeout moves s) {id : CallerId} {carrier : Carrier} {bytes : List UInt8}
    (hin : HandedIn moves id (.octets carrier bytes)) {query : Dns.Message}
    (hquery : Dns.Message.decode bytes = .ok query) {c : Client}
    (hc : s.clients.find? id = some c) {reply : Option (List UInt8)} {resolution : Resolution}
    (hreplied : c.stage = .replied reply resolution) :
    Recorded moves id resolution ∧
    (resolution = .failed ↔
      Refused config moves id query carrier reply ∧ ¬ Lost config moves id query) ∧
    (resolution ≠ .failed → ∃ answer, Found config moves id query answer resolution ∧
      (∀ a r, Found config moves id query a r → a = answer ∧ r = resolution) ∧
      (Delivers (carrier.limit query) answer reply ∨
        Lost config moves id query ∧ Refused config moves id query carrier reply)) ∧
    (Lost config moves id query → config.convention = .json ∧
      ∃ message, Sent config moves message ∧ ¬ message.Writable) := by
  have hcourse := h.course hin hquery hc
  have hcarrier : c.carrier = some carrier := (h.story hin hc).1
  rw [hreplied] at hcourse
  refine ⟨h.recorded hin hquery hc hreplied, ?_⟩
  have hlost : Lost config moves id query → config.convention = .json ∧
      ∃ message, Sent config moves message ∧ ¬ message.Writable :=
    Lost.of_document h (Dns.Message.legible_of_decode hquery).questions
  cases hcourse with
  | @replied carrier' answer _ hcarrier' hcomes =>
    obtain rfl : carrier = carrier' := Option.some.inj (hcarrier.symm.trans hcarrier')
    cases hcomes with
    | nothing hnone =>
      have hrefused : Refused config moves id query carrier
          (State.replyBytes carrier query query.servFailFor) :=
        ⟨refuses_replyBytes carrier query, fun a r hfound => absurd hfound (hnone a r)⟩
      have hkept : ¬ Lost config moves id query := fun ⟨a, r, _, hfound, _⟩ => hnone a r hfound
      exact ⟨iff_of_true rfl ⟨hrefused, hkept⟩, fun hne => absurd rfl hne, hlost⟩
    | answer hfound hone hne =>
      cases hwritten : answer.encode with
      | ok octets =>
        have hdelivers : Delivers (carrier.limit query) answer
            (State.replyBytes carrier query answer) := delivers_replyBytes hwritten
        exact ⟨iff_of_false hne fun ⟨hrefused, _⟩ => hrefused.2 answer _ hfound hdelivers,
          fun _ => ⟨answer, hfound, hone, .inl hdelivers⟩, hlost⟩
      | error fault =>
        have hislost : Lost config moves id query := ⟨answer, _, fault, hfound, hwritten⟩
        have hrefused : Refused config moves id query carrier
            (State.replyBytes carrier query answer) := by
          refine ⟨refuses_replyBytes_of_error hwritten, fun a r hfound' => ?_⟩
          obtain ⟨rfl, -⟩ := hone a r hfound'
          exact not_delivers_of_error hwritten _
        exact ⟨iff_of_false hne fun ⟨_, hkept⟩ => hkept hislost,
          fun _ => ⟨answer, hfound, hone, .inr ⟨hislost, hrefused⟩⟩, hlost⟩

/-- A client whom the endpoint answers gets a reply that is made of the answer, and is counted so.
-/
theorem failed_iff_refused_badVersion : ∃ moves s query answer,
    Run posting 5000 moves s ∧ HandedIn moves 0 (.octets .datagram rootQuery) ∧
      Dns.Message.decode rootQuery = .ok query ∧
      s.clients.find? 0 = some ⟨some .datagram, 0, .replied (some lostReply) .forwarded⟩ ∧
      Recorded moves 0 .forwarded ∧ Found posting moves 0 query answer .forwarded ∧
      Delivers (Carrier.limit query .datagram) answer (some lostReply) := by
  obtain ⟨moves, s, hrun, hin, hc, -⟩ := exists_run_badVersion
  obtain ⟨hrecorded, -, hanswered, hlost⟩ := failed_iff_refused hrun hin decode_rootQuery hc rfl
  obtain ⟨answer, hfound, -, hdelivers | ⟨hislost, -⟩⟩ := hanswered nofun
  · exact ⟨moves, s, _, answer, hrun, hin, decode_rootQuery, hc, hrecorded, hfound, hdelivers⟩
  · -- the endpoint sends no documents
    cases (hlost hislost).1

/-! ### A text that is too long -/

/-- A relay that takes documents. -/
def documenting : Config := { Config.default with convention := .json }

/-- A question about texts at the root. -/
def textQuestion : Dns.Question := ⟨.root, .txt, Dns.classIn⟩

/-- A query that asks it. -/
def textQuery : List UInt8 := [0, 1, 1, 0, 0, 1, 0, 0, 0, 0, 0, 0, 0, 0, 16, 0, 1]

/-- The reply that says there is no answer. -/
def textRefusal : List UInt8 := [0, 1, 0x81, 0x82, 0, 1, 0, 0, 0, 0, 0, 0, 0, 0, 16, 0, 1]

/-- What the query says. -/
def textAsked : Dns.Message :=
  { Dns.Message.empty with id := 1, recursionDesired := true, questions := [textQuestion] }

/-- A document with one record, whose data is a text of so many letters. -/
def textDocument (n : Nat) : List UInt8 :=
  Text.utf8 ("\x7b\"Status\":0,\"Answer\":[\x7b\"name\":\".\",\"type\":16,\"data\":\"".toList ++
    List.replicate n 'a' ++ "\"\x7d]\x7d".toList)

/-- The message that is made of it. -/
def textAnswer (n : Nat) : Dns.Message :=
  { Dns.Message.empty with
    response := true
    questions := [textQuestion]
    answers := [⟨.root, .txt, Dns.classIn, 0, some (.txt [List.replicate n 0x61])⟩] }

/-- A client asks for texts, and the endpoint sends a document with one that is too long. -/
def textEvents : List Event :=
  [.arrive 0 .datagram textQuery, .ask 0, .cache (.look 0), .cache (.enter 0), .send 0,
    .respond 0 (.ok ⟨200, textDocument 256⟩), .cache (.store 0), .cache (.release 0),
    .cache (.take 0)]

theorem decode_textQuery : Dns.Message.decode textQuery = .ok textAsked :=
  have hfits : ∀ q ∈ textAsked.questions, q.name.Fits := by
    intro q hq
    cases List.mem_singleton.mp hq
    exact (by decide : Dns.Name.length .root < Dns.Name.maxLength)
  Dns.Message.IsBare.decode_encode ⟨rfl, rfl, rfl, rfl⟩ hfits rfl

/-- What the document says. -/
def textSaid (n : Nat) : Resolve.Answer :=
  { Resolve.Answer.layout.blank with answers := [⟨['.'], 16, 0, List.replicate n 'a'⟩] }

theorem answer_of_textSaid {n : Nat}
    (hparse : Resolve.Answer.parse (textDocument n) = .ok (textSaid n))
    (hrecords : Resolve.readRecords (textSaid n).answers = .ok (textAnswer n).answers)
    (question : Dns.Question) :
    Resolve.answer (textDocument n) question =
      .ok { textAnswer n with questions := [question] } := by
  rw [Resolve.answer, hparse]
  simp only [Resolve.Answer.toMessage]
  rw [hrecords]
  rfl

theorem answer_textDocument (question : Dns.Question) :
    Resolve.answer (textDocument 256) question =
      .ok { textAnswer 256 with questions := [question] } := by
  have hparse : (Resolve.Answer.parse (textDocument 256)).toOption = some (textSaid 256) := by
    decide +kernel
  have hrecords : (Resolve.readRecords (textSaid 256).answers).toOption =
      some (textAnswer 256).answers := by decide +kernel
  exact answer_of_textSaid (eq_ok_of_toOption hparse) (eq_ok_of_toOption hrecords) question

/-- The text is refused by the writer. -/
theorem encode_textAnswer :
    ((textAnswer 256).answering textAsked).encode = .error (.textTooLong 256) := by
  decide +kernel

/-- These events make a run, in which the client is told the answer and gets a refusal. -/
theorem exists_run_text : ∃ moves s,
    Run documenting 5000 moves s ∧ HandedIn moves 0 (.octets .datagram textQuery) ∧
      s.clients.find? 0 = some ⟨some .datagram, 0, .replied (some textRefusal) .forwarded⟩ ∧
      Found documenting moves 0 textAsked ((textAnswer 256).answering textAsked) .forwarded ∧
      s.stats.forwarded = 1 ∧ s.stats.failed = 0 := by
  have hrefusal : State.replyBytes .datagram textAsked ((textAnswer 256).answering textAsked) =
      some textRefusal := by
    rw [State.replyBytes, Dns.Message.encodeWithin_of_error encode_textAnswer]
    rfl
  have hplay : ∃ s₁ s₂ s₃ d, (State.start documenting 5000).play textEvents = some s₁ ∧
      s₁.step (.decide 0) = some s₂ ∧ s₂.step (.reply 0) = some s₃ ∧
      s₁.cache.callers.find? 0 = some d ∧
      d.phase = .answered ((textAnswer 256).answering textAsked) .fetched ∧
      s₃.clients.find? 0 = some ⟨some .datagram, 0, .replied (some textRefusal) .forwarded⟩ ∧
      s₃.stats.forwarded = 1 ∧ s₃.stats.failed = 0 := by
    rw [← hrefusal]
    simp only [textEvents, State.play, State.step, State.arrive, decode_textQuery, State.respond,
      Except.bind, Inquiry.conclude, Inquiry.readAnswer, answer_textDocument]
    exact ⟨_, _, _, _, rfl, rfl, rfl, rfl, rfl, rfl, rfl, rfl⟩
  obtain ⟨s₁, s₂, s₃, d, hplay, hdecide, hreply, hd, hphase, hc, hcounts⟩ := hplay
  obtain ⟨moves, hrun, hmap⟩ := Run.of_play hplay
  let told : Move := ⟨.decide 0, s₁, s₂, hdecide⟩
  let last : Move := ⟨.reply 0, s₂, s₃, hreply⟩
  have hin : HandedIn moves 0 (.octets .datagram textQuery) :=
    .of_play hmap List.mem_cons_self rfl
  have hfound : Found documenting (told :: moves) 0 textAsked
      ((textAnswer 256).answering textAsked) .forwarded :=
    .told ⟨rfl, rfl⟩ List.mem_cons_self ⟨rfl, d, hd, hphase⟩
  have hall : Run documenting 5000 (last :: told :: moves) s₃ := .move last (.move told hrun)
  exact ⟨last :: told :: moves, s₃, hall, HandedIn.cons.mpr (.inr (HandedIn.cons.mpr (.inr hin))),
    hc, hfound.cons last, hcounts⟩

/-- **A query may be refused and counted as answered**: the endpoint sends a document with a text of
256 letters, which is accepted, told to the client and cannot be written. -/
theorem refused_and_forwarded : ∃ moves s,
    Run documenting 5000 moves s ∧ HandedIn moves 0 (.octets .datagram textQuery) ∧
      Dns.Message.decode textQuery = .ok textAsked ∧
      s.clients.find? 0 = some ⟨some .datagram, 0, .replied (some textRefusal) .forwarded⟩ ∧
      Recorded moves 0 .forwarded ∧ s.stats.forwarded = 1 ∧ s.stats.failed = 0 ∧
      Refused documenting moves 0 textAsked .datagram (some textRefusal) := by
  obtain ⟨moves, s, hrun, hin, hc, hfound, hforwarded, hfailed⟩ := exists_run_text
  have hrefused : Refused documenting moves 0 textAsked .datagram (some textRefusal) := by
    refine ⟨.full rfl, fun answer r hother => ?_⟩
    obtain ⟨rfl, -⟩ := hrun.found_unique hin decode_textQuery hc nofun hfound hother
    exact not_delivers_of_error encode_textAnswer _
  exact ⟨moves, s, hrun, hin, decode_textQuery, hc, hrun.recorded hin decode_textQuery hc rfl,
    hforwarded, hfailed, hrefused⟩

end Service

end DohRelay
