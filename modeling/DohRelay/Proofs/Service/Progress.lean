import DohRelay.Proofs.Cache.Departure
import DohRelay.Proofs.Exchange.Outgoing
import DohRelay.Proofs.Service.Answers
import DohRelay.Proofs.Subnet.Turns

/-!
# Every client can get a reply

Whatever others do, and whatever the endpoint does, a client who has not gone away is never stuck.
It waits for the detection of the network, where the caller whose turn it is can always bring the
turn to an end; it gets on in the cache, or it waits there for a fetch, which it need not do longer
than it is told to wait; and then there is something to reply.  But where the cache is switched off,
the client makes the request for its query, and may die of it.

## Main definitions

* `Cache.CallerPhase.rank` — how far a caller of the cache is from an end or from a fetch.
* `Placed`, `Live` — the clients are where they can get on.
* `State.Survives`, `Endangered` — nobody dies of a request, and a client may.
* `Event.furthers`, `State.CanReply` — what brings a client to a reply, and that it can be brought
  there in time.

## Main results

* `Cache.exists_callerEvent` — a caller who can do something gets on by it.
* `Live.of_run` — **in every run the clients are where they can get on.**
* `State.exists_step_deathEvent` — an errand that is doomed can die.
* `Live.canReply` — **every client who has not gone away, and may not die, can get a reply in
  time.**
-/

namespace DohRelay

namespace Cache

/-! ### Callers get on -/

/-- How many events a caller is at most from an end or from waiting for a fetch. -/
def CallerPhase.rank : CallerPhase → Nat
  | .arrived => 4
  | .dropping _ => 3
  | .entering => 2
  | .waiting _ _ => 1
  | _ => 0

/-- A caller did neither go away nor do without an answer. -/
def CallerPhase.isHopeful : CallerPhase → Bool
  | .missed | .gone => false
  | _ => true

/-- A fetch that is resolved has something for whoever waits for it. -/
theorem exists_take {s : State} {id fetch : CallerId} {c : Caller} {outcome : Outcome}
    (hc : s.callers.find? id = some c) (hphase : c.phase = .waiting fetch outcome)
    (hresolved : s.isResolved fetch = true) (now : Nat) :
    ∃ p, Effect now s (.take id) (s.setCaller id c p) ∧ p.rank = 0 ∧ p.isHopeful = true := by
  unfold State.isResolved at hresolved
  cases hf : s.fetches.find? fetch with
  | none =>
    rw [hf] at hresolved
    cases hresolved
  | some f =>
    rw [hf, Option.map_some] at hresolved
    split at hresolved
    case h_1 result hresult =>
      have hreleased : f.phase = .released result := Option.some.inj hresult
      cases result with
      | ok answer => exact ⟨_, .takeAnswer hc hphase hf hreleased, rfl, rfl⟩
      | error fault => exact ⟨_, .takeError hc hphase hf (.inl hreleased), rfl, rfl⟩
    case h_2 hcrashed =>
      exact ⟨_, .takeError hc hphase hf (.inr ⟨Option.some.inj hcrashed, rfl⟩), rfl, rfl⟩
    case h_3 => cases hresolved

/-- A caller who wants an answer in any case and can do something gets on by it. -/
theorem exists_callerEvent {s : State} {id : CallerId} {c : Caller} {e : Event}
    (hc : s.callers.find? id = some c) (hwant : c.want = .fetched)
    (hevent : s.callerEvent? id = some e) (now : Nat) :
    e.caller? = some id ∧ ∃ t p, s.step now e = some t ∧
      t.callers.find? id = some { c with phase := p } ∧ p.rank < c.phase.rank ∧
        p.isHopeful = true := by
  -- whatever the event makes of the cache, the caller has come to a phase of lower rank
  have hset {t : State} {p : CallerPhase} (heffect : Effect now s e (t.setCaller id c p))
      (hrank : p.rank < c.phase.rank) (hhopeful : p.isHopeful = true) :
      ∃ t p, s.step now e = some t ∧ t.callers.find? id = some { c with phase := p } ∧
        p.rank < c.phase.rank ∧ p.isHopeful = true :=
    ⟨_, p, step_of_effect heffect, Table.find?_insert_self .., hrank, hhopeful⟩
  have hmiss : State.missPhase c.want = .entering := by rw [hwant]; rfl
  unfold State.callerEvent? at hevent
  rw [hc] at hevent
  cases hphase : c.phase with
  | arrived =>
    simp only [Option.map_some, hphase] at hevent hset ⊢
    cases hevent
    refine ⟨rfl, ?_⟩
    cases hon : s.enabled with
    | false => exact hset (.bypass hc hphase hon hwant) (by decide : 1 < 4) rfl
    | true =>
      cases hentry : s.entries.find? c.key with
      | none => exact hset (.miss hc hphase hon hentry) (by rw [hmiss]; decide) (by rw [hmiss]; rfl)
      | some entry =>
        by_cases hholds : now < entry.expiresAt
        · exact hset (.hit hc hphase hon hentry hholds) (Nat.zero_lt_succ _) rfl
        · exact hset (.stale hc hphase hon hentry (Nat.le_of_not_lt hholds))
            (Nat.lt_succ_self _) rfl
  | dropping seenAt =>
    simp only [Option.map_some, hphase] at hevent hset ⊢
    cases hevent
    exact ⟨rfl, hset (.drop hc hphase) (by rw [hmiss]; exact Nat.lt_succ_self _)
      (by rw [hmiss]; rfl)⟩
  | entering =>
    simp only [Option.map_some, hphase] at hevent hset ⊢
    cases hevent
    refine ⟨rfl, ?_⟩
    cases hmarker : s.markers.find? c.key with
    | some fetch => exact hset (.join hc hphase hmarker) (Nat.lt_succ_self _) rfl
    | none =>
      by_cases hholds : ∃ entry, s.entries.find? c.key = some entry ∧ now < entry.expiresAt
      · obtain ⟨entry, hentry, hholds⟩ := hholds
        exact hset (.lateHit hc hphase hmarker hentry hholds) (Nat.zero_lt_succ _) rfl
      · have hended : ∀ entry, s.entries.find? c.key = some entry → entry.expiresAt ≤ now :=
          fun entry hentry => Nat.le_of_not_lt fun h => hholds ⟨entry, hentry, h⟩
        exact hset (.start hc hphase hmarker hended) (Nat.lt_succ_self _) rfl
  | waiting fetch outcome =>
    simp only [Option.map_some, hphase] at hevent hset ⊢
    split at hevent
    case isFalse => cases hevent
    case isTrue hresolved =>
      cases hevent
      obtain ⟨p, heffect, hrank, hhopeful⟩ := exists_take hc hphase hresolved now
      exact ⟨rfl, hset heffect (hrank ▸ Nat.zero_lt_one) hhopeful⟩
  | _ =>
    rw [Option.map_some, hphase] at hevent
    cases hevent

/-- There is a caller who wants an answer in any case, and may get one. -/
def State.Hopes (s : State) (id : CallerId) : Prop :=
  ∃ c, s.callers.find? id = some c ∧ c.want = .fetched ∧ c.phase.isHopeful = true

/-- Only by going away does a caller lose hope who wants an answer in any case. -/
theorem Effect.hopes {now : Nat} {s s' : State} {e : Event} (he : Effect now s e s')
    {id : CallerId} (h : s.Hopes id) (hne : e ≠ .leave id) : s'.Hopes id := by
  obtain ⟨c, hc, hwant, hhopeful⟩ := h
  have hset {i : CallerId} {d : Caller} {p : CallerPhase} {t : State}
      (hd : s.callers.find? i = some d) (ht : t.callers = s.callers)
      (hp : i = id → d.want = .fetched → p.isHopeful = true) : (t.setCaller i d p).Hopes id := by
    rw [State.Hopes, State.find?_callers_setCaller, ht]
    split
    case isTrue hi =>
      subst hi
      rw [hc, Option.some.injEq] at hd
      subst hd
      exact ⟨_, rfl, hwant, hp rfl hwant⟩
    case isFalse => exact ⟨c, hc, hwant, hhopeful⟩
  have hmiss {d : Caller} (hd : d.want = .fetched) :
      (State.missPhase d.want).isHopeful = true := by
    rw [hd]
    rfl
  cases he with
  | @arrive i _ _ fresh =>
    have hi : id ≠ i := by
      rintro rfl
      rw [fresh] at hc
      cases hc
    exact ⟨c, (Table.find?_insert_of_ne _ hi _).trans hc, hwant, hhopeful⟩
  | miss hd => exact hset hd rfl fun _ => hmiss
  | drop hd => exact hset hd rfl fun _ => hmiss
  | refuse hd _ _ hstored => exact hset hd rfl fun _ hfetched => by simp [hstored] at hfetched
  | leave hd | leaveOff hd => exact hset hd rfl fun hi => absurd (congrArg Event.leave hi) hne
  | hit hd | stale hd | bypass hd | join hd | lateHit hd | start hd | takeAnswer hd
  | takeError hd => exact hset hd rfl fun _ _ => rfl
  | _ => exact ⟨c, hc, hwant, hhopeful⟩

/-- A caller is there only after coming. -/
theorem Effect.find?_eq_none {now : Nat} {s s' : State} {e : Event} (he : Effect now s e s')
    {id : CallerId} (h : s.callers.find? id = none) (hne : ∀ key want, e ≠ .arrive id key want) :
    s'.callers.find? id = none := by
  have hset {i : CallerId} {d : Caller} {p : CallerPhase} {t : State}
      (hd : s.callers.find? i = some d) (ht : t.callers = s.callers) :
      (t.setCaller i d p).callers.find? id = none := by
    rw [State.find?_callers_setCaller, ht, h]
    refine if_neg fun hi => ?_
    rw [← hi, h] at hd
    cases hd
  cases he with
  | @arrive i key want =>
    have hi : id ≠ i := fun hi => hne key want (by rw [hi])
    exact (Table.find?_insert_of_ne _ hi _).trans h
  | hit hd | stale hd | miss hd | refuse hd | bypass hd | drop hd | join hd | lateHit hd | start hd
  | takeAnswer hd | takeError hd | leave hd | leaveOff hd => exact hset hd rfl
  | _ => exact h

end Cache

namespace Service

open Cache (CallerId)

/-! ### Where clients are -/

/-- A caller waits for the detection of the network. -/
def State.Waits (s : State) (id : CallerId) : Prop :=
  ∃ p, s.detection.callers.find? id = some p ∧ p ≠ .gone

/-- A client at some stage is where it can get on. -/
def Placed (s : State) (id : CallerId) : Stage → Prop
  | .locating _ _ => s.cache.callers.find? id = none ∧ (s.detects = true → s.Waits id)
  | .asking _ _ _ since => since ≤ s.now ∧ s.cache.Hopes id
  | _ => True

/-- The clients are where they can get on. -/
structure Live (s : State) : Prop where
  /-- Each is in its place. -/
  clients : ∀ id c, s.clients.find? id = some c → Placed s id c.stage
  /-- The cache knows nobody else. -/
  strangers : ∀ id, s.clients.find? id = none → s.cache.callers.find? id = none
  /-- The turn to look up is that of a caller who has it. -/
  turn : s.detection.Held

/-- What becomes of something is what it was, or what there is. -/
private theorem eq_or_eq_some_getD {α : Type} (o : Option α) (a : α) :
    o.getD a = a ∨ o = some (o.getD a) := by
  cases o with
  | none => exact .inl rfl
  | some b => exact .inr rfl

/-- What happens leaves somebody where it is. -/
structure Keeps (s t : State) (id : CallerId) : Prop where
  /-- Time does not go back. -/
  now : s.now ≤ t.now
  /-- The configuration is the same. -/
  config : t.config = s.config
  /-- A caller of the detection does not go away. -/
  waits : s.Waits id → t.Waits id
  /-- No caller of the cache comes. -/
  absent : s.cache.callers.find? id = none → t.cache.callers.find? id = none
  /-- A caller of the cache does not lose hope. -/
  hopes : s.cache.Hopes id → t.cache.Hopes id

namespace Keeps

variable {s t : State} {id : CallerId}

theorem of_eq (hnow : s.now ≤ t.now) (hconfig : t.config = s.config)
    (hdetection : t.detection = s.detection) (hcache : t.cache = s.cache) : Keeps s t id where
  now := hnow
  config := hconfig
  waits h := by rwa [State.Waits, hdetection]
  absent h := by rwa [hcache]
  hopes h := by rwa [hcache]

theorem of_cache {e : Cache.Event} (hnow : s.now ≤ t.now) (hconfig : t.config = s.config)
    (hdetection : t.detection = s.detection) (heffect : Cache.Effect s.now s.cache e t.cache)
    (harrive : ∀ key want, e ≠ .arrive id key want) (hleave : e ≠ .leave id) : Keeps s t id where
  now := hnow
  config := hconfig
  waits h := by rwa [State.Waits, hdetection]
  absent h := heffect.find?_eq_none h harrive
  hopes h := heffect.hopes h hleave

theorem of_detection {e : Subnet.DetectionEvent} (hnow : s.now ≤ t.now)
    (hconfig : t.config = s.config) (hcache : t.cache = s.cache)
    (hstep : s.detection.step s.now e = some t.detection) (hleave : e ≠ .leave id) :
    Keeps s t id where
  now := hnow
  config := hconfig
  waits h := by
    obtain ⟨p, hp, hgone⟩ := h
    exact Subnet.Detection.exists_of_step hstep hleave hp hgone
  absent h := by rwa [hcache]
  hopes h := by rwa [hcache]

theorem trans {u : State} (h : Keeps s t id) (h' : Keeps t u id) : Keeps s u id where
  now := Nat.le_trans h.now h'.now
  config := h'.config.trans h.config
  waits hwaits := h'.waits (h.waits hwaits)
  absent hnone := h'.absent (h.absent hnone)
  hopes hhopes := h'.hopes (h.hopes hhopes)

theorem placed (h : Keeps s t id) {stage : Stage} (hplaced : Placed s id stage) :
    Placed t id stage := by
  have hdetects : t.detects = s.detects := by rw [State.detects, h.config]; rfl
  cases stage with
  | locating => exact ⟨h.absent hplaced.1, fun hd => h.waits (hplaced.2 (hdetects ▸ hd))⟩
  | asking => exact ⟨Nat.le_trans hplaced.1 h.now, h.hopes hplaced.2⟩
  | _ => trivial

end Keeps

namespace Live

variable {s t : State} {id : CallerId}

theorem start (config : Config) (fetchTimeout : Nat) : Live (.start config fetchTimeout) where
  clients id c hc := by simp [State.start] at hc
  strangers _ _ := rfl
  turn id hid := by cases hid

/-- The clients stay at their stages. -/
theorem keep (h : Live s) (hclients : t.clients = s.clients) (hkeeps : ∀ i, Keeps s t i)
    (hturn : t.detection.Held) : Live t where
  clients i c hc := (hkeeps i).placed (h.clients i c (hclients ▸ hc))
  strangers i hi := (hkeeps i).absent (h.strangers i (hclients ▸ hi))
  turn := hturn

/-- One client comes to another stage, or comes at all. -/
theorem advance (h : Live s) {c : Client} (hclients : t.clients = s.clients.insert id c)
    (hkeeps : ∀ i, i ≠ id → Keeps s t i) (hplaced : Placed t id c.stage)
    (hturn : t.detection.Held) : Live t where
  clients i d hd := by
    rw [hclients] at hd
    rcases Table.find?_insert_eq_some.mp hd with ⟨rfl, rfl⟩ | ⟨hne, hd⟩
    · exact hplaced
    · exact (hkeeps i hne).placed (h.clients i d hd)
  strangers i hi := by
    rw [hclients, Table.find?_insert] at hi
    split at hi
    case isTrue => cases hi
    case isFalse hne => exact (hkeeps i hne).absent (h.strangers i hi)
  turn := hturn

/-- A query makes a client wait for the network to advertise, or has an answer at once. -/
theorem firstStage_cases (s : State) (query : Dns.Message) :
    (∃ question, s.firstStage query = .locating query question) ∨
      ∃ answer resolution, s.firstStage query = .decided query answer resolution := by
  unfold State.firstStage
  split
  case h_1 => exact .inr ⟨_, _, rfl⟩
  case h_2 question _ =>
    split
    case isTrue => exact .inr ⟨_, _, rfl⟩
    case isFalse => exact .inl ⟨question, rfl⟩

/-- A client who has come with a query begins at the first stage. -/
theorem step_of_input {e : Event} {input : Input} {query : Dns.Message}
    (hinput : e.input? = some (id, input)) (hquery : input.decode = .ok query) :
    s.step e = s.enroll id input.carrier? query := by
  cases e with
  | arrive =>
    cases hinput
    rw [Input.decode] at hquery
    simp only [State.step, State.arrive, hquery]
    rfl
  | submit =>
    cases hinput
    cases hquery
    rfl
  | _ => cases hinput

/-- A client who has to be told the network waits for its detection where there is one. -/
theorem waits_of_enroll {carrier : Option Carrier} {query q : Dns.Message} {question : Dns.Question}
    (henroll : s.enroll id carrier query = some t)
    (hstage : s.firstStage query = .locating q question) (hdetects : s.detects = true) :
    t.Waits id := by
  unfold State.enroll at henroll
  split at henroll
  case h_1 => cases henroll
  case h_2 =>
    simp only [hstage] at henroll
    split at henroll
    case isFalse hnot => exact absurd hdetects hnot
    obtain ⟨detection, harrive, rfl⟩ := Option.map_eq_some_iff.mp henroll
    unfold Subnet.Detection.arrive at harrive
    split at harrive
    case h_1 => cases harrive
    case h_2 =>
      cases harrive
      exact ⟨.arrived, Table.find?_insert_self .., nofun⟩

/-- What can happen leaves the clients where they can get on. -/
theorem step (h : Live s) {e : Event} (hstep : s.step e = some t) : Live t := by
  have heffect := effect_of_step hstep
  cases heffect with
  | @malformed id carrier bytes fault =>
    exact h.advance rfl (fun i _ => .of_eq (Nat.le_refl _) rfl rfl rfl) trivial h.turn
  | @enroll e id input query detection hinput hquery fresh hdetection =>
    rw [step_of_input hinput hquery] at hstep
    refine h.advance rfl (fun i _ => ?_) ?_ ?_
    · rcases hdetection with rfl | ⟨-, -, harrive⟩
      · exact .of_eq (Nat.le_refl _) rfl rfl rfl
      · exact .of_detection (e := .arrive id) (Nat.le_refl _) rfl rfl harrive nofun
    · rcases firstStage_cases s query with ⟨question, hstage⟩ | ⟨answer, resolution, hstage⟩
      · exact (congrArg (Placed _ id) hstage).mpr
          ⟨h.strangers id fresh, fun hdetects => waits_of_enroll hstep hstage hdetects⟩
      · exact (congrArg (Placed _ id) hstage).mpr trivial
    · rcases hdetection with rfl | ⟨-, -, harrive⟩
      · exact h.turn
      · exact h.turn.step s.now (e := .arrive id) harrive
  | @detect e detection own hdetection =>
    refine h.keep rfl (fun i => .of_detection (Nat.le_refl _) rfl rfl hdetection ?_)
      (h.turn.step s.now hdetection)
    rintro rfl
    cases own
  | @ask id c query question subnet cache hc hstage hsubnet hcache =>
    have harrive : Cache.Effect s.now s.cache
        (.arrive id (.ofQuery query question subnet) .fetched) cache :=
      Cache.effect_of_step hcache
    refine h.advance rfl (fun i hi => ?_) ⟨Nat.le_refl _, ?_⟩ h.turn
    · refine .of_cache (Nat.le_refl _) rfl rfl harrive ?_ nofun
      rintro key want ⟨⟩
      exact hi rfl
    · change cache.Hopes id
      cases harrive with
      | arrive => exact ⟨_, Table.find?_insert_self .., rfl, rfl⟩
  | @cache e cache own hcache =>
    refine h.keep rfl (fun i => .of_cache (Nat.le_refl _) rfl rfl (Cache.effect_of_step hcache)
      ?_ ?_) h.turn
    · rintro key want rfl
      cases own
    · rintro rfl
      cases own
  | decideAnswer | decideError =>
    exact h.advance rfl (fun i _ => .of_eq (Nat.le_refl _) rfl rfl rfl) trivial h.turn
  | @giveUp id c query question subnet since cache hc hstage hlate hidle hcache =>
    refine h.advance rfl (fun i hi => ?_) trivial h.turn
    exact .of_cache (Nat.le_refl _) rfl rfl (Cache.effect_of_step (e := .leave id) hcache) nofun
      fun heq => hi (Cache.Event.leave.inj heq).symm
  | reply | tell =>
    exact h.advance rfl (fun i _ => .of_eq (Nat.le_refl _) rfl rfl rfl) trivial h.turn
  | @leave id c hc hover =>
    -- the client goes away from the detection and from the cache, if it is there
    have hdetection := eq_or_eq_some_getD (s.detection.leave id) s.detection
    have hcache := eq_or_eq_some_getD (s.cache.leave id) s.cache
    refine h.advance rfl (fun i hi => ?_) trivial ?_
    · let mid := { s with detection := (s.detection.leave id).getD s.detection }
      have hmid : Keeps s mid i := by
        rcases hdetection with hsame | hleave
        · exact .of_eq (Nat.le_refl _) rfl hsame rfl
        · exact .of_detection (e := .leave id) (Nat.le_refl _) rfl rfl hleave
            fun heq => hi (Subnet.DetectionEvent.leave.inj heq).symm
      refine hmid.trans ?_
      rcases hcache with hsame | hleave
      · exact .of_eq (Nat.le_refl _) rfl rfl hsame
      · exact .of_cache (Nat.le_refl _) rfl rfl (Cache.effect_of_step (e := .leave id) hleave) nofun
          fun heq => hi (Cache.Event.leave.inj heq).symm
    · rcases hdetection with hsame | hleave
      · exact hsame.symm ▸ h.turn
      · exact h.turn.step s.now (e := .leave id) hleave
  | send => exact h.keep rfl (fun i => .of_eq (Nat.le_refl _) rfl rfl rfl) h.turn
  | @finish e id errand result cache herrand hfinishes hcache =>
    exact h.keep rfl (fun i => .of_cache (Nat.le_refl _) rfl rfl
      (Cache.effect_of_step (e := .complete id result) hcache) nofun nofun) h.turn
  | tick millis => exact h.keep rfl (fun i => .of_eq (Nat.le_add_right _ _) rfl rfl rfl) h.turn

end Live

/-- **In every run the clients are where they can get on.** -/
theorem Live.of_run {config : Config} {fetchTimeout : Nat} {moves : List Move} {s : State}
    (h : Run config fetchTimeout moves s) : Live s := by
  induction h with
  | start => exact .start config fetchTimeout
  | move m _ ih => exact ih.step m.happens

/-! ### Replies -/

/-- An event brings a client on that nobody else has to do anything for: it is the client's own, or
time passes, or the detection goes on by itself. -/
def Event.furthers (id : CallerId) : Event → Bool
  | .tick _ => true
  | .detection e => e.isSpontaneous
  | .cache e => e.caller? = some id
  | .ask i | .decide i | .giveUp i | .reply i => i = id
  | _ => false

/-! ### Deaths -/

/-- What is to be done about an errand that is doomed is that it dies. -/
theorem State.errandEvent?_of_isDoomed {s : State} {id : CallerId} (h : s.isDoomed id = true) :
    s.errandEvent? id = some (s.deathEvent id) := by
  have hdoomed := h
  unfold isDoomed at hdoomed
  split at hdoomed
  case h_2 => cases hdoomed
  case h_1 query subnet herrand =>
    have hrunning := (Bool.and_eq_true_iff.mp hdoomed).1
    simp only [errandEvent?, herrand, hrunning, h, if_true]

theorem State.exists_running_of_isDoomed {s : State} {id : CallerId} (h : s.isDoomed id = true) :
    ∃ f, s.cache.fetches.find? id = some f ∧ f.phase = .running := by
  unfold isDoomed at h
  split at h
  case h_2 => cases h
  case h_1 =>
    have hrunning := (Bool.and_eq_true_iff.mp h).1
    unfold Cache.State.isRunning at hrunning
    split at hrunning
    case h_1 hphase =>
      obtain ⟨f, hf, hphase⟩ := Option.map_eq_some_iff.mp hphase
      exact ⟨f, hf, hphase⟩
    case h_2 => cases hrunning

/-- It can die: its fetch goes on, and so the fetch can; or else the client can, who has not come to
an end. -/
theorem State.exists_step_deathEvent {s : State} {id : CallerId} (h : s.isDoomed id = true)
    {c : Client} (hc : s.clients.find? id = some c) (hover : c.stage.isOver = false) :
    ∃ s', s.step (s.deathEvent id) = some s' := by
  unfold deathEvent
  split
  case isTrue henabled =>
    obtain ⟨f, hf, hphase⟩ := State.exists_running_of_isDoomed h
    simp only [step, isOwnCacheEvent, Cache.State.step, Cache.State.crash, hf, hphase, henabled,
      if_true, Option.map_some]
    exact ⟨_, rfl⟩
  case isFalse =>
    simp only [step, leave, hc, hover, Bool.false_eq_true, if_false]
    exact ⟨_, rfl⟩

/-- Nobody dies of an errand: where the cache is switched on, only the fetch does, and otherwise
there is room for the headers of every request. -/
def State.Survives (s : State) : Prop :=
  s.cache.enabled = true ∨ (Inquiry.defaultHeaders s.config).Fit s.config.headers

theorem State.Survives.isDying_eq_false {s : State} (h : s.Survives) (id : CallerId) :
    s.isDying id = false := by
  rw [State.isDying, Bool.and_eq_false_iff, Bool.not_eq_false']
  refine h.imp_right fun hfit => Bool.eq_false_iff.mpr fun hdoomed => ?_
  unfold State.isDoomed at hdoomed
  split at hdoomed
  case h_2 => cases hdoomed
  case h_1 query subnet _ =>
    rw [Bool.and_eq_true] at hdoomed
    obtain ⟨-, hdeath⟩ := hdoomed
    split at hdeath
    case h_1 hplan => exact Inquiry.not_fit_of_plan hplan hfit
    case h_2 => cases hdeath

/-- A client can have octets as reply, or none, by a certain time. -/
def State.CanReply (s : State) (id : CallerId) (time : Nat) : Prop :=
  ∃ events s' c reply resolution, (∀ e ∈ events, e.furthers id = true) ∧
    s.play events = some s' ∧ s'.now ≤ time ∧ s'.clients.find? id = some c ∧
      c.stage = .replied reply resolution

/-- What a caller of the cache can do happens by itself in the service. -/
theorem State.isOwnCacheEvent_of_callerEvent? {cache : Cache.State} {id : CallerId}
    {e : Cache.Event} (h : cache.callerEvent? id = some e) : State.isOwnCacheEvent e = true := by
  unfold Cache.State.callerEvent? at h
  split at h
  case h_4 =>
    split at h
    case isTrue => cases h; rfl
    case isFalse => cases h
  case h_5 => cases h
  all_goals cases h; rfl

namespace State.CanReply

variable {s t : State} {id : CallerId} {c : Client} {carrier : Carrier} {query : Dns.Message}
  {question : Dns.Question}

/-- What a client can have after an event, it can have before. -/
theorem of_step {time : Nat} {e : Event} (hfurthers : e.furthers id = true)
    (hstep : s.step e = some t) (h : t.CanReply id time) : s.CanReply id time := by
  obtain ⟨events, s', c, reply, resolution, hall, hplay, hrest⟩ := h
  refine ⟨e :: events, s', c, reply, resolution, ?_, ?_, hrest⟩
  · exact List.forall_mem_cons.mpr ⟨hfurthers, hall⟩
  · rw [State.play, hstep]
    exact hplay

theorem mono {time later : Nat} (h : s.CanReply id time) (hle : time ≤ later) :
    s.CanReply id later := by
  obtain ⟨events, s', c, reply, resolution, hall, hplay, hnow, hrest⟩ := h
  exact ⟨events, s', c, reply, resolution, hall, hplay, Nat.le_trans hnow hle, hrest⟩

/-- Where there is something to reply, the client gets it. -/
theorem of_decided {answer : Dns.Message} {resolution : Resolution}
    (hc : s.clients.find? id = some c) (hcarrier : c.carrier = some carrier)
    (hstage : c.stage = .decided query answer resolution) : s.CanReply id s.now := by
  have hstep : s.step (.reply id) =
      some ((s.setClient id c (.replied (State.replyBytes carrier query answer) resolution)).count
        resolution c.arrivedAt) := by
    simp only [State.step, State.reply, hc, hstage, hcarrier]
  have hplay : s.play [.reply id] =
      some ((s.setClient id c (.replied (State.replyBytes carrier query answer) resolution)).count
        resolution c.arrivedAt) := by
    rw [State.play, hstep]
    rfl
  refine ⟨[.reply id], _, _, _, _, ?_, hplay, Nat.le_refl _, Table.find?_insert_self .., rfl⟩
  exact List.forall_mem_singleton.mpr (decide_eq_true rfl)

/-- An event that makes something to reply makes the client get it. -/
theorem of_deciding {e : Event} {answer : Dns.Message} {resolution : Resolution}
    (hstep : s.step e = some (t.setClient id c (.decided query answer resolution)))
    (hcarrier : c.carrier = some carrier) (hfurthers : e.furthers id = true) :
    s.CanReply id t.now :=
  of_step hfurthers hstep (of_decided (Table.find?_insert_self ..) hcarrier rfl)

/-- A client who waits for the cache gets on there, or need not wait longer than it is told to. -/
theorem of_asking {subnet : Option Net.Network} {since : Nat} (hc : s.clients.find? id = some c)
    (hcarrier : c.carrier = some carrier) (hstage : c.stage = .asking query question subnet since)
    (hsince : since ≤ s.now) (hhopes : s.cache.Hopes id) (hsurvives : s.Survives) :
    s.CanReply id (s.now + s.config.queryTimeout) := by
  obtain ⟨d, hd, hwant, hhopeful⟩ := hhopes
  -- on how far the caller is from an end or a fetch
  induction hrank : d.phase.rank using Nat.strongRecOn generalizing s d with
  | ind n ih =>
    cases hevent : s.cache.callerEvent? id with
    | some e =>
      obtain ⟨hcaller, cache, p, hstep, hd', hless, hhopeful'⟩ :=
        Cache.exists_callerEvent hd hwant hevent s.now
      refine of_step (e := .cache e) (t := { s with cache }) ?_ ?_ ?_
      · simpa [Event.furthers] using hcaller
      · simp only [State.step, isOwnCacheEvent_of_callerEvent? hevent, hstep]
        rfl
      · have henabled := (Cache.effect_of_step hstep).enabled_eq
        have hsurvives' : State.Survives { s with cache } := hsurvives.imp_left henabled.trans
        exact ih p.rank (hrank ▸ hless) (s := { s with cache }) hc hsince hsurvives' _ hd' hwant
          hhopeful' rfl
    | none =>
      cases hphase : d.phase with
      | answered answer outcome =>
        have hstep : s.step (.decide id) = some
            (s.setClient id c (.decided query (answer.answering query) (.ofOutcome outcome))) := by
          simp only [State.step, State.decide, hc, hd, Option.map_some, hphase, hstage]
        exact (of_deciding hstep hcarrier (decide_eq_true rfl)).mono (Nat.le_add_right ..)
      | failed fault =>
        have hstep : s.step (.decide id) =
            some (s.setClient id c (.decided query query.servFailFor .failed)) := by
          simp only [State.step, State.decide, hc, hd, Option.map_some, hphase, hstage]
        exact (of_deciding hstep hcarrier (decide_eq_true rfl)).mono (Nat.le_add_right ..)
      | waiting fetch outcome =>
        -- the client waits as long as it is told to, and then gives up
        let late := { s with now := s.now + (since + s.config.queryTimeout - s.now) }
        have hlate : since + late.config.queryTimeout ≤ late.now := by
          change since + s.config.queryTimeout ≤ s.now + (since + s.config.queryTimeout - s.now)
          omega
        have hleave : ∃ cache, s.cache.leave id = some cache := by
          simp [Cache.State.leave, hd, hphase, Cache.State.CallerPhase.isOver]
        obtain ⟨cache, hleave⟩ := hleave
        have hstep : late.step (.giveUp id) = some
            ({ late with cache }.setClient id c (.decided query query.servFailFor .failed)) := by
          simp only [State.step, State.giveUp, late, hc, hstage]
          rw [if_pos ⟨hlate, by rw [hevent]; rfl, hsurvives.isDying_eq_false id⟩, hleave]
          rfl
        refine of_step (t := late) (e := .tick (since + s.config.queryTimeout - s.now)) rfl rfl ?_
        refine (of_deciding hstep hcarrier (decide_eq_true rfl)).mono ?_
        change s.now + (since + s.config.queryTimeout - s.now) ≤ s.now + s.config.queryTimeout
        omega
      | missed | gone =>
        rw [hphase] at hhopeful
        cases hhopeful
      | _ => simp [Cache.State.callerEvent?, hd, hphase] at hevent

/-- A client who was told the network turns to the cache. -/
theorem of_located {subnet : Option Net.Network} (hc : s.clients.find? id = some c)
    (hcarrier : c.carrier = some carrier) (hstage : c.stage = .locating query question)
    (habsent : s.cache.callers.find? id = none) (hlocated : s.located id = some subnet)
    (hsurvives : s.Survives) : s.CanReply id (s.now + s.config.queryTimeout) := by
  have hstep : s.step (.ask id) = some ({ s with
      cache := { s.cache with
        callers := s.cache.callers.insert id ⟨.ofQuery query question subnet, .fetched, .arrived⟩ }
      errands := s.errands.insert id ⟨query, subnet, .ready⟩ }.setClient id c
        (.asking query question subnet s.now)) := by
    simp only [State.step, State.ask, hc, hlocated, hstage, Cache.State.arrive, habsent]
    rfl
  refine of_step (e := .ask id) (decide_eq_true rfl) hstep ?_
  exact of_asking (Table.find?_insert_self ..) hcarrier rfl (Nat.le_refl _)
    ⟨_, Table.find?_insert_self .., rfl, rfl⟩ hsurvives

/-- A client who waits for the detection of the network is told it, and gets on. -/
theorem of_locating (hc : s.clients.find? id = some c) (hcarrier : c.carrier = some carrier)
    (hstage : c.stage = .locating query question) (habsent : s.cache.callers.find? id = none)
    (hwaits : s.detects = true → s.Waits id) (hturn : s.detection.Held) (hsurvives : s.Survives) :
    s.CanReply id (s.now + s.config.queryTimeout) := by
  cases hlocated : s.located id with
  | some subnet => exact of_located hc hcarrier hstage habsent hlocated hsurvives
  | none =>
    -- it is detected, or the client would know it
    obtain ⟨address, refresh, hsubnet⟩ :
        ∃ url refresh, s.config.subnet = .detect url refresh := by
      unfold State.located at hlocated
      split at hlocated
      case h_1 | h_2 => cases hlocated
      case h_3 url refresh hsubnet => exact ⟨url, refresh, hsubnet⟩
    obtain ⟨p, hp, hgone⟩ := hwaits (by rw [State.detects, hsubnet])
    -- each event of the detection is one of the service
    have hevents (d : Subnet.Detection) (htell : d.CanTell s.now id) :
        State.CanReply { s with detection := d } id (s.now + s.config.queryTimeout) := by
      induction htell with
      | @told d net hnet =>
        have hlocated : State.located { s with detection := d } id = some net := by
          simp only [State.located, hsubnet, hnet]
        exact of_located (s := { s with detection := d }) hc hcarrier hstage habsent hlocated
          hsurvives
      | @step d d' e hspontaneous hstep _ ih =>
        refine of_step (e := .detection e) hspontaneous ?_ ih
        have hown : State.isOwnDetectionEvent e = true := by
          cases e <;> first | rfl | cases hspontaneous
        simp only [State.step, hown, hstep]
        rfl
    exact hevents s.detection (.of_waiting hturn hp hgone)

end State.CanReply

/-- A client waits, and may die of the request that is made for its query. -/
def Endangered (config : Config) (c : Client) : Prop :=
  config.cache = false ∧ ¬ (Inquiry.defaultHeaders config).Fit config.headers ∧
    ((∃ query question, c.stage = .locating query question) ∨
      ∃ query question subnet since, c.stage = .asking query question subnet since)

theorem State.Survives.of_not_endangered {s : State} {c : Client}
    (henabled : s.cache.enabled = s.config.cache) (hsafe : ¬ Endangered s.config c)
    (hwaits : (∃ query question, c.stage = .locating query question) ∨
      ∃ query question subnet since, c.stage = .asking query question subnet since) :
    s.Survives := by
  by_contra hdies
  obtain ⟨hoff, hfit⟩ := not_or.mp hdies
  exact hsafe ⟨henabled ▸ Bool.eq_false_iff.mpr hoff, hfit, hwaits⟩

/-- **Every client who has not gone away can get a reply in time**, unless it may die before, and
nobody else has to do anything for it; the endpoint least of all. -/
theorem Live.canReply {s : State} (h : Live s) {id : CallerId} {c : Client} {carrier : Carrier}
    (hc : s.clients.find? id = some c) (hcarrier : c.carrier = some carrier)
    (hgone : c.stage ≠ .gone) (htold : ∀ answer resolution, c.stage ≠ .told answer resolution)
    (henabled : s.cache.enabled = s.config.cache) (hsafe : ¬ Endangered s.config c) :
    s.CanReply id (s.now + s.config.queryTimeout) := by
  have hplaced := h.clients id c hc
  cases hstage : c.stage with
  | locating query question =>
    rw [hstage] at hplaced
    exact .of_locating hc hcarrier hstage hplaced.1 hplaced.2 h.turn
      (.of_not_endangered henabled hsafe (.inl ⟨query, question, hstage⟩))
  | asking query question subnet since =>
    rw [hstage] at hplaced
    exact .of_asking hc hcarrier hstage hplaced.1 hplaced.2
      (.of_not_endangered henabled hsafe (.inr ⟨query, question, subnet, since, hstage⟩))
  | decided query answer resolution =>
    exact (State.CanReply.of_decided hc hcarrier hstage).mono (Nat.le_add_right ..)
  | replied reply resolution =>
    exact ⟨[], s, c, reply, resolution, List.forall_mem_nil _, rfl, Nat.le_add_right .., hc, hstage⟩
  | told answer resolution => exact absurd hstage (htold answer resolution)
  | gone => exact absurd hstage hgone

end Service

end DohRelay
