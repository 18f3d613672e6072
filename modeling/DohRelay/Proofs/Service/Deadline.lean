import DohRelay.Proofs.Service.Detecting
import DohRelay.Proofs.Service.Keyed
import DohRelay.Proofs.Service.Progress

/-!
# How long clients wait

Let the clock move on only when nothing is left to be done.  Then a client does not wait longer for
the cache than the time that a query may take.  That time is counted from when the client turns to
the cache, and not from when it came: a client who has to be told the network first waits as long as
the lookup takes, and the time for its query is counted from then.

## Main definitions

* `State.Idle`, `Diligent` — nothing is left to be done, and the clock moves on only then.
* `spent` — how much time passed in a run while something was so.
* `State.isLocating` — a client waits to be told the network.
* `Paired` — those who wait for the detection are clients who wait to be told the network.
* `KeepsTime` — what the clock says about a client at some stage.

## Main results

* `Run.keepsTime` — **in a diligent run the clients keep time.**
* `Run.looksUp_of_elapsed` — a client waits to be told the network only while somebody looks it up.
* `queries_end_in_time` — **a query is over when its time and the time of the lookup are over.**
* `deadline_passed` — a client who waits longer than a query may take.
-/

namespace DohRelay

/-! ### Callers of the detection -/

namespace Subnet.Detection

open Cache (CallerId)

/-- Nobody who goes away waits for the detection afterwards. -/
theorem isOver_of_leave {d : Detection} {id : CallerId} {p : DetectionPhase}
    (hp : ((d.leave id).getD d).callers.find? id = some p) : p.isOver = true := by
  unfold Detection.leave at hp
  split at hp
  case h_1 hnone =>
    rw [Option.getD_none, hnone] at hp
    cases hp
  case h_2 htold =>
    rw [Option.getD_none, htold] at hp
    cases hp
    rfl
  case h_3 hgone =>
    rw [Option.getD_none, hgone] at hp
    cases hp
    rfl
  case h_4 =>
    rw [Option.getD_some, callers_endTurn] at hp
    cases (Table.find?_insert_self ..).symm.trans hp
    rfl

end Subnet.Detection

namespace Service

open Cache (CallerId)

/-! ### The clock -/

/-- Nobody can do anything now, unless something happens from outside. -/
structure State.Idle (s : State) : Prop where
  /-- No client can. -/
  clients : ∀ id, s.clientEvent? id = none
  /-- No errand can, and no fetch. -/
  errands : ∀ id, s.errandEvent? id = none

/-- The clock moves on only when nothing is left to be done. -/
def Diligent (moves : List Move) : Prop :=
  ∀ m ∈ moves, ∀ time, m.before.now ≤ time → time < m.after.now →
    { m.before with now := time }.Idle

/-- How much time passed in a run while something was so. -/
def spent (p : State → Bool) : List Move → Nat
  | [] => 0
  | m :: moves => spent p moves + if p m.before then m.after.now - m.before.now else 0

/-- Whether a client waits to be told the network to advertise. -/
def Stage.isLocating : Stage → Bool
  | .locating _ _ => true
  | _ => false

/-- Whether there is a client who does. -/
def State.isLocating (s : State) (id : CallerId) : Bool :=
  (s.clients.find? id).any (·.stage.isLocating)

/-- Whether a client looks up the network. -/
def State.looksUp (s : State) (id : CallerId) : Bool :=
  match s.detection.callers.find? id with
  | some (.lookingUp _) => true
  | _ => false

theorem Diligent.suffix {moves earlier : List Move} (h : Diligent moves) (hs : earlier <:+ moves) :
    Diligent earlier :=
  fun m hm => h m (hs.subset hm)

theorem spent_le_of_suffix (p : State → Bool) {moves earlier : List Move} (hs : earlier <:+ moves) :
    spent p earlier ≤ spent p moves := by
  obtain ⟨later, rfl⟩ := hs
  induction later with
  | nil => exact Nat.le_refl _
  | cons m later ih => exact Nat.le_trans ih (Nat.le_add_right _ _)

/-- No more time was spent than has passed. -/
theorem Run.spent_le {config : Config} {fetchTimeout : Nat} {moves : List Move} {s : State}
    (h : Run config fetchTimeout moves s) (p : State → Bool) : spent p moves ≤ s.now := by
  induction h with
  | start => exact Nat.le_refl _
  | move m _ ih =>
    have hnow := m.effect.now_le
    rw [spent]
    split
    · omega
    · omega

theorem spent_eq_zero {p : State → Bool} {moves : List Move}
    (h : ∀ m ∈ moves, p m.before = true → m.after.now ≤ m.before.now) : spent p moves = 0 := by
  induction moves with
  | nil => rfl
  | cons m moves ih =>
    rw [spent, ih fun m' hm' => h m' (List.mem_cons_of_mem _ hm')]
    split
    case isTrue hp =>
      exact (Nat.zero_add _).trans (Nat.sub_eq_zero_of_le (h m List.mem_cons_self hp))
    case isFalse => rfl

/-- Either an event takes no time, or nothing happens but that time passes. -/
theorem Effect.now_eq_or_tick {s s' : State} {e : Event} (h : Effect s e s') :
    s'.now = s.now ∨ ∃ millis, e = .tick millis ∧ s' = { s with now := s.now + millis } := by
  cases h with
  | tick millis => exact .inr ⟨millis, rfl, rfl⟩
  | _ => exact .inl rfl

/-- Whether time passes by an event. -/
def Event.isTick : Event → Bool
  | .tick _ => true
  | _ => false

theorem Diligent.cons {m : Move} {moves : List Move} (h : Diligent moves)
    (hm : ∀ time, m.before.now ≤ time → time < m.after.now → { m.before with now := time }.Idle) :
    Diligent (m :: moves) :=
  List.forall_mem_cons.mpr ⟨hm, h⟩

/-- Something that takes no time may be left to be done, and something else happens before it. -/
theorem Diligent.cons_of_not_tick {m : Move} {moves : List Move} (h : Diligent moves)
    (hm : m.event.isTick = false) : Diligent (m :: moves) := by
  refine h.cons fun time hle hlt => ?_
  rcases m.effect.now_eq_or_tick with hnow | ⟨millis, htick, -⟩
  · exact absurd (Nat.lt_of_le_of_lt hle hlt) (Nat.not_lt_of_le (Nat.le_of_eq hnow))
  · rw [htick] at hm
    cases hm

/-- A diligent run goes on with events that take no time. -/
theorem Diligent.append_play {config : Config} {fetchTimeout : Nat} {moves : List Move}
    {s s' : State} (h : Diligent moves) (hrun : Run config fetchTimeout moves s)
    {events : List Event}
    (hevents : events.all (!·.isTick) = true) (hplay : s.play events = some s') :
    ∃ more, Run config fetchTimeout (more ++ moves) s' ∧ Diligent (more ++ moves) := by
  induction events generalizing moves s with
  | nil =>
    rw [State.play, Option.some.injEq] at hplay
    exact ⟨[], hplay ▸ hrun, h⟩
  | cons e rest ih =>
    obtain ⟨next, hstep, hrest⟩ := Option.bind_eq_some_iff.mp hplay
    rw [List.all_cons, Bool.and_eq_true, Bool.not_eq_true'] at hevents
    let m : Move := ⟨e, s, next, hstep⟩
    obtain ⟨more, hmore, hdiligent⟩ :=
      ih (h.cons_of_not_tick (m := m) hevents.1) (.move m hrun) hevents.2 hrest
    exact ⟨more ++ [m], by rwa [List.append_assoc], by rwa [List.append_assoc]⟩

/-! ### Who waits for the network -/

theorem State.isLocating_iff {s : State} {id : CallerId} : s.isLocating id = true ↔
    ∃ c query question, s.clients.find? id = some c ∧ c.stage = .locating query question := by
  unfold State.isLocating
  cases hc : s.clients.find? id with
  | none => simp
  | some c => cases hstage : c.stage <;> simp [hstage, Stage.isLocating]

theorem State.isLocating_eq {s : State} {id : CallerId} {c : Client}
    (hc : s.clients.find? id = some c) : s.isLocating id = c.stage.isLocating := by
  rw [State.isLocating, hc, Option.any_some]

/-- Those who wait for the detection are clients who wait to be told the network. -/
def Paired (s : State) : Prop :=
  ∀ id p, s.detection.callers.find? id = some p →
    s.detects = true ∧ (p.isOver = false → s.isLocating id = true)

/-- A client who waits to be told the network goes on waiting, or does not wait for the detection
any more. -/
theorem Effect.isLocating_after {s s' : State} {e : Event} (h : Effect s e s') {id : CallerId}
    (hlocating : s.isLocating id = true) (hdetects : s.detects = true) :
    s'.isLocating id = true ∨ ∀ p, s'.detection.callers.find? id = some p → p.isOver = true := by
  obtain ⟨c, query, question, hc, hstage⟩ := State.isLocating_iff.mp hlocating
  -- others come to stages, and not this client
  have hother {t : State} {i : CallerId} {d : Client} (hclients : t.clients = s.clients.insert i d)
      (hne : id ≠ i) : t.isLocating id = true := by
    refine State.isLocating_iff.mpr ⟨c, query, question, ?_, hstage⟩
    rw [hclients]
    exact (Table.find?_insert_of_ne _ hne _).trans hc
  have hstages {i : CallerId} {d : Client} (hd : s.clients.find? i = some d)
      (hne : ∀ query question, d.stage ≠ .locating query question) : id ≠ i := by
    rintro rfl
    obtain rfl := Option.some.inj (hc.symm.trans hd)
    exact hne query question hstage
  have hfresh {i : CallerId} (fresh : s.clients.find? i = none) : id ≠ i := by
    rintro rfl
    rw [hc] at fresh
    cases fresh
  cases h with
  | malformed fresh => exact .inl (hother rfl (hfresh fresh))
  | enroll _ _ fresh => exact .inl (hother rfl (hfresh fresh))
  | @ask i d _ _ subnet _ _ _ hsubnet =>
    by_cases hid : id = i
    case neg => exact .inl (hother rfl hid)
    case pos =>
      subst hid
      refine .inr fun p hp => ?_
      unfold State.located at hsubnet
      split at hsubnet
      case h_1 hmode | h_2 hmode => simp [State.detects, hmode] at hdetects
      case h_3 =>
        split at hsubnet
        case h_1 htold =>
          obtain rfl := Option.some.inj (htold.symm.trans hp)
          rfl
        case h_2 => cases hsubnet
  | decideAnswer hd hd' | decideError hd hd' | giveUp hd hd' | reply hd hd' | tell hd hd' =>
    exact .inl (hother rfl (hstages hd (by simp [hd'])))
  | @leave i =>
    by_cases hid : id = i
    case neg => exact .inl (hother rfl hid)
    case pos =>
      subst hid
      exact .inr fun p hp => Subnet.Detection.isOver_of_leave hp
  | _ => exact .inl hlocating

/-- **In every run those who wait for the detection are clients who wait to be told the network.**
-/
theorem Paired.of_run {config : Config} {fetchTimeout : Nat} {moves : List Move} {s : State}
    (h : Run config fetchTimeout moves s) : Paired s := by
  induction h with
  | start =>
    intro id p hp
    simp [State.start, Subnet.Detection.start] at hp
  | move m run ih =>
    intro id p hp
    have hconfig : m.after.detects = m.before.detects := by
      rw [State.detects, m.effect.config_eq]
      rfl
    rw [hconfig]
    rcases m.effect.detection_before hp with
      ⟨hdetects, input, query, question, hinput, hquery, hstage⟩ | ⟨q, hq, hwaits⟩
    · refine ⟨hdetects, fun _ => State.isLocating_iff.mpr ?_⟩
      obtain ⟨-, hc⟩ := m.effect.client_of_input hinput
      refine ⟨_, query, question, hc, ?_⟩
      simp only [State.entryStage, hquery, hstage]
    · obtain ⟨hdetects, hlocating⟩ := ih id q hq
      refine ⟨hdetects, fun hover => ?_⟩
      refine (m.effect.isLocating_after (hlocating (hwaits hover)) hdetects).resolve_right
        fun h => ?_
      rw [h p hp] at hover
      cases hover


/-! ### What the clock says -/

namespace State

variable {s : State} {id : CallerId} {c : Client}

theorem Idle.isDying_eq_false (h : s.Idle) (id : CallerId) : s.isDying id = false := by
  by_contra hdies
  obtain ⟨-, hdoomed⟩ := Bool.and_eq_true_iff.mp (Bool.eq_true_of_not_eq_false hdies)
  cases (errandEvent?_of_isDoomed hdoomed).symm.trans (h.errands id)

/-- There is something to be done for a client who has waited too long for the cache. -/
theorem not_idle_of_asking (hc : s.clients.find? id = some c) {query : Dns.Message}
    {question : Dns.Question} {subnet : Option Net.Network} {since : Nat}
    (hstage : c.stage = .asking query question subnet since)
    (hlate : since + s.config.queryTimeout ≤ s.now) : ¬ s.Idle := by
  intro h
  have hnone := h.clients id
  unfold clientEvent? at hnone
  rw [hc, Option.map_some, hstage] at hnone
  dsimp only at hnone
  split at hnone
  case h_1 => cases hnone
  case h_2 =>
    split at hnone
    case h_3 =>
      rw [if_pos ⟨hlate, h.isDying_eq_false id⟩] at hnone
      cases hnone
    all_goals cases hnone

/-- There is a reply to be given to a client who has an answer. -/
theorem not_idle_of_decided (hc : s.clients.find? id = some c) {query answer : Dns.Message}
    {resolution : Resolution} (hstage : c.stage = .decided query answer resolution) :
    ¬ s.Idle := by
  intro h
  have hnone := h.clients id
  unfold clientEvent? at hnone
  rw [hc, Option.map_some, hstage] at hnone
  cases hnone

/-- A client who can do nothing and waits to be told the network is not told it, and can do nothing
in the detection either. -/
theorem located_of_idle (h : s.Idle) (hlocating : s.isLocating id = true) :
    s.located id = none ∧ s.detection.callerEvent? id = none := by
  obtain ⟨c, query, question, hc, hstage⟩ := isLocating_iff.mp hlocating
  have hnone := h.clients id
  unfold clientEvent? at hnone
  rw [hc, Option.map_some, hstage] at hnone
  dsimp only at hnone
  split at hnone
  case isTrue => cases hnone
  case isFalse hunknown =>
    exact ⟨Option.not_isSome_iff_eq_none.mp hunknown, Option.map_eq_none_iff.mp hnone⟩

/-- **When nothing is left to be done, a client waits to be told the network only if somebody looks
it up.** -/
theorem exists_looksUp_of_idle (hidle : s.Idle) (hlive : Live s) (hpaired : Paired s)
    (hlocating : s.isLocating id = true) :
    s.detects = true ∧ ∃ other, s.detection.LooksUp other := by
  obtain ⟨hunknown, hstuck⟩ := located_of_idle hidle hlocating
  obtain ⟨url, refresh, hmode⟩ : ∃ url refresh, s.config.subnet = .detect url refresh := by
    unfold located at hunknown
    split at hunknown
    case h_1 | h_2 => cases hunknown
    case h_3 url refresh hmode => exact ⟨url, refresh, hmode⟩
  have hdetects : s.detects = true := by rw [detects, hmode]
  refine ⟨hdetects, ?_⟩
  obtain ⟨c, query, question, hc, hstage⟩ := isLocating_iff.mp hlocating
  have hplaced := hlive.clients id c hc
  rw [hstage] at hplaced
  obtain ⟨p, hp, hgone⟩ := hplaced.2 hdetects
  unfold Subnet.Detection.callerEvent? at hstuck
  rw [hp] at hstuck
  cases p with
  | arrived | checking => cases hstuck
  | lookingUp previous => exact ⟨id, previous, hp⟩
  | told net =>
    unfold located at hunknown
    rw [hmode] at hunknown
    simp only [hp] at hunknown
    cases hunknown
  | gone => exact absurd rfl hgone
  | queued =>
    -- it is the turn of another, who can do nothing either
    cases hturn : s.detection.turn with
    | none =>
      rw [hturn] at hstuck
      cases hstuck
    | some other =>
      obtain ⟨q, hq, hhas⟩ := hlive.turn other hturn
      cases q with
      | lookingUp previous => exact ⟨other, previous, hq⟩
      | checking =>
        obtain ⟨-, hstuck'⟩ := located_of_idle hidle ((hpaired other _ hq).2 rfl)
        unfold Subnet.Detection.callerEvent? at hstuck'
        rw [hq] at hstuck'
        cases hstuck'
      | _ => cases hhas

end State

/-- What the clock says about a client at some stage, where a query may take a certain time, and the
time for that of the client begins at `start` at the earliest. -/
def KeepsTime (queryTimeout now start : Nat) : Stage → Prop
  | .locating _ _ => now = start
  | .asking _ _ _ since => since = start ∧ now ≤ start + queryTimeout
  | .decided _ _ _ => now ≤ start + queryTimeout
  | _ => True

/-- A client gets on in time. -/
theorem KeepsTime.advance {s : State} {id : CallerId} {c : Client} {queryTimeout start : Nat}
    (h : KeepsTime queryTimeout s.now start c.stage) {stage : Stage} (hgo : Advance s id c stage) :
    KeepsTime queryTimeout s.now start stage := by
  cases hgo with
  | ask subnet hstage =>
    rw [hstage] at h
    exact ⟨h, h ▸ Nat.le_add_right _ _⟩
  | answer hstage | fail hstage =>
    rw [hstage] at h
    exact h.2
  | reply | tell | leave => trivial

/-- A client keeps time while it passes and nothing is left to be done. -/
theorem KeepsTime.tick {s : State} {id : CallerId} {c : Client} {start millis : Nat}
    (h : KeepsTime s.config.queryTimeout s.now start c.stage) (hc : s.clients.find? id = some c)
    (hidle : ∀ time, s.now ≤ time → time < s.now + millis → { s with now := time }.Idle) :
    KeepsTime s.config.queryTimeout (s.now + millis)
      (start + if s.isLocating id then millis else 0) c.stage := by
  rw [State.isLocating_eq hc]
  cases hstage : c.stage with
  | locating query question =>
    rw [hstage] at h
    exact congrArg (· + millis) h
  | asking query question subnet since =>
    rw [hstage] at h
    obtain ⟨rfl, hle⟩ := h
    refine ⟨rfl, Nat.le_of_not_lt fun hlt => ?_⟩
    -- the clock would have got past the time to give up
    exact State.not_idle_of_asking (s := { s with now := since + s.config.queryTimeout }) hc hstage
      (Nat.le_refl _) (hidle _ hle hlt)
  | decided query answer resolution =>
    rw [hstage] at h
    refine Nat.le_of_not_lt fun hlt => ?_
    -- the clock would have moved on before the reply
    exact State.not_idle_of_decided (s := { s with now := s.now }) hc hstage
      (hidle _ (Nat.le_refl _) (Nat.lt_of_le_of_lt h hlt))
  | replied | told | gone => trivial

/-- A client who has just come keeps time. -/
theorem KeepsTime.entryStage (s : State) (queryTimeout : Nat) (input : Input) :
    KeepsTime queryTimeout s.now s.now (s.entryStage input) := by
  unfold State.entryStage
  split
  case h_2 => trivial
  case h_1 query _ =>
    rcases Live.firstStage_cases s query with ⟨question, hstage⟩ | ⟨answer, resolution, hstage⟩
    · rw [hstage]
      exact rfl
    · rw [hstage]
      exact Nat.le_add_right _ _

namespace Run

variable {config : Config} {fetchTimeout : Nat} {moves : List Move} {s : State} {id : CallerId}
  {c : Client}

/-- A client who was there at some move of a run is there at its end, and came at the same time. -/
theorem client_later (h : Run config fetchTimeout moves s) {m : Move} (hm : m ∈ moves)
    (hc : m.before.clients.find? id = some c) :
    ∃ stage, s.clients.find? id = some { c with stage } := by
  induction h with
  | start => cases hm
  | move last run ih =>
    rcases List.mem_cons.mp hm with rfl | hm
    · obtain ⟨stage, hafter, -⟩ := m.effect.client_before hc
      exact ⟨stage, hafter⟩
    · obtain ⟨stage, hbefore⟩ := ih hm
      obtain ⟨stage', hafter, -⟩ := last.effect.client_before hbefore
      exact ⟨stage', hafter⟩

/-- Nobody waits before coming. -/
theorem spent_eq_zero_of_absent (h : Run config fetchTimeout moves s)
    (habsent : s.clients.find? id = none) : spent (·.isLocating id) moves = 0 := by
  refine spent_eq_zero fun m hm hlocating => ?_
  obtain ⟨c, _, _, hc, -⟩ := State.isLocating_iff.mp hlocating
  obtain ⟨stage, hlater⟩ := h.client_later hm hc
  rw [habsent] at hlater
  cases hlater

/-- **In a diligent run the clients keep time**: the time for the query of a client begins when the
client has been told the network. -/
theorem keepsTime (h : Run config fetchTimeout moves s) (hdiligent : Diligent moves)
    (hc : s.clients.find? id = some c) : KeepsTime config.queryTimeout s.now
      (c.arrivedAt + spent (·.isLocating id) moves) c.stage := by
  induction h generalizing c with
  | start => simp [State.start] at hc
  | @move moves m run ih =>
    have ih {c : Client} := @ih c (hdiligent.suffix (List.suffix_cons _ _))
    have hidle := hdiligent m List.mem_cons_self
    rcases m.effect.now_eq_or_tick with hnow | ⟨millis, -, hafter⟩
    · -- no time passes
      have hspent : spent (·.isLocating id) (m :: moves) = spent (·.isLocating id) moves := by
        rw [spent, hnow, Nat.sub_self]
        split <;> rfl
      rw [hspent, hnow]
      rcases m.effect.client_after hc with hbefore | ⟨input, hinput⟩ | ⟨before, hbefore, heq, hgo⟩
      · exact ih hbefore
      · obtain ⟨fresh, hc'⟩ := m.effect.client_of_input hinput
        obtain rfl := Option.some.inj (hc.symm.trans hc')
        rw [run.spent_eq_zero_of_absent fresh]
        exact .entryStage m.before config.queryTimeout input
      · have harrived : c.arrivedAt = before.arrivedAt := by rw [heq]
        rw [harrived]
        exact (ih hbefore).advance hgo
    · -- time passes, and nothing else happens
      have hspent : spent (·.isLocating id) (m :: moves) = spent (·.isLocating id) moves +
          if m.before.isLocating id then millis else 0 := by
        rw [spent, hafter]
        simp only [Nat.add_sub_cancel_left]
      rw [hafter] at hc hidle
      rw [hspent, hafter, ← Nat.add_assoc]
      obtain rfl := run.config_eq
      exact (ih hc).tick hc hidle

/-- A client waits to be told the network only while somebody looks it up. -/
theorem looksUp_of_elapsed (h : Run config fetchTimeout moves s) (hdiligent : Diligent moves)
    {m : Move}
    (hm : m ∈ moves) (hlocating : m.before.isLocating id = true)
    (helapsed : m.before.now < m.after.now) :
    m.before.detects = true ∧ ∃ other, m.before.detection.LooksUp other := by
  obtain ⟨earlier, -, hrun⟩ := h.exists_before hm
  have hidle : m.before.Idle := hdiligent m hm m.before.now (Nat.le_refl _) helapsed
  exact State.exists_looksUp_of_idle hidle (Live.of_run hrun) (Paired.of_run hrun) hlocating

end Run

/-- There is an answer for a client who gets a reply. -/
theorem Effect.decided_of_reply {s s' : State} {id : CallerId} (h : Effect s (.reply id) s') :
    ∃ c query answer resolution, s.clients.find? id = some c ∧
      c.stage = .decided query answer resolution := by
  cases h with
  | reply hc hstage | tell hc hstage => exact ⟨_, _, _, _, hc, hstage⟩
  | enroll hinput => cases hinput
  | finish _ hfinishes => cases hfinishes

/-- **A query is over when its time and the time of the lookup are over.**  Let the clock move on
only when nothing is left to be done.  A client who has not come to an end did not come longer ago
than a query may take, not counting the time that the client waited to be told the network to
advertise; and nobody gets a reply later than that.  Time passes while the client waits to be told
the network only if the network is detected and somebody looks it up, so none is added where lookups
take no time. -/
theorem queries_end_in_time {config : Config} {fetchTimeout : Nat} {moves : List Move} {s : State}
    (h : Run config fetchTimeout moves s) (hdiligent : Diligent moves) {id : CallerId} {c : Client}
    (hc : s.clients.find? id = some c) :
    (c.stage.isOver = false →
      s.now ≤ c.arrivedAt + spent (·.isLocating id) moves + config.queryTimeout) ∧
    (∀ m ∈ moves, m.event = .reply id →
      m.before.now ≤ c.arrivedAt + spent (·.isLocating id) moves + config.queryTimeout) ∧
    (∀ m ∈ moves, m.before.isLocating id = true → m.before.now < m.after.now →
      m.before.detects = true ∧ ∃ other, m.before.detection.LooksUp other) ∧
    ((∀ m ∈ moves, m.before.now < m.after.now → ∀ other, ¬ m.before.detection.LooksUp other) →
      spent (·.isLocating id) moves = 0) := by
  have hlookups {m : Move} (hm : m ∈ moves) (hlocating : m.before.isLocating id = true)
      (helapsed : m.before.now < m.after.now) :
      m.before.detects = true ∧ ∃ other, m.before.detection.LooksUp other :=
    h.looksUp_of_elapsed hdiligent hm hlocating helapsed
  refine ⟨fun hover => ?_, fun m hm hevent => ?_, fun m hm => hlookups hm, fun hnone => ?_⟩
  · have hkeeps := h.keepsTime hdiligent hc
    generalize c.stage = stage at hkeeps hover
    cases stage with
    | locating => exact Nat.le_trans (Nat.le_of_eq hkeeps) (Nat.le_add_right _ _)
    | asking => exact hkeeps.2
    | decided => exact hkeeps
    | replied | told | gone => cases hover
  · have hreply := m.effect
    rw [hevent] at hreply
    obtain ⟨before, query, answer, resolution, hbefore, hstage⟩ := hreply.decided_of_reply
    obtain ⟨earlier, hsuffix, hrun⟩ := h.exists_before hm
    obtain ⟨stage, hlater⟩ := h.client_later hm hbefore
    obtain rfl := Option.some.inj (hc.symm.trans hlater)
    have hkeeps := hrun.keepsTime (hdiligent.suffix hsuffix) hbefore
    rw [hstage] at hkeeps
    exact Nat.le_trans hkeeps
      (Nat.add_le_add_right (Nat.add_le_add_left (spent_le_of_suffix _ hsuffix) _) _)
  · refine spent_eq_zero fun m hm hlocating => Nat.le_of_not_lt fun helapsed => ?_
    obtain ⟨-, other, hother⟩ := hlookups hm hlocating helapsed
    exact hnone m hm helapsed other hother

/-! ### A lookup that takes long -/

/-- A relay that detects the network to advertise.  A lookup may take longer than a query. -/
def detecting : Config :=
  { posting with
    subnet := .detect Subnet.defaultLookupUrl none
    requestTimeout := 5000
    queryTimeout := 2000 }

/-- A client comes, and looks up the network. -/
def lookupEvents : List Event :=
  [.arrive 0 .datagram rootQuery, .detection (.look 0), .detection (.begin 0),
    .detection (.check 0)]

/-- The lookup fails in the end, and the client comes to the cache and is answered at once. -/
def answerEvents : List Event :=
  [.detection (.lookedUp 0 none), .ask 0, .cache (.look 0), .cache (.enter 0), .send 0,
    .respond 0 (.ok ⟨200, Dns.badVersionBytes⟩), .cache (.store 0), .cache (.release 0),
    .cache (.take 0), .decide 0]

/-- While the client looks up, nothing is left to be done. -/
theorem play_lookupEvents : ∃ s, (State.start detecting 2000).play lookupEvents = some s ∧
    s.now = 0 ∧ (∀ time, { s with now := time }.Idle) ∧
      ∃ s' s'', State.play { s with now := 3000 } answerEvents = some s' ∧ s'.now = 3000 ∧
        s'.step (.reply 0) = some s'' ∧ s''.now = 3000 ∧ s''.clients.find? 0 =
          some ⟨some .datagram, 0, .replied (some lostReply) .forwarded⟩ := by
  have hplay : ∃ s, (State.start detecting 2000).play lookupEvents = some s ∧ s.now = 0 ∧
      (∀ time, { s with now := time }.clientEvent? 0 = none) ∧
      (∃ c, s.clients = ⟨[(0, c)]⟩) ∧ s.errands = ⟨[]⟩ ∧ s.cache.fetches = ⟨[]⟩ ∧
      ∃ s' s'', State.play { s with now := 3000 } answerEvents = some s' ∧ s'.now = 3000 ∧
        s'.step (.reply 0) = some s'' ∧ s''.now = 3000 ∧ s''.clients.find? 0 =
          some ⟨some .datagram, 0, .replied (some lostReply) .forwarded⟩ := by
    simp only [lookupEvents, answerEvents, State.play, State.step, State.arrive, decode_rootQuery,
      State.respond, Except.bind, Inquiry.conclude, Inquiry.readAnswer, Wire.answer,
      Dns.decode_badVersionBytes]
    exact ⟨_, rfl, rfl, fun _ => rfl, ⟨_, rfl⟩, rfl, rfl, _, _, rfl, rfl, rfl, rfl, rfl⟩
  obtain ⟨s, hplay, hnow, hclient, ⟨c, hclients⟩, herrands, hfetches, hrest⟩ := hplay
  refine ⟨s, hplay, hnow, fun time => ⟨fun id => ?_, fun id => ?_⟩, hrest⟩
  · by_cases hid : id = 0
    · exact hid ▸ hclient time
    · have hnone : s.clients.find? id = none := by
        rw [hclients]
        exact Table.find?_insert_of_ne .empty hid c
      simp only [State.clientEvent?, hnone, Option.map_none]
  · have hnone : s.errands.find? id = none := by rw [herrands]; rfl
    have hnone' : s.cache.fetches.find? id = none := by rw [hfetches]; rfl
    simp only [State.errandEvent?, hnone, Option.map_none, Cache.State.fetchEvent?, hnone']

/-- So there is a diligent run in which the client gets its reply when the lookup is over. -/
theorem exists_diligent_run_lookup : ∃ moves s m, Run detecting 2000 moves s ∧ Diligent moves ∧
    s.now = 3000 ∧ s.clients.find? 0 =
      some ⟨some .datagram, 0, .replied (some lostReply) .forwarded⟩ ∧
    m ∈ moves ∧ m.event = .reply 0 ∧ m.before.now = 3000 := by
  obtain ⟨s₁, hfirst, hnow₁, hidle, s₂, s₃, hsecond, hnow₂, hreply, hnow₃, hc⟩ := play_lookupEvents
  have hempty : Diligent [] := List.forall_mem_nil _
  have hsilent : lookupEvents.all (!·.isTick) = true := rfl
  have hsilent' : answerEvents.all (!·.isTick) = true := rfl
  obtain ⟨before, hrun, hdiligent⟩ := hempty.append_play .start hsilent hfirst
  let wait : Move := ⟨.tick 3000, s₁, { s₁ with now := s₁.now + 3000 }, rfl⟩
  have hwait : wait.after = { s₁ with now := 3000 } := by
    change { s₁ with now := s₁.now + 3000 } = { s₁ with now := 3000 }
    rw [hnow₁]
  have hdiligent' : Diligent (wait :: (before ++ [])) := hdiligent.cons fun time _ _ => hidle time
  obtain ⟨more, hrun', hdiligent''⟩ :=
    hdiligent'.append_play (.move wait hrun) hsilent' (hwait ▸ hsecond)
  let last : Move := ⟨.reply 0, s₂, s₃, hreply⟩
  exact ⟨last :: (more ++ wait :: (before ++ [])), s₃, last, .move last hrun',
    hdiligent''.cons_of_not_tick rfl, hnow₃, hc, List.mem_cons_self, rfl, hnow₂⟩

/-- The reply comes in time, not counting the lookup. -/
theorem queries_end_in_time_lookup : ∃ moves s m, Run detecting 2000 moves s ∧ Diligent moves ∧
    m ∈ moves ∧ m.event = .reply 0 ∧ m.before.now = 3000 ∧
      m.before.now ≤ 0 + spent (·.isLocating 0) moves + 2000 := by
  obtain ⟨moves, s, m, hrun, hdiligent, -, hc, hm, hevent, hnow⟩ := exists_diligent_run_lookup
  obtain ⟨-, hreplies, -⟩ := queries_end_in_time hrun hdiligent hc
  exact ⟨moves, s, m, hrun, hdiligent, hm, hevent, hnow, hreplies m hm hevent⟩

/-- **A reply may come later than a query may take**: nobody looks up for longer than a request to
the lookup service may take, and the endpoint takes no time at all, but the reply comes a second too
late.
-/
theorem deadline_passed : ∃ moves s c m, Run detecting 2000 moves s ∧ Diligent moves ∧
    (∀ id, spent (·.looksUp id) moves ≤ detecting.requestTimeout) ∧
    s.clients.find? 0 = some c ∧ m ∈ moves ∧ m.event = .reply 0 ∧
      c.arrivedAt + detecting.queryTimeout + 1000 = m.before.now := by
  obtain ⟨moves, s, m, hrun, hdiligent, hs, hc, hm, hevent, hnow⟩ := exists_diligent_run_lookup
  refine ⟨moves, s, _, m, hrun, hdiligent, fun id => ?_, hc, hm, hevent, by rw [hnow]; rfl⟩
  exact Nat.le_trans (hrun.spent_le _) (hs ▸ (by decide : 3000 ≤ 5000))

end Service

end DohRelay
