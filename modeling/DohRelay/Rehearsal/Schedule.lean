import DohRelay.Cache.State

/-!
# Schedules

A rehearsal runs on a clock of its own, which stands still while anybody can do anything.  One
caller is in front: when the clock has moved, whoever is in front acts before all others.

## Main definitions

* `Schedule` — who can do what, and when.
* `Schedule.settle` — lets everybody act who can.
* `Schedule.await`, `Schedule.join`, `Schedule.sleep` — waits for a caller, for several, or for a
  time.
-/

namespace DohRelay.Rehearsal

open Cache (CallerId)

/-- Who can do what in a world of states `σ`, and when. -/
structure Schedule (σ : Type) where
  /-- What a caller does next. -/
  ownStep : CallerId → σ → Option σ
  /-- What anybody but a caller does next. -/
  otherStep : Option CallerId → σ → Option σ
  /-- Whether a caller has come to an end. -/
  isOver : CallerId → σ → Bool
  /-- The time. -/
  now : σ → Nat
  /-- Moves the clock. -/
  setNow : Nat → σ → σ
  /-- The times at which somebody will be able to act again. -/
  dueTimes : σ → List Nat

namespace Schedule

variable {σ : Type} (w : Schedule σ)

/-- Repeats a step up to `fuel` times, as long as it can be taken. -/
def exhaust (step : σ → Option σ) : Nat → σ → σ
  | 0, s => s
  | fuel + 1, s =>
    match step s with
    | some s => exhaust step fuel s
    | none => s

/-- No rehearsal has more steps than this at one time. -/
def maxSteps : Nat := 100000

/-- Lets everybody act who can, except the one in front. -/
def settle (front : Option CallerId) (s : σ) : σ :=
  exhaust (w.otherStep front) maxSteps s

/-- The next time at which somebody will be able to act. -/
def nextDue (s : σ) : Option Nat :=
  ((w.dueTimes s).filter (w.now s < ·)).min?

/-- Waits until a caller, who is in front, has come to an end; the clock moves at most `fuel` times.
-/
def awaitFrom (id : CallerId) : Nat → σ → σ
  | 0, s => s
  | fuel + 1, s =>
    let s := exhaust (w.ownStep id) maxSteps s
    if w.isOver id s then s
    else
      let s := w.settle (some id) s
      match w.ownStep id s with
      | some s => awaitFrom id fuel s
      | none =>
        match w.nextDue s with
        | some time => awaitFrom id fuel (w.setNow time s)
        | none => s

/-- Waits until a caller, who is in front, has come to an end. -/
def await (id : CallerId) (s : σ) : σ :=
  w.awaitFrom id maxSteps s

/-- Waits until all of some callers have come to an end; the clock moves at most `fuel` times. -/
def joinFrom (ids : List CallerId) : Nat → σ → σ
  | 0, s => s
  | fuel + 1, s =>
    if ids.all (w.isOver · s) then s
    else
      let s := w.settle none s
      if ids.all (w.isOver · s) then s
      else
        match w.nextDue s with
        | some time => joinFrom ids fuel (w.setNow time s)
        | none => s

/-- Waits until all of some callers have come to an end. -/
def join (ids : List CallerId) (s : σ) : σ :=
  w.joinFrom ids maxSteps s

/-- Waits until a certain time; the clock moves at most `fuel` times. -/
def sleepFrom (goal : Nat) : Nat → σ → σ
  | 0, s => s
  | fuel + 1, s =>
    let s := w.settle none s
    match (w.nextDue s).filter (· < goal) with
    | some time => sleepFrom goal fuel (w.setNow time s)
    | none => w.setNow goal s

/-- Waits for some time. -/
def sleep (millis : Nat) (s : σ) : σ :=
  if millis = 0 then s else w.sleepFrom (w.now s + millis) maxSteps s

end Schedule

end DohRelay.Rehearsal
