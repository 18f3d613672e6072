import DohRelay.Exchange.Transport
import DohRelay.Proofs.Exchange.Translation
import DohRelay.Proofs.Http.Body
import DohRelay.Proofs.Service.Keyed

/-!
# Responses that refuse

A response whose status is no success refuses the request, and there is nothing in its body that
anybody asks for.  The body is read all the same, before anyone looks at the status, and where it is
too long or breaks off, that is what is told, and the status is lost.

## Main definitions

* `Inquiry.Refuses` — a status is no success.

## Main results

* `refusals_are_told_iff` — **the status of a refusal is told just if its body fits, and comes to
  its end.**
* `refusal_lost` — a refusal with a page of 65536 octets, whose status is not told.
-/

namespace DohRelay

open Http (Fits bodyTooLong)

namespace Transport

variable {status : Nat} {announced : Option Nat} {parts : List (List UInt8)}

/-- A body that fits is received with the status before it, -/
theorem receive_responded_of_fits (h : Fits announced parts) :
    receive (.responded status announced parts) = .ok ⟨status, parts.flatten⟩ := by
  simp only [receive, Http.readBody_of_fits h]

/-- unless it breaks off, and the error that ends it is told. -/
theorem receive_broken_of_fits (h : Fits announced parts) (e : Error) :
    receive (.broken status announced parts e) = .error e := by
  simp only [receive, Http.readBody_of_fits h]

/-- One that does not fit makes no sense, whatever the status before it and the end. -/
theorem receive_of_not_fits (h : ¬ Fits announced parts) {event : Event}
    (hevent : event = .responded status announced parts ∨
      ∃ e, event = .broken status announced parts e) :
    ∃ reason, receive event = .error (.undecodable reason) := by
  obtain ⟨length, herror, -⟩ := Http.readBody_of_not_fits h
  obtain ⟨reason, hreason⟩ : ∃ reason, bodyTooLong length = .undecodable reason := ⟨_, rfl⟩
  refine ⟨reason, ?_⟩
  rcases hevent with rfl | ⟨e, rfl⟩ <;> simp only [receive, herror, hreason]

end Transport

namespace Inquiry

open Transport (receive)

/-- A status is no success. -/
def Refuses (status : Nat) : Prop :=
  ¬ (200 ≤ status ∧ status < 300)

section

variable {config : Config} {endpoint : Http.Request → Except Error Http.Response}
  {query : Dns.Message} {subnet : Option Net.Network} {q : Dns.Question} {r : Http.Request}
  {outcome : Except Failure Dns.Message}

/-- What comes of a request that was to be made is what is concluded from the response. -/
theorem run_of_plan (endpoint : Http.Request → Except Error Http.Response)
    (h : plan config query subnet = .ok (.exchange q r)) :
    run config endpoint query subnet =
      (((endpoint r).bind (conclude config query q)).mapError .told, some r) := by
  rw [run, h]

/-- A request that was made was to be made. -/
theorem plan_of_run (h : run config endpoint query subnet = (outcome, some r)) :
    ∃ q, plan config query subnet = .ok (.exchange q r) := by
  unfold run at h
  split at h
  case h_1 => cases h
  case h_2 => cases h
  case h_3 q made hplan =>
    obtain rfl : made = r := Option.some.inj (congrArg Prod.snd h)
    exact ⟨q, hplan⟩

/-- What is not received is what comes of a request. -/
theorem outcome_of_error (h : run config endpoint query subnet = (outcome, some r)) {e : Error}
    (herror : endpoint r = .error e) : outcome = .error (.told e) := by
  obtain ⟨q, hplan⟩ := plan_of_run h
  rw [run_of_plan endpoint hplan, herror] at h
  exact (congrArg Prod.fst h).symm

/-- The status of a refusal that is received is told. -/
theorem outcome_of_refuses (h : run config endpoint query subnet = (outcome, some r))
    {response : Http.Response} (hresponse : endpoint r = .ok response)
    (hstatus : Refuses response.status) :
    outcome = .error (.told (.httpStatus response.status)) := by
  obtain ⟨q, hplan⟩ := plan_of_run h
  rw [run_of_plan endpoint hplan] at h
  have hconcluded : Concluded config query q (endpoint r) _ := concluded_bind (endpoint r)
  exact (congrArg Prod.fst h).symm.trans (hconcluded.refused response hresponse hstatus)

end

/-- **The status of a refusal is told just if its body fits, and comes to its end.**  Whenever a
request was made and what came of it is a response whose status is no success, that status is told
if the body is not too long, neither as it was announced nor as it came; otherwise the response is
told to make no sense.  If the body breaks off, the reason for that is told, or again that it is too
long. -/
theorem refusals_are_told_iff {config : Config} {happens : Http.Request → Transport.Event}
    {query : Dns.Message} {subnet : Option Net.Network} {r : Http.Request}
    {outcome : Except Failure Dns.Message}
    (hrun : run config (fun r => receive (happens r)) query subnet = (outcome, some r))
    {status : Nat} (hstatus : Refuses status) {announced : Option Nat}
    {parts : List (List UInt8)} :
    (happens r = .responded status announced parts →
      (outcome = .error (.told (.httpStatus status)) ↔ Fits announced parts) ∧
        (¬ Fits announced parts → ∃ reason, outcome = .error (.told (.undecodable reason)))) ∧
    ∀ e, happens r = .broken status announced parts e →
      (Fits announced parts → outcome = .error (.told e)) ∧
        (¬ Fits announced parts → ∃ reason, outcome = .error (.told (.undecodable reason))) := by
  have hlost {event : Transport.Event} (h : happens r = event)
      (hevent : event = .responded status announced parts ∨
        ∃ e, event = .broken status announced parts e) (hno : ¬ Fits announced parts) :
      ∃ reason, outcome = .error (.told (.undecodable reason)) := by
    obtain ⟨reason, herror⟩ := Transport.receive_of_not_fits hno hevent
    exact ⟨reason, outcome_of_error hrun ((congrArg receive h).trans herror)⟩
  refine ⟨fun h => ⟨⟨fun htold => ?_, fun hfits => ?_⟩, hlost h (.inl rfl)⟩,
    fun e h => ⟨fun hfits => ?_, hlost h (.inr ⟨e, rfl⟩)⟩⟩
  · by_contra hno
    obtain ⟨reason, hreason⟩ := hlost h (.inl rfl) hno
    rw [htold] at hreason
    cases hreason
  · exact outcome_of_refuses hrun
      ((congrArg receive h).trans (Transport.receive_responded_of_fits hfits)) hstatus
  · exact outcome_of_error hrun
      ((congrArg receive h).trans (Transport.receive_broken_of_fits hfits e))

open Service (advertising rootMessage documented plan_rootMessage)

/-- The endpoint is overloaded, and says so in a page of 65535 octets that come in two parts. -/
theorem refusals_are_told_iff_page : Refuses 503 ∧ ∃ r,
    run advertising (fun _ => receive (.responded 503 none
        [List.replicate 65534 0x5a, [0x5a]])) rootMessage (some documented) =
      (.error (.told (.httpStatus 503)), some r) := by
  obtain ⟨r, hplan⟩ := plan_rootMessage
  have hrefuses : Refuses 503 := by unfold Refuses; decide
  have hfits : Fits none [List.replicate 65534 0x5a, [0x5a]] := by
    refine ⟨nofun, ?_⟩
    rw [List.flatten_cons, List.length_append, List.length_replicate]
    decide
  let happens : Http.Request → Transport.Event := fun _ =>
    .responded 503 none [List.replicate 65534 0x5a, [0x5a]]
  have hrun := run_of_plan (fun r => receive (happens r)) hplan
  have htold := ((refusals_are_told_iff hrun hrefuses).1 rfl).1.mpr hfits
  exact ⟨hrefuses, r, hrun.trans (congrArg (·, some r) htold)⟩

/-- **With one octet more the status is lost.** -/
theorem refusal_lost : Refuses 503 ∧ ∃ r reason,
    run advertising (fun _ => receive (.responded 503 (some 65536)
        [List.replicate 65536 0x5a])) rootMessage (some documented) =
      (.error (.told (.undecodable reason)), some r) := by
  obtain ⟨r, hplan⟩ := plan_rootMessage
  have hlong : ¬ Fits (some 65536) [List.replicate 65536 0x5a] :=
    fun h => absurd (h.announced_le 65536 rfl) (by decide)
  obtain ⟨reason, herror⟩ := Transport.receive_of_not_fits hlong
    (.inl rfl : Transport.Event.responded 503 _ _ = _ ∨ _)
  refine ⟨by unfold Refuses; decide, r, reason, ?_⟩
  rw [run_of_plan _ hplan, herror]
  rfl

end Inquiry

end DohRelay
