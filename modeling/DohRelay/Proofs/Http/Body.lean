import DohRelay.Http.Body

/-!
# Bodies, part by part

A body is read in parts, and the parts that came are held.  No more is ever held than a body may
have, and what is held is the beginning of the body, so that it makes no difference where one part
ends and the next begins: a body is had if it is short enough, and was not announced to be longer.

## Main definitions

* `Http.Fits` — a body is short enough, and was announced to be.
* `Http.Reading` — how far the reading of a body can come.

## Main results

* `readBody_eq_ok_iff` — a body is had just if it fits.
* `readBody_of_not_fits` — otherwise it is told to have some length that is too long.
* `bodies_are_bounded` — **what is read is the body if it fits, however it is cut into parts.**
-/

namespace DohRelay.Http

/-- A body, which comes in parts, is short enough. -/
structure Fits (announced : Option Nat) (parts : List (List UInt8)) : Prop where
  /-- It was announced to be, if its length was announced, -/
  announced_le : ∀ length, announced = some length → length ≤ maxBodyLength
  /-- and it is. -/
  length_le : parts.flatten.length ≤ maxBodyLength

/-- How far the reading of some parts can come: what is held, and the parts that are still to come.
-/
inductive Reading (parts : List (List UInt8)) : List UInt8 → List (List UInt8) → Prop
  /-- Nothing is held at first. -/
  | start : Reading parts [] parts
  /-- One part more is held if it is not too much. -/
  | part {held part : List UInt8} {rest : List (List UInt8)}
      (reading : Reading parts held (part :: rest))
      (room : held.length + part.length ≤ maxBodyLength) : Reading parts (held ++ part) rest

section

variable {announced : Option Nat} {parts rest : List (List UInt8)} {held body : List UInt8}

/-! ### Parts -/

/-- One part more is held, or it is too much. -/
theorem readParts_cons (held part : List UInt8) (rest : List (List UInt8)) :
    readParts held (part :: rest) =
      if held.length + part.length ≤ maxBodyLength then readParts (held ++ part) rest
      else .error (bodyTooLong (held.length + part.length)) := by
  by_cases hroom : held.length + part.length ≤ maxBodyLength
  · rw [readParts, if_pos hroom, if_neg (Nat.not_lt.mpr hroom)]
  · rw [readParts, if_neg hroom, if_pos (Nat.lt_of_not_le hroom)]

/-- Parts that are not too much in all are all held in the end. -/
theorem readParts_of_le (h : held.length + rest.flatten.length ≤ maxBodyLength) :
    readParts held rest = .ok (held ++ rest.flatten) := by
  induction rest generalizing held with
  | nil => rw [readParts, List.flatten_nil, List.append_nil]
  | cons part rest ih =>
    rw [List.flatten_cons, List.length_append] at h
    have hroom : held.length + part.length ≤ maxBodyLength := by omega
    have hrest : (held ++ part).length + rest.flatten.length ≤ maxBodyLength := by
      rw [List.length_append]
      omega
    rw [readParts_cons, if_pos hroom, ih hrest, List.flatten_cons, List.append_assoc]

/-- Otherwise one of them is too much, and what came so far is told. -/
theorem readParts_of_lt (hheld : held.length ≤ maxBodyLength)
    (h : maxBodyLength < held.length + rest.flatten.length) :
    ∃ length, readParts held rest = .error (bodyTooLong length) ∧ maxBodyLength < length ∧
      length ≤ held.length + rest.flatten.length := by
  induction rest generalizing held with
  | nil =>
    rw [List.flatten_nil, List.length_nil, Nat.add_zero] at h
    exact absurd hheld (Nat.not_le.mpr h)
  | cons part rest ih =>
    rw [List.flatten_cons, List.length_append] at h ⊢
    rw [readParts_cons]
    split
    case isTrue hroom =>
      rw [← List.length_append] at hroom
      obtain ⟨length, herror, hlong, hle⟩ := ih hroom (by rw [List.length_append]; omega)
      rw [List.length_append] at hle
      exact ⟨length, herror, hlong, by omega⟩
    case isFalse hroom => exact ⟨_, rfl, Nat.lt_of_not_le hroom, by omega⟩

/-! ### Bodies -/

/-- A body that fits is had as its parts make it. -/
theorem readBody_of_fits (h : Fits announced parts) :
    readBody announced parts = .ok parts.flatten := by
  have hannounced : announced.filter (maxBodyLength < ·) = none := by
    refine Option.filter_eq_none_iff.mpr fun length hlength => ?_
    simpa using h.announced_le length hlength
  rw [readBody, hannounced]
  exact readParts_of_le (by simpa using h.length_le)

/-- One that does not is told to have some length that is too long: the one announced, or that of
what came of it. -/
theorem readBody_of_not_fits (h : ¬ Fits announced parts) :
    ∃ length, readBody announced parts = .error (bodyTooLong length) ∧ maxBodyLength < length ∧
      (announced = some length ∨ length ≤ parts.flatten.length) := by
  unfold readBody
  split
  case h_1 length hlength =>
    obtain ⟨hannounced, hlong⟩ := Option.filter_eq_some_iff.mp hlength
    exact ⟨length, rfl, of_decide_eq_true hlong, .inl hannounced⟩
  case h_2 hnone =>
    have hlong : maxBodyLength < parts.flatten.length := by
      refine Nat.lt_of_not_le fun hle => h ⟨fun length hlength => ?_, hle⟩
      simpa using Option.filter_eq_none_iff.mp hnone length hlength
    have hheld : ([] : List UInt8).length ≤ maxBodyLength := Nat.zero_le _
    obtain ⟨length, herror, hlt, hle⟩ := readParts_of_lt hheld (by simpa using hlong)
    exact ⟨length, herror, hlt, .inr (by simpa using hle)⟩

/-- **A body is had just if it fits.** -/
theorem readBody_eq_ok_iff :
    readBody announced parts = .ok body ↔ Fits announced parts ∧ body = parts.flatten := by
  by_cases hfits : Fits announced parts
  · rw [readBody_of_fits hfits, Except.ok.injEq, eq_comm]
    exact ⟨fun h => ⟨hfits, h⟩, And.right⟩
  · obtain ⟨length, herror, -⟩ := readBody_of_not_fits hfits
    rw [herror]
    exact ⟨nofun, fun h => absurd h.1 hfits⟩

/-- Whether a body fits does not depend on where its parts end. -/
theorem fits_congr {other : List (List UInt8)} (h : other.flatten = parts.flatten) :
    Fits announced other ↔ Fits announced parts :=
  ⟨fun hfits => ⟨hfits.announced_le, h ▸ hfits.length_le⟩,
    fun hfits => ⟨hfits.announced_le, h ▸ hfits.length_le⟩⟩

/-! ### What is held -/

namespace Reading

/-- No more is held than a body may have. -/
theorem length_le (h : Reading parts held rest) : held.length ≤ maxBodyLength := by
  cases h with
  | start => exact Nat.zero_le _
  | part _ room => rwa [List.length_append]

/-- What is held and what is still to come make the body. -/
theorem append_flatten (h : Reading parts held rest) :
    held ++ rest.flatten = parts.flatten := by
  induction h with
  | start => rfl
  | part _ _ ih => rw [List.append_assoc, ← List.flatten_cons, ih]

/-- The reading goes on from what is held. -/
theorem readParts_eq (h : Reading parts held rest) : readParts [] parts = readParts held rest := by
  induction h with
  | start => rfl
  | part _ room ih => rw [ih, readParts_cons, if_pos room]

/-- What is had in the end was held, with nothing still to come. -/
theorem of_readParts (h : Reading parts held rest) (hbody : readParts held rest = .ok body) :
    Reading parts body [] := by
  induction rest generalizing held with
  | nil =>
    rw [readParts, Except.ok.injEq] at hbody
    exact hbody ▸ h
  | cons part rest ih =>
    rw [readParts_cons] at hbody
    split at hbody
    case isTrue room => exact ih (h.part room) hbody
    case isFalse => cases hbody

end Reading

end

/-- **What is read is the body if it fits, however it is cut into parts.**  A body that does not fit
makes no sense, and a length that is too long is told of it: the one announced, or that of what came
of it.  At any time no more is held than a body may have, and it is the beginning of the body; the
body that is had is what is held when all parts came.  So other parts of the same body make the
same of it. -/
theorem bodies_are_bounded (announced : Option Nat) (parts : List (List UInt8)) :
    (∀ body, readBody announced parts = .ok body ↔
      ((∀ length, announced = some length → length ≤ 65535) ∧ parts.flatten.length ≤ 65535) ∧
        body = parts.flatten) ∧
    (¬ ((∀ length, announced = some length → length ≤ 65535) ∧ parts.flatten.length ≤ 65535) →
      ∃ length reason, readBody announced parts = .error (bodyTooLong length) ∧
        bodyTooLong length = .undecodable reason ∧ 65535 < length ∧
          (announced = some length ∨ length ≤ parts.flatten.length)) ∧
    (∀ held rest, Reading parts held rest → held.length ≤ 65535 ∧ held <+: parts.flatten ∧
      readParts [] parts = readParts held rest) ∧
    (∀ body, readParts [] parts = .ok body ↔ Reading parts body []) ∧
    ∀ other : List (List UInt8), other.flatten = parts.flatten →
      (readBody announced other).toOption = (readBody announced parts).toOption := by
  have hfits : ((∀ length, announced = some length → length ≤ 65535) ∧
      parts.flatten.length ≤ 65535) ↔ Fits announced parts :=
    ⟨fun h => ⟨h.1, h.2⟩, fun h => ⟨h.announced_le, h.length_le⟩⟩
  rw [hfits]
  refine ⟨fun body => readBody_eq_ok_iff, fun h => ?_, fun held rest h => ?_,
    fun body => ⟨Reading.start.of_readParts, fun h => h.readParts_eq⟩, fun other h => ?_⟩
  · obtain ⟨length, herror, hlong, hlength⟩ := readBody_of_not_fits h
    exact ⟨length, _, herror, rfl, hlong, hlength⟩
  · exact ⟨h.length_le, ⟨_, h.append_flatten⟩, h.readParts_eq⟩
  · by_cases hparts : Fits announced parts
    · rw [readBody_of_fits hparts, readBody_of_fits ((fits_congr h).mpr hparts), h]
    · obtain ⟨_, herror, -⟩ := readBody_of_not_fits hparts
      obtain ⟨_, hother, -⟩ := readBody_of_not_fits (mt (fits_congr h).mp hparts)
      rw [herror, hother]
      rfl

/-- Three octets of an unknown length are had whether they come one by one or at once, and are not
if they are announced as 65536. -/
theorem bodies_are_bounded_threeOctets :
    readBody none [[1], [2, 3]] = .ok [1, 2, 3] ∧
      (readBody none [[1, 2, 3]]).toOption = (readBody none [[1], [2, 3]]).toOption ∧
      ∃ length reason, readBody (some 65536) [[1], [2, 3]] = .error (bodyTooLong length) ∧
        bodyTooLong length = .undecodable reason ∧ 65535 < length ∧
          (some 65536 = some length ∨ length ≤ 3) := by
  have hfits : (∀ length, (none : Option Nat) = some length → length ≤ 65535) ∧
      [[1], [2, 3]].flatten.length ≤ 65535 := ⟨nofun, by decide⟩
  have hannounced : ¬ ((∀ length, some 65536 = some length → length ≤ 65535) ∧
      ([[1], [2, 3]] : List (List UInt8)).flatten.length ≤ 65535) :=
    fun h => absurd (h.1 65536 rfl) (by decide)
  exact ⟨((bodies_are_bounded none [[1], [2, 3]]).1 _).mpr ⟨hfits, rfl⟩,
    (bodies_are_bounded none [[1], [2, 3]]).2.2.2.2 _ rfl,
    (bodies_are_bounded (some 65536) [[1], [2, 3]]).2.1 hannounced⟩

end DohRelay.Http
