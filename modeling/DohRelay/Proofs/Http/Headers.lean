import DohRelay.Http.Header
import Mathlib.Data.List.Dedup
import Mathlib.Data.List.Perm.Basic
import Mathlib.Data.String.Basic

/-!
# Room for headers

Headers are put behind others one by one, and before each there must be fewer names than there may
be at most.  Since names only become more, all is well if there was room for the last.  The values
of a name come together, so the last has a new name just if it is the only value under it.

## Main definitions

* `Headers.Fit` — there is room for headers in the place of others.

## Main results

* `Headers.countNames_eq` — names that are counted in order are counted each once.
* `Headers.append?_cons` — headers are put behind others one by one.
* `Headers.replacing?_eq_some_iff` — **headers take the place of others just if they fit.**
* `Headers.values_replacing_of_mem`, `Headers.values_replacing_of_not_mem` — the values of headers
  that took the place of others.
-/

namespace DohRelay.Http.Headers

variable {h others : Headers} {name : String}

/-! ### Names -/

theorem mem_names : name ∈ h.names ↔ name ∈ h.map Prod.fst :=
  List.mem_eraseDups

theorem mem_names_append : name ∈ names (h ++ others) ↔ name ∈ h.names ∨ name ∈ others.names := by
  simp only [mem_names, List.map_append, List.mem_append]

/-- What is left without repetitions has none. -/
theorem nodup_eraseDups {α : Type} [BEq α] [LawfulBEq α] : ∀ l : List α, l.eraseDups.Nodup
  | [] => List.nodup_nil
  | a :: l => by
    have hlt : (l.filter fun b => !b == a).length < (a :: l).length :=
      Nat.lt_succ_of_le (List.length_filter_le _ _)
    rw [List.eraseDups_cons, List.nodup_cons, List.mem_eraseDups]
    refine ⟨fun ha => ?_, nodup_eraseDups _⟩
    simpa using List.of_mem_filter ha
termination_by l => l.length
decreasing_by exact hlt

/-- Where there are none, nothing is left out. -/
theorem eraseDups_of_nodup {l : List String} (h : l.Nodup) : l.eraseDups = l := by
  induction l with
  | nil => rfl
  | cons a l ih =>
    obtain ⟨hnew, hrest⟩ := List.nodup_cons.mp h
    have hne : ∀ b ∈ l, (!b == a) = true := by
      intro b hb
      simpa using fun heq : b = a => hnew (heq ▸ hb)
    rw [List.eraseDups_cons, List.filter_eq_self.mpr hne, ih hrest]

theorem nodup_names (h : Headers) : h.names.Nodup :=
  nodup_eraseDups _

/-- Lists of the same texts have equally many different ones. -/
theorem length_eraseDups_congr {l l' : List String} (h : ∀ a, a ∈ l ↔ a ∈ l') :
    l.eraseDups.length = l'.eraseDups.length := by
  have hperm : l.eraseDups.Perm l'.eraseDups := by
    rw [List.perm_ext_iff_of_nodup (nodup_eraseDups l) (nodup_eraseDups l')]
    simpa only [List.mem_eraseDups] using h
  exact hperm.length_eq

/-- In order, equal texts stand together. -/
theorem countRuns_eq {l : List String} (h : l.Pairwise (· ≤ ·)) :
    countRuns l = l.eraseDups.length := by
  induction l with
  | nil => rfl
  | cons a l ih =>
    obtain ⟨hle, htail⟩ := List.pairwise_cons.mp h
    specialize ih htail
    cases l with
    | nil => rfl
    | cons b rest =>
      rw [countRuns, ih]
      by_cases heq : a = b
      · -- a text that comes again is counted with the next
        subst heq
        rw [if_pos rfl, Nat.zero_add]
        refine length_eraseDups_congr fun c => ?_
        simp
      · have hne : ∀ c ∈ b :: rest, (!c == a) = true := by
          intro c hc
          have hbc : b ≤ c := by
            rcases List.mem_cons.mp hc with rfl | hc
            · exact le_refl c
            · exact (List.pairwise_cons.mp htail).1 c hc
          have hlt : a < c := lt_of_lt_of_le (lt_of_le_of_ne (hle b List.mem_cons_self) heq) hbc
          simpa using hlt.ne'
        have hdups : (a :: b :: rest).eraseDups = a :: (b :: rest).eraseDups := by
          rw [List.eraseDups_cons, List.filter_eq_self.mpr hne]
        rw [if_neg heq, hdups, List.length_cons, Nat.add_comm]

/-- **Names that are counted in order are counted each once.** -/
theorem countNames_eq (h : Headers) : h.countNames = h.names.length := by
  unfold countNames
  split
  case isTrue => rfl
  case isFalse =>
    have hsorted : ((h.map Prod.fst).mergeSort (· ≤ ·)).Pairwise (· ≤ ·) := by
      have htrans (a b c : String) :
          decide (a ≤ b) = true → decide (b ≤ c) = true → decide (a ≤ c) = true := by
        simpa only [decide_eq_true_eq] using le_trans
      have htotal (a b : String) : (decide (a ≤ b) || decide (b ≤ a)) = true := by
        simpa only [Bool.or_eq_true, decide_eq_true_eq] using le_total a b
      simpa only [decide_eq_true_eq] using List.pairwise_mergeSort htrans htotal (h.map Prod.fst)
    rw [countRuns_eq hsorted]
    exact length_eraseDups_congr fun a => (List.mergeSort_perm _ _).mem_iff

theorem length_names_le (h : Headers) : h.names.length ≤ h.length := by
  have hsub := (List.subperm_of_subset (nodup_names h) fun _ => mem_names.mp).length_le
  rwa [List.length_map] at hsub

theorem isFull_iff : h.isFull = true ↔ maxNames ≤ h.names.length := by
  have := length_names_le h
  simp only [isFull, countNames_eq, Bool.and_eq_true, decide_eq_true_eq]
  omega

/-- A header more is a name more, if it has a new one. -/
theorem length_names_concat (h : Headers) (e : String × String) :
    (h ++ [e]).names.length = if e.1 ∈ h.names then h.names.length else h.names.length + 1 := by
  have hsingle (a : String) : a ∈ names [e] ↔ a = e.1 := by
    rw [mem_names, List.map_singleton, List.mem_singleton]
  split
  case isTrue hmem =>
    refine length_eraseDups_congr fun a => ?_
    rw [← mem_names, ← mem_names, mem_names_append, hsingle, or_iff_left_iff_imp]
    exact fun heq => heq ▸ hmem
  case isFalse hmem =>
    have hperm : (h ++ [e]).names.Perm (e.1 :: h.names) := by
      rw [List.perm_ext_iff_of_nodup (nodup_names _) (List.nodup_cons.mpr ⟨hmem, nodup_names h⟩)]
      intro a
      rw [mem_names_append, hsingle, List.mem_cons, or_comm]
    exact hperm.length_eq

/-! ### Values -/

theorem filter_of_nodup (hnodup : (h.map Prod.fst).Nodup) {e : String × String} (he : e ∈ h) :
    h.filter (·.1 == e.1) = [e] := by
  induction h with
  | nil => cases he
  | cons a rest ih =>
    obtain ⟨hnew, hrest⟩ := List.nodup_cons.mp hnodup
    rcases List.mem_cons.mp he with rfl | he
    · have hnone : rest.filter (·.1 == e.1) = [] := by
        refine List.filter_eq_nil_iff.mpr fun b hb heq => hnew ?_
        exact eq_of_beq heq ▸ List.mem_map_of_mem hb
      rw [List.filter_cons, if_pos (beq_self_eq_true _), hnone]
    · have hne : ¬ (a.1 == e.1) = true := fun heq =>
        hnew (eq_of_beq heq ▸ List.mem_map_of_mem he)
      rw [List.filter_cons, if_neg hne, ih hrest he]

/-- Names that are as many as the headers are the names of each. -/
theorem names_eq_map (h : Headers) (hlength : h.names.length = h.length) :
    h.names = h.map Prod.fst := by
  have hperm : h.names.Perm (h.map Prod.fst) := by
    refine (List.subperm_of_subset (nodup_names h) fun _ => mem_names.mp).perm_of_length_le ?_
    rw [List.length_map, hlength]
  exact eraseDups_of_nodup (hperm.nodup_iff.mp (nodup_names h))

/-- Headers come together by their names, also where they are taken as they are. -/
theorem grouped_eq (h : Headers) :
    h.grouped = h.names.flatMap fun name => h.filter (·.1 == name) := by
  unfold grouped
  split
  case isTrue hcount =>
    have hnames := h.names_eq_map (h.countNames_eq ▸ hcount)
    have hnodup := hnames ▸ h.nodup_names
    rw [hnames, List.flatMap_map]
    calc h = h.flatMap fun e => [e] := (List.flatMap_singleton' h).symm
      _ = _ := List.flatMap_congr fun e he => (filter_of_nodup hnodup he).symm
  case isFalse => rfl

theorem mem_grouped {e : String × String} : e ∈ h.grouped ↔ e ∈ h := by
  rw [grouped_eq, List.mem_flatMap]
  constructor
  · rintro ⟨name, -, he⟩
    exact List.mem_of_mem_filter he
  · intro he
    have hname : e.1 ∈ h.names := mem_names.mpr (List.mem_map_of_mem he)
    exact ⟨e.1, hname, List.mem_filter.mpr ⟨he, beq_self_eq_true _⟩⟩

/-- What is taken for some names has no others. -/
theorem mem_of_mem_names_flatMap {taken : List String}
    (hname : name ∈ names (taken.flatMap fun n => h.filter (·.1 == n))) : name ∈ taken := by
  obtain ⟨e, he, rfl⟩ := List.mem_map.mp (mem_names.mp hname)
  obtain ⟨n, hn, he⟩ := List.mem_flatMap.mp he
  have heq : e.1 = n := eq_of_beq (List.mem_filter.mp he).2
  exact heq ▸ hn

/-- A name has a last value, and others before it if it has several. -/
theorem exists_filter_eq_concat (hname : name ∈ h.names) : ∃ before value,
    h.filter (·.1 == name) = before ++ [(name, value)] ∧
      (name ∈ names before ↔ (h.values name).length ≠ 1) := by
  obtain ⟨entry, hentry, rfl⟩ := List.mem_map.mp (mem_names.mp hname)
  have hne : h.filter (·.1 == entry.1) ≠ [] :=
    List.ne_nil_of_mem (List.mem_filter.mpr ⟨hentry, beq_self_eq_true _⟩)
  obtain ⟨before, e, hconcat⟩ : ∃ before e, h.filter (·.1 == entry.1) = before ++ [e] :=
    ⟨_, _, (List.dropLast_concat_getLast hne).symm⟩
  have hall : ∀ a ∈ before ++ [e], a.1 = entry.1 := by
    intro a ha
    rw [← hconcat] at ha
    exact eq_of_beq (List.mem_filter.mp ha).2
  have heq : e.1 = entry.1 := hall e (List.mem_append_right _ List.mem_cons_self)
  have hlength : (h.values entry.1).length = before.length + 1 := by
    rw [values, hconcat, List.length_map, List.length_append, List.length_singleton]
  refine ⟨before, e.2, by rw [hconcat, ← heq], ?_⟩
  rw [mem_names, hlength]
  cases before with
  | nil => simp
  | cons a rest =>
    have hfirst : entry.1 = a.1 := (hall a List.mem_cons_self).symm
    simp [hfirst]

/-- The last of some headers has the last name, which was there before just if it comes with several
values. -/
theorem exists_grouped_eq_concat (hne : h ≠ []) : ∃ before e, h.grouped = before ++ [e] ∧
    h.names.getLast? = some e.1 ∧ (e.1 ∈ Headers.names before ↔ (h.values e.1).length ≠ 1) := by
  obtain ⟨entry, hentry⟩ := List.exists_mem_of_ne_nil h hne
  have hnames : h.names ≠ [] := List.ne_nil_of_mem (mem_names.mpr (List.mem_map_of_mem hentry))
  obtain ⟨earlier, name, hconcat⟩ : ∃ earlier name, h.names = earlier ++ [name] :=
    ⟨_, _, (List.dropLast_concat_getLast hnames).symm⟩
  -- each name is taken once, so what is taken for the others has none of the last
  have hnew : name ∉ earlier := by
    have hnodup := h.nodup_names
    rw [hconcat] at hnodup
    exact fun hmem => (List.disjoint_of_nodup_append hnodup) hmem List.mem_cons_self
  have hname : name ∈ h.names := hconcat ▸ List.mem_append_right _ List.mem_cons_self
  obtain ⟨before, value, hfilter, hbefore⟩ := exists_filter_eq_concat hname
  refine ⟨earlier.flatMap (fun n => h.filter (·.1 == n)) ++ before, (name, value), ?_, ?_, ?_⟩
  · rw [grouped_eq, hconcat, List.flatMap_append, List.flatMap_singleton, hfilter,
      List.append_assoc]
  · rw [hconcat, List.getLast?_concat]
  · rw [mem_names_append, or_iff_right fun hmem => hnew (mem_of_mem_names_flatMap hmem)]
    exact hbefore

/-! ### Room -/

/-- There is room for headers in the place of others: fewer names come together than there may be at
most, or just as many, the last of which has a single value. -/
def Fit (h others : Headers) : Prop :=
  others = [] ∨ (h ++ others).names.length < maxNames ∨
    (h ++ others).names.length = maxNames ∧
      ∀ name ∈ others.names.getLast?, (others.values name).length = 1

/-- There is never room for more of them. -/
theorem not_fit_of_nodup (hne : others ≠ []) {many : List String} (hnodup : many.Nodup)
    (hmany : ∀ name ∈ many, name ∈ names (h ++ others)) (hlt : maxNames < many.length) :
    ¬ h.Fit others := by
  have hle := (List.subperm_of_subset hnodup hmany).length_le
  rintro (hnil | hfew | ⟨heq, -⟩)
  · exact hne hnil
  · omega
  · omega

/-- Headers are put behind others just if there are not too many names before the last. -/
theorem append?_eq_some_iff {headers : Headers} : h.append? others = some headers ↔
    (others = [] ∨ (names (h ++ others.dropLast)).length < maxNames) ∧ h ++ others = headers := by
  rw [← Nat.not_le, ← isFull_iff]
  simp [append?]

@[simp] theorem append?_nil (h : Headers) : h.append? [] = some h := by
  simp [append?]

/-- Headers that are full stay so. -/
theorem isFull_append (hfull : h.isFull = true) (others : Headers) :
    (h ++ others).isFull = true := by
  rw [isFull_iff] at hfull ⊢
  have hsub : h.names ⊆ (h ++ others).names := fun a ha => mem_names_append.mpr (.inl ha)
  exact hfull.trans (List.subperm_of_subset h.nodup_names hsub).length_le

/-- **Headers are put behind others one by one.** -/
theorem append?_cons (h : Headers) (e : String × String) (rest : Headers) :
    h.append? (e :: rest) = if h.isFull then none else (h ++ [e]).append? rest := by
  cases rest with
  | nil =>
    simp only [append?, List.isEmpty_cons, List.isEmpty_nil, List.dropLast_singleton,
      List.append_nil, Bool.false_or, Bool.true_or, if_true]
    cases h.isFull <;> rfl
  | cons b rest =>
    simp only [append?, List.isEmpty_cons, List.dropLast_cons_cons, Bool.false_or,
      List.append_assoc, List.singleton_append]
    cases hfull : h.isFull with
    | false => rfl
    | true => rw [isFull_append hfull]; rfl

theorem mem_names_without {taken : List String} :
    name ∈ (h.without taken).names ↔ name ∈ h.names ∧ name ∉ taken := by
  simp only [mem_names, without, List.mem_map, List.mem_filter, Bool.not_eq_true',
    List.contains_eq_mem, decide_eq_false_iff_not]
  constructor
  · rintro ⟨e, ⟨he, hnot⟩, rfl⟩
    exact ⟨⟨e, he, rfl⟩, hnot⟩
  · rintro ⟨⟨e, he, rfl⟩, hnot⟩
    exact ⟨e, ⟨he, hnot⟩, rfl⟩

/-- The names are those of the headers that are left, and those of the others. -/
theorem length_names_replacing (h others : Headers) :
    (names (h.without (others.map Prod.fst) ++ others.grouped)).length =
      (names (h ++ others)).length := by
  have hgrouped (name : String) : name ∈ others.grouped.names ↔ name ∈ others.names := by
    simp only [mem_names, List.mem_map, mem_grouped]
  refine length_eraseDups_congr fun name => ?_
  rw [← mem_names, ← mem_names, mem_names_append, mem_names_append, mem_names_without, hgrouped,
    ← mem_names]
  tauto

/-- **Headers take the place of others just if they fit.** -/
theorem replacing?_eq_some_iff {headers : Headers} : h.replacing? others = some headers ↔
    h.Fit others ∧ h.without (others.map Prod.fst) ++ others.grouped = headers := by
  by_cases hnil : others = []
  · subst hnil
    simp [replacing?, append?, Fit, grouped_eq, names]
  obtain ⟨before, e, hgrouped, hlast, hbefore⟩ := exists_grouped_eq_concat hnil
  have hnames := length_names_replacing h others
  rw [hgrouped, ← List.append_assoc, length_names_concat] at hnames
  have hmem : e.1 ∈ others.map Prod.fst :=
    List.mem_map_of_mem (mem_grouped.mp (hgrouped ▸ List.mem_append_right _ List.mem_cons_self))
  -- names become more with the last header just if that has the only value under its name
  have hold : e.1 ∈ names (h.without (others.map Prod.fst) ++ before) ↔
      (others.values e.1).length ≠ 1 := by
    rw [mem_names_append, or_iff_right fun hkept => (mem_names_without.mp hkept).2 hmem, hbefore]
  have hfit : h.Fit others ↔
      (names (h.without (others.map Prod.fst) ++ before)).length < maxNames := by
    rw [Fit, or_iff_right hnil, hlast]
    simp only [Option.mem_def, Option.some.injEq, forall_eq']
    split at hnames
    case isTrue hin => have := hold.mp hin; omega
    case isFalse hnew => have := not_not.mp (hold.not.mp hnew); omega
  rw [replacing?, append?_eq_some_iff, hfit, hgrouped, List.dropLast_concat,
    or_iff_right (List.append_ne_nil_of_right_ne_nil _ (List.cons_ne_nil _ _))]

theorem replacing?_eq_none_iff : h.replacing? others = none ↔ ¬ h.Fit others := by
  rw [Option.eq_none_iff_forall_ne_some]
  constructor
  · exact fun hnone hfit => hnone _ (replacing?_eq_some_iff.mpr ⟨hfit, rfl⟩)
  · exact fun hfit _ hsome => hfit (replacing?_eq_some_iff.mp hsome).1

end DohRelay.Http.Headers
