import DohRelay.Proofs.Dns.Recovery

/-!
# Data of records, written and read

Data that suits the type of its record can be read wherever it was written: names by their labels,
lists up to the end of the data, and checked forms because they have been checked before.  What is
read need not be what was written, since some forms are made plain by reading.

## Main definitions

* `RecordData.Suits` — data that the type of a record can have, with names that fit.

## Main results

* `RecordData.Suits.exists_readBy` — **what suits the type and is written can be read.**
-/

namespace DohRelay.Dns

open Reader Writer

/-! ### Data that suits a type -/

/-- The types whose data has a form. -/
def RecordType.formed : List RecordType :=
  [.a, .aaaa, .ns, .cname, .ptr, .aname, .mx, .soa, .srv, .txt, .hinfo, .naptr, .caa, .csync,
    .sshfp, .tlsa, .svcb, .https, .opt]

/-- The address of a client subnet has as many octets as its length reaches into. -/
def ClientSubnet.Reaches (s : ClientSubnet) : Prop :=
  octetCount s.source ≤ (family s.address).2.length

/-- The options of an extension record are told apart by their codes. -/
structure OptionSet.Readable (set : OptionSet) : Prop where
  /-- No client subnet is among the others. -/
  others : ∀ o ∈ set.others, o.1 ≠ ClientSubnet.code
  /-- The client subnet has an address for its length. -/
  subnet : ∀ s ∈ set.subnet, s.Reaches

/-- A service binding has a target that fits, and parameters in the form of their keys. -/
structure ServiceBinding.Readable (binding : ServiceBinding) : Prop where
  /-- The name of the target fits. -/
  target : binding.target.Fits
  /-- The keys ascend. -/
  ascending : binding.params.Pairwise fun x y => x.1 < y.1
  /-- Every value has the form of its key. -/
  formed : ∀ x ∈ binding.params, ∀ param, ServiceParam.ofKey? x.1 = some param →
    ∃ value, ∀ message p, readServiceParam x.2 param message p = .ok value p

/-- Data that the type of a record can have: it has the form of the type, and its names fit. -/
inductive RecordData.Suits : RecordType → RecordData → Prop
  | a (address : Net.Ipv4) : Suits .a (.a address)
  | aaaa (address : Net.Ipv6) : Suits .aaaa (.aaaa address)
  | host {type : RecordType} (htype : type ∈ [.ns, .cname, .ptr, .aname]) {n : Name}
      (hn : n.Fits) : Suits type (.host n)
  | mx (preference : UInt16) {exchange : Name} (hn : exchange.Fits) :
      Suits .mx (.mx preference exchange)
  | soa {primary mailbox : Name} (serial : UInt32) (refresh retry expire : Int32)
      (minimum : UInt32) (hprimary : primary.Fits) (hmailbox : mailbox.Fits) :
      Suits .soa (.soa primary mailbox serial refresh retry expire minimum)
  | srv (priority weight port : UInt16) {target : Name} (hn : target.Fits) :
      Suits .srv (.srv priority weight port target)
  | txt (strings : List (List UInt8)) : Suits .txt (.txt strings)
  | hinfo (cpu os : List UInt8) : Suits .hinfo (.hinfo cpu os)
  | naptr (order preference : UInt16) {flags : List UInt8} (services regexp : List UInt8)
      {replacement : Name} (hflags : flags.all isAlphanumByte = true) (hn : replacement.Fits) :
      Suits .naptr (.naptr order preference flags services regexp replacement)
  | caa (critical : Bool) {tag : List UInt8} (value : List UInt8)
      (htag : tag.all isAlphanumByte = true) (hlength : 1 ≤ tag.length ∧ tag.length ≤ 15) :
      Suits .caa (.caa critical tag value)
  | csync (serial : UInt32) {flags : UInt16} (types : List UInt16) (hflags : flags &&& 0xfc = 0) :
      Suits .csync (.csync serial flags types)
  | service {type : RecordType} (htype : type ∈ [.svcb, .https]) {binding : ServiceBinding}
      (h : binding.Readable) : Suits type (.service binding)
  | options {set : OptionSet} (h : set.Readable) : Suits .opt (.options set)
  /-- A fingerprint of a host key is told with two numbers. -/
  | fingerprint {bytes : List UInt8} (h : 2 ≤ bytes.length) : Suits .sshfp (.octets bytes)
  /-- An association of a certificate is told with three numbers. -/
  | association {bytes : List UInt8} (h : 3 ≤ bytes.length) : Suits .tlsa (.octets bytes)
  /-- The type without a meaning has no data. -/
  | nothing {type : RecordType} (hzero : type.code = 0) : Suits type (.octets [])
  /-- All other types may have any octets. -/
  | octets {type : RecordType} (hformed : type ∉ RecordType.formed) (hzero : type.code ≠ 0)
      (bytes : List UInt8) : Suits type (.octets bytes)

/-! ### Addresses and lists of strings -/

theorem readBy_a (address : Net.Ipv4) :
    ReadBy (data (.a address)) (readForm .a) (.a (.ofBytes address.bytes)) := by
  refine .of_plain (.of_put address.bytes) fun _ => ?_
  have hoctets := makes_times_octet address.bytes
  rw [Net.Ipv4.length_bytes] at hoctets ⊢
  exact hoctets.bind_end (.pure rfl)

theorem exists_readBy_aaaa (address : Net.Ipv6) :
    ∃ d, ReadBy (data (.aaaa address)) (readForm .aaaa) d := by
  obtain ⟨groups, hgroups⟩ :=
    exists_makes_times_word16 (n := 8) (address.length_bytes : address.bytes.length = 2 * 8)
  refine ⟨_, .of_plain (.of_put address.bytes) fun _ => hgroups.bind_end (.pure rfl)⟩

/-- Character strings are read up to the end of them. -/
theorem charStrings_eq {strings : List (List UInt8)} (hshort : ∀ s ∈ strings, s.length ≤ 255)
    {fuel : Nat} (hfuel : strings.length ≤ fuel) {message : Array UInt8} {p : Nat}
    (hp : p ≤ message.size) (hstands : Stands (strings.flatMap charStringBytes) message p) :
    charStrings (p + (strings.flatMap charStringBytes).length) fuel message p =
      .ok strings (p + (strings.flatMap charStringBytes).length) := by
  induction strings generalizing fuel p with
  | nil =>
    cases fuel with
    | zero => rfl
    | succ fuel =>
      rw [charStrings, Reader.bind_of_ok (position_eq message p)]
      exact if_neg (Nat.lt_irrefl p) ▸ rfl
  | cons s rest ih =>
    obtain ⟨hs, hrest⟩ := List.forall_mem_cons.mp hshort
    rw [List.flatMap_cons] at hstands ⊢
    have hp' := le_size_of_stands hp hstands.left
    obtain ⟨fuel, rfl⟩ := Nat.exists_eq_add_one.mpr (Nat.zero_lt_of_lt hfuel)
    have hread := makes_charString hs message p hp hstands.left
    have hmore := ih hrest (Nat.le_of_succ_le_succ hfuel) hp' hstands.right
    rw [List.length_append, ← Nat.add_assoc]
    rw [charStrings, Reader.bind_of_ok (position_eq message p)]
    have hlt : p < p + (charStringBytes s).length + (rest.flatMap charStringBytes).length := by
      simp only [charStringBytes, List.length_cons]
      omega
    rw [if_pos hlt, Reader.bind_of_ok hread]
    exact (Reader.bind_of_ok hmore).trans rfl

/-- Texts are short if they are written. -/
theorem length_le_of_forM_charString {strings : List (List UInt8)} {out out' : Output} {u : Unit}
    (h : strings.forM Writer.charString out = .ok u out') : ∀ s ∈ strings, s.length ≤ 255 := by
  induction strings generalizing out with
  | nil => simp
  | cons s rest ih =>
    obtain ⟨_, middle, hfirst, hrest⟩ := Writer.bind_eq_ok h
    exact List.forall_mem_cons.mpr ⟨(charString_eq_ok hfirst).1, ih hrest⟩

theorem length_le_length_flatMap {α β : Type} {f : α → List β} (h : ∀ a, 1 ≤ (f a).length)
    (as : List α) : as.length ≤ (as.flatMap f).length := by
  induction as with
  | nil => exact Nat.le_refl 0
  | cons a as ih =>
    have := h a
    rw [List.flatMap_cons, List.length_append, List.length_cons]
    omega

theorem readBy_txt (strings : List (List UInt8)) :
    ReadBy (data (.txt strings)) (readForm .txt) (.txt strings) := by
  have hplain : Plain (data (.txt strings)) (strings.flatMap charStringBytes) :=
    Plain.forM plain_charString strings
  refine .of_written hplain.puts fun out u out' hout => .of_plain hplain fun _ => ?_
  have hshort := length_le_of_forM_charString hout
  intro message p hp hstands
  have hfuel : strings.length ≤ (strings.flatMap charStringBytes).length :=
    length_le_length_flatMap (fun s => by simp [charStringBytes]) strings
  exact (Reader.bind_of_ok (position_eq message p)).trans
    ((Reader.bind_of_ok (charStrings_eq hshort hfuel hp hstands)).trans rfl)

/-! ### Sets of types -/

namespace TypeSet

/-- The octets of a map are read, and then what follows the map. -/
theorem exists_makes_map (upper : UInt8) (done : Nat) {rest : List UInt8} {n : Nat}
    {more : List UInt16} (hrest : Makes (readBlocks n none) rest more) {map : List UInt8}
    (hne : map ≠ []) (hroom : done + map.length ≤ 32) :
    ∃ types, Makes (readBlocks (map.length + n) (some (upper, done, map.length)))
      (map ++ rest) types := by
  induction map generalizing done with
  | nil => exact absurd rfl hne
  | cons b map ih =>
    rw [List.length_cons] at hroom ⊢
    obtain ⟨types, htypes⟩ : ∃ types, typesOf upper done b = .ok types :=
      ⟨_, if_pos (.inr (by omega))⟩
    have hcount : map.length + 1 + n = map.length + n + 1 := by omega
    -- after the last octet of the map comes another block
    obtain ⟨others, hothers⟩ : ∃ others, Makes (readBlocks (map.length + n)
        (if map.length + 1 = 1 then none else some (upper, done + 1, map.length + 1 - 1)))
          (map ++ rest) others := by
      cases map with
      | nil =>
        refine ⟨more, ?_⟩
        simpa using hrest
      | cons c map =>
        rw [if_neg (by simp)]
        exact ih (done + 1) (List.cons_ne_nil c map) (by omega)
    refine ⟨types ++ others, ?_⟩
    rw [hcount, readBlocks]
    refine (gives_octet b).makes.bind (x := [b]) ?_
    have hvalue : Makes (Reader.ofExcept (typesOf upper done b)) [] types := by
      rw [htypes]
      exact .pure rfl
    refine hvalue.bind (x := []) ?_
    rw [if_neg (Nat.succ_ne_zero _)]
    exact hothers.bind_end (.pure rfl)

/-- A block has an upper octet, the length of its map, and the map, which is not empty and has 32
octets at most. -/
theorem block_cases (types : List Nat) (upper : Nat) : block types upper = [] ∨
    ∃ map, map ≠ [] ∧ map.length ≤ 32 ∧
      block types upper = UInt8.ofNat upper :: UInt8.ofNat map.length :: map := by
  unfold block
  simp only
  split
  case h_1 => exact .inl rfl
  case h_2 greatest hmax =>
    have hmem := List.max?_mem hmax
    have hlt : greatest < 256 := by
      obtain ⟨t, -, rfl⟩ := List.mem_map.mp hmem
      exact Nat.mod_lt _ (by decide)
    refine .inr ⟨_, ?_, ?_, by rw [List.length_map, List.length_range]⟩
    · simp
    · rw [List.length_map, List.length_range]
      omega

/-- Blocks are read one after the other. -/
theorem exists_makes_blocks (types uppers : List Nat) : ∃ found,
    Makes (readBlocks (uppers.flatMap (block types)).length none)
      (uppers.flatMap (block types)) found := by
  induction uppers with
  | nil =>
    refine ⟨[], ?_⟩
    rw [List.flatMap_nil, List.length_nil, readBlocks]
    exact .pure rfl
  | cons upper uppers ih =>
    obtain ⟨more, hmore⟩ := ih
    rw [List.flatMap_cons]
    rcases block_cases types upper with hnil | ⟨map, hne, hlength, hblock⟩
    · rw [hnil]
      exact ⟨more, hmore⟩
    · obtain ⟨found, hfound⟩ :=
        exists_makes_map (UInt8.ofNat upper) 0 hmore hne (by omega)
      have hcount : (UInt8.ofNat map.length).toNat = map.length :=
        UInt8.toNat_ofNat_of_lt' (by simp only [UInt8.size]; omega)
      have hsum : (block types upper ++ uppers.flatMap (block types)).length =
          map.length + (uppers.flatMap (block types)).length + 2 := by
        rw [hblock, List.length_append, List.length_cons, List.length_cons]
        omega
      refine ⟨found, ?_⟩
      rw [hsum, readBlocks, hblock]
      refine (gives_octet _).makes.bind (x := [_]) ((gives_octet _).makes.bind (x := [_]) ?_)
      rw [hcount]
      exact hfound

/-- Every set of types can be read. -/
theorem exists_makes_read (types : List UInt16) :
    ∃ found, Makes (read (bytes types).length) (bytes types) found :=
  exists_makes_blocks _ _

end TypeSet

theorem exists_readBy_csync (serial : UInt32) {flags : UInt16} (types : List UInt16)
    (hflags : flags &&& 0xfc = 0) :
    ∃ d, ReadBy (data (.csync serial flags types)) (readForm .csync) d := by
  obtain ⟨found, hfound⟩ := TypeSet.exists_makes_read types
  have hplain : Plain (data (.csync serial flags types))
      (bytes32 serial ++ (bytes16 flags ++ TypeSet.bytes types)) :=
    (Plain.of_put _).bind ((Plain.of_put _).bind (.of_put _))
  refine ⟨.csync serial (flags &&& 3) found, .of_plain hplain fun _ => ?_⟩
  have hlength : (bytes32 serial ++ (bytes16 flags ++ TypeSet.bytes types)).length =
      (TypeSet.bytes types).length + 6 := by
    simp only [bytes32, bytes16, List.length_append, List.length_cons, List.length_nil]
    omega
  rw [hlength]
  show Makes (readSync _) _ _
  unfold readSync
  refine (gives_word32 serial).makes.bind ((gives_word16 flags).makes.bind ?_)
  rw [if_neg (by simp [hflags]), if_neg (by omega), Nat.add_sub_cancel]
  exact hfound.bind_end (.pure rfl)

/-! ### Options -/

/-- What is made of octets by themselves is made of them wherever the reader stands. -/
theorem within_of_ok {α : Type} {r : Reader α} {bytes : List UInt8} {a : α} {q : Nat}
    (h : r bytes.toArray 0 = .ok a q) (message : Array UInt8) (p : Nat) :
    within bytes r message p = .ok a p := by
  rw [within, Reader.run, h]
  rfl

/-- A reader of certain octets makes its value of them by themselves. -/
theorem within_of_makes {α : Type} {r : Reader α} {bytes : List UInt8} {a : α}
    (h : Makes r bytes a) (message : Array UInt8) (p : Nat) :
    within bytes r message p = .ok a p :=
  within_of_ok (h _ 0 (Nat.zero_le _) (Stands.self bytes)) message p

/-- The part of a client subnet behind its family can be read if the address is long enough. -/
theorem exists_makes_readSubnetOf {width : Nat} (address : List UInt8 → Net.Ip)
    (source scope : UInt8) {octets : List UInt8} (hwidth : octets.length = width)
    (hreaches : ClientSubnet.octetCount source ≤ width) :
    ∃ found, Makes (readSubnetOf width address)
      ([source] ++ ([scope] ++ octets.take (ClientSubnet.octetCount source))) found := by
  have hcount : (octets.take (ClientSubnet.octetCount source)).length =
      ClientSubnet.octetCount source := List.length_take_of_le (by omega)
  have htake := makes_times_octet (octets.take (ClientSubnet.octetCount source))
  rw [hcount] at htake
  refine ⟨⟨address (octets.take (ClientSubnet.octetCount source) ++
    List.replicate (width - ClientSubnet.octetCount source) 0), source, scope⟩, ?_⟩
  unfold readSubnetOf
  refine (gives_octet source).makes.bind ((gives_octet scope).makes.bind ?_)
  rw [if_neg (Nat.not_lt.mpr hreaches)]
  exact htake.bind_end (.pure rfl)

/-- A client subnet can be read if its address is long enough. -/
theorem exists_makes_readSubnet {s : ClientSubnet} (h : s.Reaches) :
    ∃ found, Makes readSubnet s.bytes found := by
  obtain ⟨address, source, scope⟩ := s
  cases address with
  | v4 address =>
    simp only [ClientSubnet.Reaches, ClientSubnet.family, Net.Ipv4.length_bytes] at h
    obtain ⟨found, hfound⟩ := exists_makes_readSubnetOf (fun bytes => .v4 (.ofBytes bytes)) source
      scope address.length_bytes h
    refine ⟨found, ?_⟩
    show Makes readSubnet (bytes16 1 ++ _) found
    unfold readSubnet
    refine (gives_word16 1).makes.bind ?_
    rw [if_pos rfl]
    exact hfound
  | v6 address =>
    simp only [ClientSubnet.Reaches, ClientSubnet.family, Net.Ipv6.length_bytes] at h
    obtain ⟨found, hfound⟩ := exists_makes_readSubnetOf (fun bytes => .v6 (.ofBytes bytes)) source
      scope address.length_bytes h
    refine ⟨found, ?_⟩
    show Makes readSubnet (bytes16 2 ++ _) found
    unfold readSubnet
    refine (gives_word16 2).makes.bind ?_
    rw [if_neg (by decide), if_pos rfl]
    exact hfound

theorem OptionSet.mem_insertCode {code : UInt16} {value : List UInt8}
    {l : List (UInt16 × List UInt8)} {o : UInt16 × List UInt8}
    (h : o ∈ insertCode code value l) : o = (code, value) ∨ o ∈ l := by
  induction l with
  | nil => exact .inl (List.mem_singleton.mp h)
  | cons first rest ih =>
    unfold insertCode at h
    split at h
    case isTrue => exact (List.mem_cons.mp h)
    split at h
    case isTrue =>
      rcases List.mem_cons.mp h with h | h
      · exact .inl h
      · exact .inr (List.mem_cons_of_mem _ h)
    case isFalse =>
      rcases List.mem_cons.mp h with rfl | h
      · exact .inr List.mem_cons_self
      · exact (ih h).imp_right (List.mem_cons_of_mem _)

/-- Each option can be added to others. -/
theorem OptionSet.Readable.exists_add {set : OptionSet} (h : set.Readable)
    {o : UInt16 × List UInt8} (ho : o ∈ set.toList) (known : OptionSet) :
    ∃ more, ∀ message p, known.add o.1 o.2 message p = .ok more p := by
  have hother (hne : o.1 ≠ ClientSubnet.code) :
      ∃ more, ∀ message p, known.add o.1 o.2 message p = .ok more p := by
    unfold OptionSet.add
    rw [if_neg hne]
    exact ⟨_, fun _ _ => rfl⟩
  unfold OptionSet.toList at ho
  split at ho
  case h_1 => exact hother (h.others o ho)
  case h_2 s hs =>
    rcases OptionSet.mem_insertCode ho with rfl | ho
    · obtain ⟨found, hfound⟩ := exists_makes_readSubnet (h.subnet s hs)
      refine ⟨{ known with subnet := some found }, fun message p => ?_⟩
      unfold OptionSet.add
      rw [if_pos rfl]
      exact (Reader.bind_of_ok (within_of_makes hfound message p)).trans rfl
    · exact hother (h.others o ho)

theorem plain_pairs (ps : List (UInt16 × List UInt8)) :
    Plain (ps.forM fun p => pair p.1 p.2) (ps.flatMap fun p => pairBytes p.1 p.2) :=
  have hpair (p : UInt16 × List UInt8) : Plain (pair p.1 p.2) (pairBytes p.1 p.2) :=
    plain_pair p.1 p.2
  Plain.forM hpair ps

theorem length_pairBytes (key : UInt16) (value : List UInt8) :
    (pairBytes key value).length = value.length + 4 := by
  simp only [pairBytes, bytes16, List.length_append, List.length_cons, List.length_nil]
  omega

/-- The pairs of a list are not longer than their octets. -/
theorem length_le_of_pairs {ps : List (UInt16 × List UInt8)} {p : UInt16 × List UInt8}
    (h : p ∈ ps) : p.2.length + 4 ≤ (ps.flatMap fun p => pairBytes p.1 p.2).length := by
  induction ps with
  | nil => cases h
  | cons first rest ih =>
    rw [List.flatMap_cons, List.length_append, length_pairBytes]
    rcases List.mem_cons.mp h with rfl | h
    · omega
    · have := ih h
      omega

/-- One option is read, and the others are still to be read. -/
theorem readOptionsFrom_step {code : UInt16} {value : List UInt8} {known more : OptionSet}
    {length stop fuel : Nat} {message : Array UInt8} {p : Nat}
    (hadd : known.add code value message (p + (pairBytes code value).length) =
      .ok more (p + (pairBytes code value).length))
    (hlength : value.length ≤ length) (hlimit : length ≤ limit) (hp : p ≤ message.size)
    (hstands : Stands (pairBytes code value) message p)
    (hstop : p + (pairBytes code value).length ≤ stop) :
    readOptionsFrom length stop (fuel + 1) known message p =
      readOptionsFrom length stop fuel more message (p + (pairBytes code value).length) := by
  have htwo (n : UInt16) : (bytes16 n).length = 2 := rfl
  have hcode := gives_word16 code message p hstands.left
  have hword := gives_word16 _ message _ hstands.right.left
  have hvalue := makes_octets value message _
    (le_size_of_stands (le_size_of_stands hp hstands.left) hstands.right.left) hstands.right.right
  have hbehind : p + 2 + 2 + value.length = p + (pairBytes code value).length := by
    rw [length_pairBytes]
    omega
  rw [htwo] at hcode
  rw [htwo, htwo] at hword hvalue
  rw [hbehind] at hvalue
  rw [length_pairBytes] at hstop
  rw [readOptionsFrom, Reader.bind_of_ok (position_eq message p), if_neg (by omega),
    Reader.bind_of_ok hcode, Reader.bind_of_ok (position_eq message _), if_neg (by omega),
    Reader.bind_of_ok hword, toNat_ofNat_length (Nat.le_trans hlength hlimit),
    if_neg (by omega)]
  refine (Reader.bind_of_ok (position_eq message _)).trans ?_
  rw [if_pos (by omega), Reader.bind_of_ok hvalue, Reader.bind_of_ok hadd]

/-- Options are read up to the end of the list. -/
theorem exists_readOptionsFrom {ps : List (UInt16 × List UInt8)}
    (hadd : ∀ o ∈ ps, ∀ known, ∃ more : OptionSet, ∀ message p,
      OptionSet.add known o.1 o.2 message p = .ok more p)
    {length : Nat} (hlength : ∀ o ∈ ps, o.2.length ≤ length) (hlimit : length ≤ limit)
    (known : OptionSet) : ∃ found, ∀ (message : Array UInt8) (p fuel : Nat), ps.length ≤ fuel →
      p ≤ message.size → Stands (ps.flatMap fun o => pairBytes o.1 o.2) message p →
        readOptionsFrom length (p + (ps.flatMap fun o => pairBytes o.1 o.2).length) fuel known
          message p = .ok found (p + (ps.flatMap fun o => pairBytes o.1 o.2).length) := by
  induction ps generalizing known with
  | nil =>
    refine ⟨known, fun message p fuel _ _ _ => ?_⟩
    cases fuel with
    | zero => rfl
    | succ fuel =>
      rw [readOptionsFrom, Reader.bind_of_ok (position_eq message p)]
      exact if_pos (Nat.le_refl p) ▸ rfl
  | cons o rest ih =>
    obtain ⟨hoAdd, hadd⟩ := List.forall_mem_cons.mp hadd
    obtain ⟨hoLength, hlength⟩ := List.forall_mem_cons.mp hlength
    obtain ⟨more, hmore⟩ := hoAdd known
    obtain ⟨found, hfound⟩ := ih hadd hlength more
    refine ⟨found, fun message p fuel hfuel hp hstands => ?_⟩
    obtain ⟨fuel, rfl⟩ := Nat.exists_eq_add_one.mpr (Nat.zero_lt_of_lt hfuel)
    rw [List.flatMap_cons] at hstands ⊢
    rw [List.length_append, ← Nat.add_assoc, readOptionsFrom_step (hmore message _) hoLength hlimit
      hp hstands.left (Nat.le_add_right _ _)]
    exact hfound message _ fuel (Nat.le_of_succ_le_succ hfuel) (le_size_of_stands hp hstands.left)
      hstands.right

theorem readForm_opt (length : Nat) : readForm .opt length = do
    return .options (← readOptions length) := by
  unfold readForm
  repeat rw [if_neg (by decide)]
  rw [if_pos rfl]

theorem exists_readBy_options {set : OptionSet} (h : set.Readable) :
    ∃ d, ReadBy (data (.options set)) (readForm .opt) d := by
  have hplain : Plain (data (.options set)) (set.toList.flatMap fun o => pairBytes o.1 o.2) :=
    plain_pairs set.toList
  by_cases hlimit : (set.toList.flatMap fun o => pairBytes o.1 o.2).length ≤ limit
  case neg => exact ⟨.octets [], .of_plain hplain fun hle => absurd hle hlimit⟩
  case pos =>
    obtain ⟨found, hfound⟩ := exists_readOptionsFrom (fun o ho => h.exists_add ho)
      (fun o ho => Nat.le_of_add_right_le (length_le_of_pairs ho)) hlimit .empty
    refine ⟨.options found, .of_plain hplain fun _ message p hp hstands => ?_⟩
    have hfuel : set.toList.length ≤
        (set.toList.flatMap fun o => pairBytes o.1 o.2).length + 1 :=
      Nat.le_succ_of_le (length_le_length_flatMap
        (fun o => by rw [length_pairBytes]; omega) set.toList)
    have hread : readOptions (set.toList.flatMap fun o => pairBytes o.1 o.2).length message p =
        .ok found (p + (set.toList.flatMap fun o => pairBytes o.1 o.2).length) := by
      rw [readOptions, Reader.bind_of_ok (position_eq message p)]
      exact hfound message p _ hfuel hp hstands
    rw [readForm_opt, Reader.bind_of_ok hread]
    rfl

/-! ### Service bindings -/

/-- The value of a parameter is read if it has the form of its key, or there is none. -/
theorem exists_makes_readParamValue {key : UInt16} {value : List UInt8}
    (hformed : ∀ param, ServiceParam.ofKey? key = some param →
      ∃ read, ∀ message p, readServiceParam value param message p = .ok read p)
    (hlimit : value.length ≤ limit) :
    ∃ read, Makes (readParamValue key) (bytes16 (.ofNat value.length) ++ value) read := by
  -- before its form is looked at, the value is read with its length
  have hvalue {check : List UInt8 → Reader (List UInt8)} {read : List UInt8}
      (hcheck : Makes (check value) [] read) :
      Makes (octets value.length >>= check) value read :=
    (makes_octets value).bind_end hcheck
  have hroom {message : Array UInt8} {p : Nat} (hp : p ≤ message.size)
      (hstands : Stands value message p) : ¬ message.size - p < value.length := by
    have := le_size_of_stands hp hstands
    omega
  have hlength {r : Reader (List UInt8)} {read : List UInt8} (hr : Makes r value read) :
      Makes (do
        let left ← remaining
        if left < value.length then fail (.paramTooLong value.length left)
        r) value read := fun message p hp hstands =>
    (Reader.bind_of_ok (rfl : remaining message p = .ok (message.size - p) p)).trans
      ((guard_of_not (hroom hp hstands)).trans (hr message p hp hstands))
  cases hparam : ServiceParam.ofKey? key with
  | none =>
    refine ⟨value, (gives_word16 _).makes.bind ?_⟩
    rw [toNat_ofNat_length hlimit, hparam]
    exact hlength (hvalue (.pure rfl))
  | some param =>
    obtain ⟨read, hread⟩ := hformed param hparam
    refine ⟨read, (gives_word16 _).makes.bind ?_⟩
    rw [toNat_ofNat_length hlimit, hparam]
    exact hlength (hvalue fun message p _ _ => hread message p)

/-- One parameter is read, and then the others. -/
theorem readParams_step {key : UInt16} {value read : List UInt8} {last : Option UInt16}
    {found : List (UInt16 × List UInt8)} {stop fuel : Nat} {message : Array UInt8} {p q : Nat}
    (hvalue : Makes (readParamValue key) (bytes16 (.ofNat value.length) ++ value) read)
    (hordered : ¬ last.any (key ≤ ·) = true) (hp : p ≤ message.size)
    (hstands : Stands (pairBytes key value) message p)
    (hstop : p + (pairBytes key value).length ≤ stop)
    (hrest : readParams stop fuel (some key) message (p + (pairBytes key value).length) =
      .ok found q) :
    readParams stop (fuel + 1) last message p = .ok ((key, read) :: found) q := by
  have hkey := gives_word16 key message p hstands.left
  have hread := hvalue message _ (le_size_of_stands hp hstands.left) hstands.right
  rw [Nat.add_assoc, ← List.length_append, ← pairBytes] at hread
  rw [length_pairBytes] at hstop
  rw [readParams, Reader.bind_of_ok (position_eq message p), if_neg (by omega),
    Reader.bind_of_ok hkey, Reader.bind_of_ok hread, if_neg hordered]
  exact (Reader.bind_of_ok hrest).trans rfl

/-- Parameters are read up to the end of the data. -/
theorem exists_readParams {ps : List (UInt16 × List UInt8)}
    (hascending : ps.Pairwise fun x y => x.1 < y.1)
    (hformed : ∀ x ∈ ps, ∀ param, ServiceParam.ofKey? x.1 = some param →
      ∃ value, ∀ message p, readServiceParam x.2 param message p = .ok value p)
    (hlimit : (ps.flatMap fun x => pairBytes x.1 x.2).length ≤ limit)
    (last : Option UInt16) (hlast : ∀ key ∈ last, ∀ x ∈ ps, key < x.1) :
    ∃ found, ∀ (message : Array UInt8) (p fuel : Nat), ps.length ≤ fuel → p ≤ message.size →
      Stands (ps.flatMap fun x => pairBytes x.1 x.2) message p →
        readParams (p + (ps.flatMap fun x => pairBytes x.1 x.2).length) fuel last message p =
          .ok found (p + (ps.flatMap fun x => pairBytes x.1 x.2).length) := by
  induction ps generalizing last with
  | nil =>
    refine ⟨[], fun message p fuel _ _ _ => ?_⟩
    cases fuel with
    | zero => rfl
    | succ fuel =>
      rw [readParams, Reader.bind_of_ok (position_eq message p)]
      rw [List.flatMap_nil, List.length_nil, if_pos (by omega)]
      rfl
  | cons x rest ih =>
    obtain ⟨hxAscending, hascending⟩ := List.pairwise_cons.mp hascending
    obtain ⟨hxFormed, hformed⟩ := List.forall_mem_cons.mp hformed
    rw [List.flatMap_cons, List.length_append, length_pairBytes] at hlimit
    obtain ⟨found, hfound⟩ := ih hascending hformed (by omega) (some x.1)
      (fun key hkey y hy => by cases hkey; exact hxAscending y hy)
    obtain ⟨value, hvalue⟩ := exists_makes_readParamValue hxFormed (by omega)
    have hordered : ¬ last.any (x.1 ≤ ·) = true := by
      cases last with
      | none => simp
      | some key =>
        have hkey := hlast key rfl x List.mem_cons_self
        simpa using hkey
    refine ⟨(x.1, value) :: found, fun message p fuel hfuel hp hstands => ?_⟩
    obtain ⟨fuel, rfl⟩ := Nat.exists_eq_add_one.mpr (Nat.zero_lt_of_lt hfuel)
    rw [List.flatMap_cons] at hstands ⊢
    rw [List.length_append, ← Nat.add_assoc]
    have hrest := hfound message _ fuel (Nat.le_of_succ_le_succ hfuel)
      (le_size_of_stands hp hstands.left) hstands.right
    exact readParams_step hvalue hordered hp hstands.left (Nat.le_add_right _ _) hrest

theorem exists_readBy_params {binding : ServiceBinding} (h : binding.Readable) :
    ∃ found, ∀ fuel, binding.params.length ≤ fuel →
      ReadBy (binding.params.forM fun x => pair x.1 x.2)
        (fun n => do readParams ((← position) + n) fuel none) found := by
  have hplain := plain_pairs binding.params
  by_cases hlimit : (binding.params.flatMap fun x => pairBytes x.1 x.2).length ≤ limit
  case neg => exact ⟨[], fun fuel _ => .of_plain hplain fun hle => absurd hle hlimit⟩
  case pos =>
    obtain ⟨found, hfound⟩ :=
      exists_readParams h.ascending h.formed hlimit none (fun _ hkey => nomatch hkey)
    refine ⟨found, fun fuel hfuel => .of_plain hplain fun _ message p hp hstands => ?_⟩
    exact (Reader.bind_of_ok (position_eq message p)).trans
      (hfound message p fuel hfuel hp hstands)

theorem readForm_svcb : readForm .svcb = fun length => do
    return .service (← readService length) := by
  funext length
  unfold readForm
  repeat rw [if_neg (by decide)]
  rw [if_pos (by decide)]

theorem readForm_https : readForm .https = fun length => do
    return .service (← readService length) := by
  funext length
  unfold readForm
  repeat rw [if_neg (by decide)]
  rw [if_pos (by decide)]

theorem exists_readBy_service {binding : ServiceBinding} (h : binding.Readable) :
    ∃ found, ReadBy (data (.service binding)) readService found := by
  obtain ⟨found, hfound⟩ := exists_readBy_params h
  have hplain := plain_pairs binding.params
  have hputs := (readBy_name h.target).puts.bind_any fun _ => hplain.puts
  refine ⟨⟨binding.priority, binding.target, found⟩,
    (ReadBy.word16 binding.priority).puts.bind_any fun _ => hputs, ?_⟩
  intro message out out' u hroom hout hlies hrecalled
  obtain ⟨out₁, hout, hle₁, hroom₁, hpriority, hrecalled₁⟩ :=
    (ReadBy.word16 binding.priority).peel hputs hroom hout hlies hrecalled
  obtain ⟨out₂, hparams, hle₂, hroom₂, htarget, hrecalled₂⟩ :=
    (readBy_name h.target).peel hplain.puts hroom₁ hout hlies hrecalled₁
  obtain ⟨_, rfl, -, hsize, -⟩ :=
    (puts_put _).lies (hplain out₂ _ out' hroom₂ hparams) hroom₂ hlies
  -- the parameters are not more than the octets of the data, so there is fuel for them
  have hcount : binding.params.length ≤
      (binding.params.flatMap fun x => pairBytes x.1 x.2).length :=
    length_le_length_flatMap (fun x => by rw [length_pairBytes]; omega) binding.params
  obtain ⟨hread, hrecalled'⟩ :=
    (hfound (out'.size - out.size) (by omega)).reads hroom₂ hparams hlies hrecalled₂
  have hstop : out.size + (out'.size - out.size) = out₂.size + (out'.size - out₂.size) := by omega
  refine ⟨?_, hrecalled'⟩
  rw [readService, Reader.bind_of_ok (position_eq message out.size)]
  refine (Reader.bind_of_ok hpriority).trans ((Reader.bind_of_ok htarget).trans ?_)
  rw [hstop]
  exact (Reader.bind_of_ok hread).trans rfl

/-! ### Other forms -/

/-- Letters and digits are read as the characters of a tag. -/
theorem makes_times_tagOctet {tag : List UInt8} (h : tag.all isAlphanumByte = true) :
    Makes (times readIssuing.tagOctet tag.length) tag tag := by
  induction tag with
  | nil => exact .pure rfl
  | cons b rest ih =>
    obtain ⟨hb, hrest⟩ := Bool.and_eq_true_iff.mp (List.all_cons ▸ h)
    have hoctet : Makes readIssuing.tagOctet [b] b := by
      refine (gives_octet b).makes.bind_end ?_
      rw [if_pos hb]
      exact .pure rfl
    exact hoctet.bind (ih hrest |>.bind_end (.pure rfl))

theorem exists_readBy_caa (critical : Bool) {tag : List UInt8} (value : List UInt8)
    (htag : tag.all isAlphanumByte = true) (hlength : 1 ≤ tag.length ∧ tag.length ≤ 15) :
    ∃ d, ReadBy (data (.caa critical tag value)) readIssuing d := by
  have hplain : Plain (data (.caa critical tag value))
      ([if critical then 0x80 else 0] ++ (charStringBytes tag ++ value)) :=
    (Plain.of_put _).bind ((plain_charString tag).bind (.of_put value))
  have hcount : (UInt8.ofNat tag.length).toNat = tag.length :=
    UInt8.toNat_ofNat_of_lt' (by simp only [UInt8.size]; omega)
  have hsum : ([if critical then 0x80 else 0] ++ (charStringBytes tag ++ value)).length =
      tag.length + value.length + 2 := by
    simp only [charStringBytes, List.length_append, List.length_cons, List.length_nil]
    omega
  have hleft : tag.length + value.length + 2 - tag.length - 2 = value.length := by omega
  refine ⟨.caa ((if critical then (0x80 : UInt8) else 0) &&& 0x80 == 0x80)
    (Issuing.canonical tag value).1 (Issuing.canonical tag value).2, .of_plain hplain fun _ => ?_⟩
  rw [hsum, readIssuing]
  refine (gives_octet _).makes.bind ((gives_octet _).makes.bind (x := [_]) ?_)
  rw [hcount, if_neg (by omega), if_neg (by omega), hleft]
  refine (makes_times_tagOctet htag).bind ((makes_octets value).bind_end ?_)
  obtain ⟨tag, value⟩ := Issuing.canonical tag value
  exact .pure rfl

theorem readBy_readAtLeast {least : Nat} {bytes : List UInt8} (h : least ≤ bytes.length) :
    ReadBy (data (.octets bytes)) (readAtLeast least) (.octets bytes) := by
  refine .of_plain (.of_put bytes) fun _ message p hp hstands => ?_
  have hlength : (bytes.take least).length = least := List.length_take_of_le h
  rw [← List.take_append_drop least bytes] at hstands
  have hp' := le_size_of_stands hp hstands.left
  have hhead := makes_times_octet (bytes.take least) message p hp hstands.left
  have htail := makes_octets (bytes.drop least) message _ hp' hstands.right
  rw [hlength] at hhead htail
  rw [List.length_drop] at htail
  have hrest : rest p bytes.length message (p + least) =
      .ok (bytes.drop least) (p + bytes.length) := by
    rw [rest, Reader.bind_of_ok (position_eq message (p + least)),
      Nat.add_sub_cancel_left, htail, Nat.add_assoc, Nat.add_sub_cancel' h]
  rw [readAtLeast, Reader.bind_of_ok (position_eq message p),
    Reader.bind_of_ok hhead, Reader.bind_of_ok hrest, List.take_append_drop]
  rfl

theorem readBy_host {n : Name} (hn : n.Fits) :
    ReadBy (data (.host n)) (fun _ => do return RecordData.host (← Reader.name)) (.host n) :=
  (readBy_name hn).map RecordData.host

theorem readBy_mx (preference : UInt16) {exchange : Name} (hn : exchange.Fits) :
    ReadBy (data (.mx preference exchange))
      (fun _ => do return RecordData.mx (← Reader.word16) (← Reader.name))
      (.mx preference exchange) := by
  refine ReadBy.bind (.word16 preference) ?_
  exact (readBy_name hn).map (RecordData.mx preference)

theorem readBy_int32 (n : Int32) :
    ReadBy (Writer.word32 n.toUInt32) (fun _ => int32) n :=
  (ReadBy.word32 n.toUInt32).map UInt32.toInt32

theorem readBy_soa {primary mailbox : Name} (serial : UInt32) (refresh retry expire : Int32)
    (minimum : UInt32) (hprimary : primary.Fits) (hmailbox : mailbox.Fits) :
    ReadBy (data (.soa primary mailbox serial refresh retry expire minimum)) (fun _ => readZone)
      (.soa primary mailbox serial refresh retry expire minimum) :=
  (readBy_name hprimary).bind ((readBy_name hmailbox).bind ((ReadBy.word32 serial).bind
    ((readBy_int32 refresh).bind ((readBy_int32 retry).bind ((readBy_int32 expire).bind
      ((ReadBy.word32 minimum).map _))))))

theorem readBy_srv (priority weight port : UInt16) {target : Name} (hn : target.Fits) :
    ReadBy (data (.srv priority weight port target)) (fun _ => readPlace)
      (.srv priority weight port target) :=
  (ReadBy.word16 priority).bind ((ReadBy.word16 weight).bind ((ReadBy.word16 port).bind
    ((readBy_nameInFull hn).map _)))

theorem readBy_hinfo (cpu os : List UInt8) :
    ReadBy (data (.hinfo cpu os))
      (fun _ => do return RecordData.hinfo (← Reader.charString) (← Reader.charString))
      (.hinfo cpu os) := by
  refine ReadBy.bind (.charString cpu) ?_
  exact (ReadBy.charString os).map (RecordData.hinfo cpu)

theorem readBy_naptr (order preference : UInt16) {flags : List UInt8} (services regexp : List UInt8)
    {replacement : Name} (hflags : flags.all isAlphanumByte = true) (hn : replacement.Fits) :
    ReadBy (data (.naptr order preference flags services regexp replacement)) (fun _ => readRule)
      (.naptr order preference flags services regexp replacement) := by
  refine (ReadBy.word16 order).bind ((ReadBy.word16 preference).bind
    ((ReadBy.charString flags).bind ?_))
  rw [hflags]
  exact (ReadBy.charString services).bind ((ReadBy.charString regexp).bind
    ((readBy_nameInFull hn).map _))

theorem readBy_opaque {type : RecordType} (hformed : type ∉ RecordType.formed)
    (hzero : type.code ≠ 0) (bytes : List UInt8) :
    ReadBy (data (.octets bytes)) (readForm type) (.octets bytes) := by
  simp only [RecordType.formed, List.mem_cons, List.not_mem_nil, or_false, not_or] at hformed
  refine .of_plain (.of_put bytes) fun _ => ?_
  simp only [readForm, hformed, hzero, or_self, ↓reduceIte]
  exact (makes_octets bytes).bind_end (.pure rfl)

theorem readBy_nothing {type : RecordType} (hzero : type.code = 0) :
    ReadBy (data (.octets [])) (readForm type) (.octets []) := by
  obtain rfl : type = ⟨0⟩ := by
    cases type
    exact congrArg _ hzero
  exact .of_plain (.of_put []) fun _ => .pure rfl

/-- **What suits its type and is written can be read.** -/
theorem RecordData.Suits.exists_readBy {type : RecordType} {d : RecordData} (h : d.Suits type) :
    ∃ found, ReadBy (data d) (readForm type) found := by
  cases h with
  | a address => exact ⟨_, readBy_a address⟩
  | aaaa address => exact exists_readBy_aaaa address
  | host htype hn =>
    simp only [List.mem_cons, List.not_mem_nil, or_false] at htype
    rcases htype with rfl | rfl | rfl | rfl <;> exact ⟨_, readBy_host hn⟩
  | mx preference hn => exact ⟨_, readBy_mx preference hn⟩
  | soa serial refresh retry expire minimum hprimary hmailbox =>
    exact ⟨_, readBy_soa serial refresh retry expire minimum hprimary hmailbox⟩
  | srv priority weight port hn => exact ⟨_, readBy_srv priority weight port hn⟩
  | txt strings => exact ⟨_, readBy_txt strings⟩
  | hinfo cpu os => exact ⟨_, readBy_hinfo cpu os⟩
  | naptr order preference services regexp hflags hn =>
    exact ⟨_, readBy_naptr order preference services regexp hflags hn⟩
  | caa critical value htag hlength => exact exists_readBy_caa critical value htag hlength
  | csync serial types hflags => exact exists_readBy_csync serial types hflags
  | service htype hbinding =>
    obtain ⟨found, hfound⟩ := exists_readBy_service hbinding
    have hmap := hfound.map RecordData.service
    simp only [List.mem_cons, List.not_mem_nil, or_false] at htype
    rcases htype with rfl | rfl
    · exact ⟨_, readForm_svcb ▸ hmap⟩
    · exact ⟨_, readForm_https ▸ hmap⟩
  | options hset => exact exists_readBy_options hset
  | fingerprint hlength => exact ⟨_, readBy_readAtLeast hlength⟩
  | association hlength => exact ⟨_, readBy_readAtLeast hlength⟩
  | nothing hzero => exact ⟨_, readBy_nothing hzero⟩
  | octets hformed hzero bytes => exact ⟨_, readBy_opaque hformed hzero bytes⟩

end DohRelay.Dns
