import DohRelay.Endpoint.Selection
import DohRelay.Proofs.Dns.Crowded
import DohRelay.Proofs.Dns.Questions
import DohRelay.Proofs.Dns.Room
import DohRelay.Proofs.Net.Brackets

/-!
# Which address is picked

There is an order in which the address of the endpoint is looked for.  Those of the configuration
are taken if there are any, and the one that the host is written as if it is; nothing is sent in
either case.  Otherwise the server for names is asked for addresses of 32 bits, and for those of 128
bits only if it answers and tells no address at all.  What the last reply tells can be picked, each
address by some draw, and where nothing can be picked the reason is told.

## Main definitions

* `Carries`, `Brings` — a record has an address, and an exchange brings a reply that counts.
* `Offers`, `Lacks` — a reply that counts tells an address, or none.
* `AsksFor` — octets ask for the addresses of a host.
* `Asked` — the queries that are sent for a host, and the addresses that are found by them.
* `Picks` — a number drawn decides which of some addresses is picked.

## Main results

* `ask_cases` — what comes of asking the server for names.
* `addresses_are_picked` — **which addresses can be picked, and which queries are sent before.**
-/

namespace DohRelay.Endpoint

/-! ### Replies -/

/-- A record has an address. -/
inductive Carries (r : Dns.Record) : Net.Ip → Prop
  /-- It is one of the older family. -/
  | v4 {a : Net.Ipv4} (h : r.data = some (.a a)) : Carries r (.v4 a)
  /-- It is one of the newer. -/
  | v6 {a : Net.Ipv6} (h : r.data = some (.aaaa a)) : Carries r (.v6 a)

theorem recordAddress?_eq_some_iff {r : Dns.Record} {ip : Net.Ip} :
    recordAddress? r = some ip ↔ Carries r ip := by
  unfold recordAddress?
  constructor
  · intro h
    split at h
    case h_1 a hdata => cases h; exact .v4 hdata
    case h_2 a hdata => cases h; exact .v6 hdata
    case h_3 => cases h
  · intro h
    cases h with
    | v4 hdata => rw [hdata]
    | v6 hdata => rw [hdata]

/-- A reply comes that is a message with the id of the query. -/
def Brings (e : Exchange) (id : UInt16) (m : Dns.Message) : Prop :=
  ∃ bytes, e = .reply bytes ∧ Dns.Message.decode bytes = .ok m ∧ m.id = id

/-- A reply that counts has an address among its answers. -/
def Offers (e : Exchange) (id : UInt16) (ip : Net.Ip) : Prop :=
  ∃ m, Brings e id m ∧ ∃ r ∈ m.answers, Carries r ip

/-- A reply that counts has no address among its answers. -/
def Lacks (e : Exchange) (id : UInt16) : Prop :=
  ∃ m, Brings e id m ∧ ∀ r ∈ m.answers, ∀ ip, ¬ Carries r ip

section

variable {server : String} {e : Exchange} {id : UInt16} {ip : Net.Ip}

/-- The addresses of a reply that counts are read, and of any other the fault is told. -/
theorem readReply_cases (server : String) (e : Exchange) (id : UInt16) :
    (∃ m, Brings e id m ∧
      readReply server id e = .ok (m.answers.filterMap recordAddress?)) ∨
    (∀ m, ¬ Brings e id m) ∧
      ∃ reason, readReply server id e = .error (.endpointResolution reason) := by
  unfold readReply
  cases e with
  | failed reason =>
    refine .inr ⟨?_, _, rfl⟩
    rintro m ⟨_, ⟨⟩, -⟩
  | silent =>
    refine .inr ⟨?_, _, rfl⟩
    rintro m ⟨_, ⟨⟩, -⟩
  | reply bytes =>
    dsimp only
    cases hdecode : Dns.Message.decode bytes with
    | error fault =>
      refine .inr ⟨?_, _, rfl⟩
      rintro m ⟨_, ⟨⟩, hm, -⟩
      cases hdecode.symm.trans hm
    | ok m =>
      by_cases hid : m.id = id
      · exact .inl ⟨m, ⟨bytes, rfl, hdecode, hid⟩, if_neg (not_not_intro hid)⟩
      · refine .inr ⟨?_, _, if_pos hid⟩
        rintro m' ⟨_, ⟨⟩, hm, hid'⟩
        cases hdecode.symm.trans hm
        exact hid hid'

theorem Brings.unique {m m' : Dns.Message} (h : Brings e id m) (h' : Brings e id m') : m = m' := by
  obtain ⟨_, rfl, hm, -⟩ := h
  obtain ⟨_, ⟨⟩, hm', -⟩ := h'
  exact Except.ok.inj (hm.symm.trans hm')

/-- The addresses that are read are those that are offered, -/
theorem mem_of_readReply {addresses : List Net.Ip} (h : readReply server id e = .ok addresses) :
    ip ∈ addresses ↔ Offers e id ip := by
  obtain ⟨m, hm, hread⟩ | ⟨-, reason, hread⟩ := readReply_cases server e id
  · cases hread.symm.trans h
    simp only [List.mem_filterMap, recordAddress?_eq_some_iff]
    constructor
    · rintro ⟨r, hr, hip⟩
      exact ⟨m, hm, r, hr, hip⟩
    · rintro ⟨m', hm', r, hr, hip⟩
      cases hm.unique hm'
      exact ⟨r, hr, hip⟩
  · cases hread.symm.trans h

/-- and none is offered where a fault is told. -/
theorem not_offers_of_readReply {error : Error} (h : readReply server id e = .error error)
    (ip : Net.Ip) : ¬ Offers e id ip := by
  obtain ⟨m, -, hread⟩ | ⟨hnone, -⟩ := readReply_cases server e id
  · cases hread.symm.trans h
  · rintro ⟨m, hm, -⟩
    exact hnone m hm

/-- A reply that counts has no address just if no address is read. -/
theorem lacks_iff (server : String) : Lacks e id ↔ readReply server id e = .ok [] := by
  obtain ⟨m, hm, hread⟩ | ⟨hnone, reason, hread⟩ := readReply_cases server e id
  · have hempty : (m.answers.filterMap recordAddress? = []) ↔
        ∀ r ∈ m.answers, ∀ ip, ¬ Carries r ip := by
      simp only [List.filterMap_eq_nil_iff, Option.eq_none_iff_forall_ne_some, ne_eq,
        recordAddress?_eq_some_iff]
    rw [hread, Except.ok.injEq, hempty]
    constructor
    · rintro ⟨m', hm', h⟩
      cases hm.unique hm'
      exact h
    · exact fun h => ⟨m, hm, h⟩
  · rw [hread]
    constructor
    · rintro ⟨m, hm, -⟩
      exact absurd hm (hnone m)
    · exact nofun

end

/-! ### Queries -/

/-- Octets ask for the addresses of a host: they are the query for its name and are read as that. -/
structure AsksFor (query : List UInt8) (id : UInt16) (host : List Char) (type : Dns.RecordType)
    (name : Dns.Name) : Prop where
  /-- The host has the name, which goes up to the root, -/
  named : Dns.Name.ofHost host = .ok name
  /-- and is not too long for a query. -/
  fits : name.Fits
  /-- The query is written, -/
  written : (addressQuery id name type).encode = .ok query
  /-- and can be read. -/
  read : Dns.Message.decode query = .ok (addressQuery id name type)

theorem isBare_addressQuery (id : UInt16) (name : Dns.Name) (type : Dns.RecordType) :
    (addressQuery id name type).IsBare :=
  ⟨rfl, rfl, rfl, rfl⟩

section

variable {server : String} {exchange : List UInt8 → Exchange} {id : UInt16} {ids : UInt16 × UInt16}
  {host : List Char} {name : Dns.Name}

/-- The query for a name that fits is sent, -/
theorem askFor_of_fits (server : String) (exchange : List UInt8 → Exchange) (id : UInt16)
    (hname : Dns.Name.ofHost host = .ok name) (hfits : name.Fits) (type : Dns.RecordType) :
    ∃ query, AsksFor query id host type name ∧
      askFor server exchange id name type = ⟨readReply server id (exchange query), [query]⟩ := by
  have hbare := isBare_addressQuery id name type
  have hquestions : ∀ q ∈ (addressQuery id name type).questions, q.name.Fits :=
    List.forall_mem_singleton.mpr hfits
  obtain ⟨query, hquery⟩ := hbare.exists_encode hquestions (Nat.le_of_ble_eq_true rfl)
  have hrcode : (addressQuery id name type).rcode.toNat < 16 := Nat.le_of_ble_eq_true rfl
  have hread := hbare.decode_encode hquestions hquery
  rw [Dns.ResponseCode.join_zero_low hrcode] at hread
  refine ⟨query, ⟨hname, hfits, hquery, hread⟩, ?_⟩
  rw [askFor, hquery]

/-- and no other is. -/
theorem askFor_of_not_fits (server : String) (exchange : List UInt8 → Exchange) (id : UInt16)
    (hfits : ¬ name.Fits) (type : Dns.RecordType) :
    ∃ reason, askFor server exchange id name type = ⟨.error (.endpointResolution reason), []⟩ := by
  unfold askFor
  cases hquery : (addressQuery id name type).encode with
  | error fault => exact ⟨_, rfl⟩
  | ok query =>
    exact absurd (Dns.Message.fits_of_encode rfl hquery _ List.mem_cons_self) hfits

/-- The queries that are sent for a host, and the addresses that are found by them. -/
inductive Asked (exchange : List UInt8 → Exchange) (ids : UInt16 × UInt16) (host : List Char) :
    List (List UInt8) → (Net.Ip → Prop) → Prop
  /-- The host has no name that a query can have, so none is sent. -/
  | never (h : ∀ name, Dns.Name.ofHost host = .ok name → ¬ name.Fits) :
      Asked exchange ids host [] fun _ => False
  /-- Addresses of 32 bits are asked for.  That was all unless the reply counts and has none. -/
  | once {query : List UInt8} {name : Dns.Name} (hquery : AsksFor query ids.1 host .a name)
      (h : ¬ Lacks (exchange query) ids.1) :
      Asked exchange ids host [query] (Offers (exchange query) ids.1)
  /-- In that case those of 128 bits are asked for as well, and only this reply matters. -/
  | twice {query further : List UInt8} {name : Dns.Name} (hquery : AsksFor query ids.1 host .a name)
      (h : Lacks (exchange query) ids.1) (hfurther : AsksFor further ids.2 host .aaaa name) :
      Asked exchange ids host [query, further] (Offers (exchange further) ids.2)

/-- What is found fits what is offered: these are the addresses, or there are none and a fault is
told. -/
def Found (addresses : Except Error (List Net.Ip)) (offered : Net.Ip → Prop) : Prop :=
  (∃ ips, addresses = .ok ips ∧ ∀ ip, ip ∈ ips ↔ offered ip) ∨
    (∃ reason, addresses = .error (.endpointResolution reason)) ∧ ∀ ip, ¬ offered ip

theorem found_readReply (server : String) (e : Exchange) (id : UInt16) :
    Found (readReply server id e) (Offers e id) := by
  obtain ⟨m, -, hread⟩ | ⟨-, reason, hread⟩ := readReply_cases server e id
  · exact .inl ⟨_, hread, fun ip => mem_of_readReply hread⟩
  · exact .inr ⟨⟨reason, hread⟩, not_offers_of_readReply hread⟩

/-- **What comes of asking the server for names.** -/
theorem ask_cases (server : String) (exchange : List UInt8 → Exchange) (ids : UInt16 × UInt16)
    (host : List Char) : ∃ offered, Asked exchange ids host (ask server exchange ids host).queries
      offered ∧ Found (ask server exchange ids host).addresses offered := by
  unfold ask
  cases hname : Dns.Name.ofHost host with
  | error fault =>
    refine ⟨_, .never fun name h => ?_, .inr ⟨⟨_, rfl⟩, fun _ h => h⟩⟩
    cases hname.symm.trans h
  | ok name =>
    dsimp only
    by_cases hfits : name.Fits
    case neg =>
      obtain ⟨reason, hask⟩ := askFor_of_not_fits server exchange ids.1 hfits .a
      rw [hask]
      refine ⟨_, .never fun other h => ?_, .inr ⟨⟨reason, rfl⟩, fun _ h => h⟩⟩
      cases hname.symm.trans h
      exact hfits
    case pos =>
      obtain ⟨query, hquery, hask⟩ := askFor_of_fits server exchange ids.1 hname hfits .a
      obtain ⟨further, hfurther, hmore⟩ := askFor_of_fits server exchange ids.2 hname hfits .aaaa
      have hfound := found_readReply server (exchange query) ids.1
      rw [hask]
      split
      case h_1 queries heq =>
        obtain ⟨hread, rfl⟩ := Candidates.mk.inj heq
        rw [hmore]
        exact ⟨_, .twice hquery ((lacks_iff server).mpr hread) hfurther,
          found_readReply server (exchange further) ids.2⟩
      case h_2 hne =>
        refine ⟨_, .once hquery fun hlacks => ?_, hfound⟩
        exact hne [query] (by rw [(lacks_iff server).mp hlacks])

end

/-! ### The choice -/

/-- A number drawn decides which of the addresses that are offered is picked, after some queries
that do not depend on it. -/
structure Picks (picked : Nat → Except Error Net.Ip × List (List UInt8))
    (queries : List (List UInt8)) (offered : Net.Ip → Prop) : Prop where
  /-- These queries are sent and no others. -/
  sent : ∀ draw, (picked draw).2 = queries
  /-- If there is something to pick, it is picked. -/
  some : (∃ ip, offered ip) → ∀ draw, ∃ ip, (picked draw).1 = .ok ip ∧ offered ip
  /-- Whatever is offered can be picked. -/
  every : ∀ ip, offered ip → ∃ draw, (picked draw).1 = .ok ip
  /-- If there is nothing, the reason is told. -/
  none : (∀ ip, ¬ offered ip) → ∀ draw, ∃ reason,
    (picked draw).1 = .error (.endpointResolution reason)

/-- One of the addresses is chosen, if there is one, -/
theorem choose_mem {addresses : List Net.Ip} (host : List Char) (h : addresses ≠ [])
    (draw : Nat) : ∃ ip, choose host addresses draw = .ok ip ∧ ip ∈ addresses := by
  have hlt : draw % addresses.length < addresses.length :=
    Nat.mod_lt _ (List.length_pos_iff.mpr h)
  refine ⟨addresses[draw % addresses.length], ?_, List.getElem_mem hlt⟩
  rw [choose, List.getElem?_eq_getElem hlt]

/-- and any of them can be. -/
theorem exists_choose {addresses : List Net.Ip} (host : List Char) {ip : Net.Ip}
    (h : ip ∈ addresses) : ∃ draw, choose host addresses draw = .ok ip := by
  obtain ⟨draw, hlt, rfl⟩ := List.mem_iff_getElem.mp h
  refine ⟨draw, ?_⟩
  rw [choose, Nat.mod_eq_of_lt hlt, List.getElem?_eq_getElem hlt]

section

variable {fixed : List Net.Ip} {lookup : List Char → Candidates} {host : List Char}

/-- The choice is made among what is found. -/
theorem picks_of_found {found : Candidates} (h : candidates fixed lookup host = found)
    {offered : Net.Ip → Prop} (hfound : Found found.addresses offered) :
    Picks (pick fixed lookup host) found.queries offered := by
  have hpick (draw : Nat) : pick fixed lookup host draw =
      (found.addresses.bind (choose host · draw), found.queries) := by
    rw [pick, h]
  obtain ⟨ips, hips, hmem⟩ | ⟨⟨reason, hreason⟩, hnone⟩ := hfound
  · refine ⟨fun draw => by rw [hpick], ?_, ?_, ?_⟩
    · rintro ⟨ip, hip⟩ draw
      obtain ⟨picked, hpicked, hin⟩ := choose_mem host (List.ne_nil_of_mem ((hmem ip).mpr hip)) draw
      rw [hpick, hips]
      exact ⟨picked, hpicked, (hmem picked).mp hin⟩
    · intro ip hip
      obtain ⟨draw, hdraw⟩ := exists_choose host ((hmem ip).mpr hip)
      refine ⟨draw, ?_⟩
      rw [hpick, hips]
      exact hdraw
    · intro hnone draw
      have hempty : ips = [] :=
        List.eq_nil_iff_forall_not_mem.mpr fun ip hip => hnone ip ((hmem ip).mp hip)
      rw [hpick, hips, hempty]
      exact ⟨_, rfl⟩
  · refine ⟨fun draw => by rw [hpick], ?_, ?_, ?_⟩
    · rintro ⟨ip, hip⟩
      exact absurd hip (hnone ip)
    · intro ip hip
      exact absurd hip (hnone ip)
    · intro _ draw
      rw [hpick, hreason]
      exact ⟨reason, rfl⟩

/-- **Which addresses can be picked, and which queries are sent before.**  Those of the
configuration can, if there are any, and otherwise the one that the host is written as, in brackets
or not; nothing is sent then.  If the host is no address, the server for names is asked, and what
the last reply offers can be picked.  Each such address is picked for some number drawn, and the
reason is told if there is none. -/
theorem addresses_are_picked (fixed : List Net.Ip) (host : List Char) :
    (fixed ≠ [] → ∀ lookup, Picks (pick fixed lookup host) [] (· ∈ fixed)) ∧
    (fixed = [] → ∀ ip, Net.Bracketed host ip →
      ∀ lookup, Picks (pick fixed lookup host) [] (· = ip)) ∧
    (fixed = [] → (∀ ip, ¬ Net.Bracketed host ip) → ∀ server exchange ids,
      ∃ queries offered, Asked exchange ids host queries offered ∧
        Picks (pick fixed (ask server exchange ids) host) queries offered) := by
  refine ⟨fun hfixed lookup => ?_, ?_, ?_⟩
  · have hfound : candidates fixed lookup host = ⟨.ok fixed, []⟩ := by
      simp [candidates, hfixed]
    exact picks_of_found hfound (.inl ⟨fixed, rfl, fun ip => Iff.rfl⟩)
  · rintro rfl ip hip lookup
    have hfound : candidates [] lookup host = ⟨.ok [ip], []⟩ := by
      simp [candidates, Net.parseIp_withoutBrackets.mpr hip]
    exact picks_of_found hfound (.inl ⟨[ip], rfl, fun other => List.mem_singleton⟩)
  · rintro rfl hhost server exchange ids
    have hnone : Net.parseIp (Net.withoutBrackets host) = none := by
      rw [Option.eq_none_iff_forall_ne_some]
      exact fun ip hip => hhost ip (Net.parseIp_withoutBrackets.mp hip)
    have hfound : candidates [] (ask server exchange ids) host = ask server exchange ids host := by
      simp [candidates, hnone]
    obtain ⟨offered, hasked, hoffered⟩ := ask_cases server exchange ids host
    exact ⟨_, offered, hasked, picks_of_found hfound hoffered⟩

/-! ### A server that knows one address -/

/-- The name of the host `_`. -/
def underscore : Dns.Name :=
  ⟨[⟨[0x5f], by decide, by decide⟩]⟩

theorem ofHost_underscore : Dns.Name.ofHost ['_'] = .ok underscore := by
  have hlabel : Dns.Label.ofHost ['_'] = .ok ⟨[0x5f], by decide, by decide⟩ := by
    rw [Dns.Label.ofHost, if_pos (.inr rfl)]
    rfl
  have happend : Dns.Name.appendText Dns.Label.ofHost [] ['_'] = .ok underscore.labels := by
    rw [Dns.Name.appendText, hlabel]
    rfl
  have hcontrol : Text.isControl '_' = false := by decide
  have hblank : Text.isBlank '_' = false := by decide
  have hread : Dns.Name.readLabels Dns.Label.ofHost [] [] ['_'] = .ok ([], ['_']) := by
    simp [Dns.Name.readLabels, hcontrol, hblank]
  rw [Dns.Name.ofHost, Dns.Name.read, if_neg (by decide), hread]
  dsimp only
  rw [happend]
  rfl

/-- The octets of a query for its addresses, with an id and a type below 256. -/
def underscoreQuery (id type : UInt8) : List UInt8 :=
  [0, id, 1, 0, 0, 1, 0, 0, 0, 0, 0, 0, 1, 0x5f, 0, 0, type, 0, 1]

theorem asksFor_underscore {id : UInt16} {type : Dns.RecordType} {bytes query : List UInt8}
    {name : Dns.Name} (hbytes : (addressQuery id underscore type).encode = .ok bytes)
    (hquery : AsksFor query id ['_'] type name) : query = bytes := by
  cases hquery.named.symm.trans ofHost_underscore
  exact Except.ok.inj (hquery.written.symm.trans hbytes)

/-- A reply without records. -/
def bareReply : List UInt8 :=
  [0, 7, 0x81, 0x80, 0, 0, 0, 0, 0, 0, 0, 0]

/-- A reply with the address `::1`. -/
def addressReply : List UInt8 :=
  [0, 8, 0x81, 0x80, 0, 0, 0, 1, 0, 0, 0, 0,
    0, 0, 28, 0, 1, 0, 0, 0, 60, 0, 16, 0, 0, 0, 0, 0, 0, 0, 0, 0, 0, 0, 0, 0, 0, 0, 1]

/-- The header of both. -/
def replyHeader (id : UInt16) : Dns.Message :=
  { Dns.Message.empty with
    id
    response := true
    recursionDesired := true
    recursionAvailable := true }

theorem decode_addressReply : Dns.Message.decode addressReply =
    .ok { replyHeader 8 with
      answers := [⟨.root, .aaaa, Dns.classIn, 60, some (.aaaa ⟨1⟩)⟩] } := by
  have hrecord : Dns.readRecord addressReply.toArray 12 =
      .ok ⟨.root, .aaaa, Dns.classIn, 60, some (.aaaa ⟨1⟩)⟩ 39 :=
    (Dns.Reader.bind_of_ok (Dns.gives_root _ 12 ⟨_, rfl⟩)).trans rfl
  have hrecords : Dns.Reader.times Dns.readRecord 1 addressReply.toArray 12 =
      .ok [⟨.root, .aaaa, Dns.classIn, 60, some (.aaaa ⟨1⟩)⟩] 39 :=
    (Dns.Reader.bind_of_ok hrecord).trans rfl
  have hread : Dns.Message.read addressReply.toArray 0 = .ok { replyHeader 8 with
      answers := [⟨.root, .aaaa, Dns.classIn, 60, some (.aaaa ⟨1⟩)⟩] } 39 := by
    refine (Dns.Reader.bind_of_ok (rfl : Dns.readHeader addressReply.toArray 0 =
      .ok (replyHeader 8) 4)).trans ?_
    refine (Dns.Reader.bind_of_ok (rfl : Dns.Reader.word16 _ 4 = .ok 0 6)).trans ?_
    refine (Dns.Reader.bind_of_ok (rfl : Dns.Reader.word16 _ 6 = .ok 1 8)).trans ?_
    refine (Dns.Reader.bind_of_ok (rfl : Dns.Reader.word16 _ 8 = .ok 0 10)).trans ?_
    refine (Dns.Reader.bind_of_ok (rfl : Dns.Reader.word16 _ 10 = .ok 0 12)).trans ?_
    refine (Dns.Reader.bind_of_ok (rfl : Dns.Reader.times Dns.readQuestion 0 _ 12 =
      .ok [] 12)).trans ?_
    exact (Dns.Reader.bind_of_ok hrecords).trans rfl
  rw [Dns.Message.decode, Dns.Reader.run, hread]

/-- A server that knows no address of 32 bits for the host, and one of 128 bits. -/
def sparse (query : List UInt8) : Exchange :=
  if query = underscoreQuery 7 1 then .reply bareReply
  else if query = underscoreQuery 8 28 then .reply addressReply
  else .silent

theorem lacks_sparse : Lacks (sparse (underscoreQuery 7 1)) 7 :=
  ⟨replyHeader 7, ⟨bareReply, rfl, rfl, rfl⟩, nofun⟩

theorem offers_sparse : Offers (sparse (underscoreQuery 8 28)) 8 (.v6 ⟨1⟩) :=
  ⟨_, ⟨addressReply, rfl, decode_addressReply, rfl⟩, _, List.mem_cons_self, .v6 rfl⟩

/-- The one address of a configuration, the one a host is written as, and the one that the server
knows for another host, which it is asked for twice. -/
theorem addresses_are_picked_three :
    Picks (pick [.v4 ⟨1⟩] (ask "" sparse (7, 8)) ['_']) [] (· ∈ [.v4 ⟨1⟩]) ∧
    Picks (pick [] (ask "" sparse (7, 8)) ['[', ':', ':', '1', ']']) [] (· = .v6 ⟨1⟩) ∧
    ∃ offered, Asked sparse (7, 8) ['_'] [underscoreQuery 7 1, underscoreQuery 8 28] offered ∧
      offered (.v6 ⟨1⟩) ∧
      Picks (pick [] (ask "" sparse (7, 8)) ['_']) [underscoreQuery 7 1, underscoreQuery 8 28]
        offered := by
  have hbracketed : Net.Bracketed ['[', ':', ':', '1', ']'] (.v6 ⟨1⟩) :=
    Net.parseIp_withoutBrackets.mp (by decide)
  have hhost (ip : Net.Ip) : ¬ Net.Bracketed ['_'] ip := by
    intro hip
    have hnone : Net.parseIp (Net.withoutBrackets ['_']) = none := by decide
    cases hnone.symm.trans (Net.parseIp_withoutBrackets.mpr hip)
  have hfirst : (addressQuery 7 underscore .a).encode = .ok (underscoreQuery 7 1) := by
    decide +kernel
  have hfurther : (addressQuery 8 underscore .aaaa).encode = .ok (underscoreQuery 8 28) := by
    decide +kernel
  refine ⟨(addresses_are_picked [.v4 ⟨1⟩] ['_']).1 (List.cons_ne_nil _ _) _,
    (addresses_are_picked [] ['[', ':', ':', '1', ']']).2.1 rfl _ hbracketed _, ?_⟩
  obtain ⟨queries, offered, hasked, hpicks⟩ :=
    (addresses_are_picked [] ['_']).2.2 rfl hhost "" sparse (7, 8)
  cases hasked with
  | never h =>
    have hfits : underscore.Fits := by unfold Dns.Name.Fits; decide
    exact absurd hfits (h underscore ofHost_underscore)
  | once hquery h =>
    cases asksFor_underscore hfirst hquery
    exact absurd lacks_sparse h
  | twice hquery h hmore =>
    cases asksFor_underscore hfirst hquery
    cases asksFor_underscore hfurther hmore
    exact ⟨_, .twice hquery h hmore, offers_sparse, hpicks⟩

end

end DohRelay.Endpoint
