import DohRelay.Proofs.Resolve.Understood
import DohRelay.Proofs.Text.Decimal

/-!
# Data that a text denotes

The text of some data is an address, a name, or fields that are numbers and names, as the type of
the data asks; any text at all denotes texts.  Data is read from just the texts that denote it, and
data of any other type is passed over.

## Main definitions

* `understood` — the types whose data is understood.
* `Denotes` — a text denotes data of some type.

## Main results

* `readData_eq_some_iff`, `readData_eq_none_iff` — **what is read from the text of some data.**
* `readRecord_eq_some_iff`, `readRecord_eq_none_iff` — what is read from a record.
-/

namespace DohRelay.Resolve

/-- The types whose data is understood in a document. -/
def understood : List Dns.RecordType :=
  [.a, .aaaa, .cname, .ns, .ptr, .mx, .srv, .soa, .txt]

/-- A field is a number of 16 bits. -/
def IsWord16 (field : List Char) (n : UInt16) : Prop :=
  Text.parseNat (UInt16.size - 1) field = .ok n.toNat

/-- A field is a number of 32 bits. -/
def IsWord32 (field : List Char) (n : UInt32) : Prop :=
  Text.parseNat (UInt32.size - 1) field = .ok n.toNat

/-- A text denotes data of some type. -/
inductive Denotes (text : List Char) : Dns.RecordType → Dns.RecordData → Prop
  /-- An address of 32 bits. -/
  | a {address : Net.Ipv4} (haddress : Net.parseIpv4 (Text.trim text) = some address) :
      Denotes text .a (.a address)
  /-- An address of 128 bits. -/
  | aaaa {address : Net.Ipv6} (haddress : Net.parseIpv6 (Text.trim text) = some address) :
      Denotes text .aaaa (.aaaa address)
  /-- One name. -/
  | host {type : Dns.RecordType} {n : Dns.Name} (htype : type = .cname ∨ type = .ns ∨ type = .ptr)
      (hname : Dns.Name.ofText (Text.trim text) = .ok n) : Denotes text type (.host n)
  /-- A mail exchange. -/
  | mx {first second : List Char} {preference : UInt16} {exchange : Dns.Name}
      (hfields : Text.fields text = [first, second]) (hpreference : IsWord16 first preference)
      (hexchange : Dns.Name.ofText second = .ok exchange) :
      Denotes text .mx (.mx preference exchange)
  /-- The place of a service. -/
  | srv {first second third fourth : List Char} {priority weight port : UInt16} {target : Dns.Name}
      (hfields : Text.fields text = [first, second, third, fourth])
      (hpriority : IsWord16 first priority) (hweight : IsWord16 second weight)
      (hport : IsWord16 third port) (htarget : Dns.Name.ofText fourth = .ok target) :
      Denotes text .srv (.srv priority weight port target)
  /-- The start of a zone. -/
  | soa {first second third fourth fifth sixth seventh : List Char} {primary mailbox : Dns.Name}
      {serial : UInt32} {refresh retry expire : Int32} {minimum : UInt32}
      (hfields : Text.fields text = [first, second, third, fourth, fifth, sixth, seventh])
      (hprimary : Dns.Name.ofText first = .ok primary)
      (hmailbox : Dns.Name.ofText second = .ok mailbox) (hserial : IsWord32 third serial)
      (hrefresh : Text.parseInt32 fourth = .ok refresh) (hretry : Text.parseInt32 fifth = .ok retry)
      (hexpire : Text.parseInt32 sixth = .ok expire) (hminimum : IsWord32 seventh minimum) :
      Denotes text .soa (.soa primary mailbox serial refresh retry expire minimum)
  /-- Texts. -/
  | txt : Denotes text .txt (.txt ((textStrings text).map Text.utf8))

/-- Only data that is understood is denoted. -/
theorem Denotes.mem_understood {text : List Char} {type : Dns.RecordType} {d : Dns.RecordData}
    (h : Denotes text type d) : type ∈ understood := by
  cases h with
  | host htype => rcases htype with rfl | rfl | rfl <;> decide
  | _ => decide

/-! ### Reading data -/

/-- A field whose number makes a word is read as the number of that word. -/
theorem parseNat_of_map {Word : Type} {ofNat : Nat → Word} {toNat : Word → Nat} {max : Nat}
    (hword : ∀ n ≤ max, toNat (ofNat n) = n) {r : Except Error Nat} {field : List Char}
    (hr : ∀ n, r = .ok n → Text.parseNat max field = .ok n) {w : Word}
    (h : r.map ofNat = .ok w) : Text.parseNat max field = .ok (toNat w) := by
  cases r with
  | error e => cases h
  | ok n =>
    cases h
    have hfield := hr n rfl
    rw [hword n (Text.le_of_parseNat hfield), hfield]

section

variable {type : Dns.RecordType} {text : List Char} {d : Dns.RecordData}

/-- Data that is read is denoted by its text, and data that is passed over is not understood. -/
theorem denotes_of_readData {found : Option Dns.RecordData} (h : readData type text = .ok found) :
    (∃ d, found = some d ∧ Denotes text type d) ∨ found = none ∧ type ∉ understood := by
  unfold readData at h
  extract_lets bad nat word16 word32 int32 at h
  -- whatever would be said about a field that is no number, one that is read as a number is one
  have hnat {max : Nat} {what : String} {field : List Char} (n : Nat)
      (h : nat max what field = .ok n) : Text.parseNat max field = .ok n := by
    cases hfield : Text.parseNat max field with
    | ok n' => simpa [nat, hfield] using h
    | error fault => simp [nat, hfield, bad] at h
  have hint32 {what : String} {field : List Char} {n : Int32} (h : int32 what field = .ok n) :
      Text.parseInt32 field = .ok n := by
    cases hfield : Text.parseInt32 field with
    | ok n' => simpa [int32, hfield] using h
    | error fault => simp [int32, hfield, bad] at h
  have hword16 {what : String} {field : List Char} {w : UInt16} (h : word16 what field = .ok w) :
      IsWord16 field w :=
    parseNat_of_map (fun _ hn => UInt16.toNat_ofNat_of_lt' (Nat.lt_of_le_pred (by decide) hn))
      hnat h
  have hword32 {what : String} {field : List Char} {w : UInt32} (h : word32 what field = .ok w) :
      IsWord32 field w :=
    parseNat_of_map (fun _ hn => UInt32.toNat_ofNat_of_lt' (Nat.lt_of_le_pred (by decide) hn))
      hnat h
  rcases ite_eq_iff.mp h with ⟨rfl, h⟩ | ⟨ha, h⟩
  · split at h
    case h_1 haddress =>
      cases h
      exact .inl ⟨_, rfl, .a haddress⟩
    case h_2 => cases h
  rcases ite_eq_iff.mp h with ⟨rfl, h⟩ | ⟨haaaa, h⟩
  · split at h
    case h_1 haddress =>
      cases h
      exact .inl ⟨_, rfl, .aaaa haddress⟩
    case h_2 => cases h
  rcases ite_eq_iff.mp h with ⟨htype, h⟩ | ⟨hhost, h⟩
  · obtain ⟨n, hname, h⟩ := exists_of_bind_eq_ok h
    cases h
    exact .inl ⟨_, rfl, .host htype (readName_eq_ok_iff.mp hname)⟩
  rcases ite_eq_iff.mp h with ⟨rfl, h⟩ | ⟨hmx, h⟩
  · split at h
    case h_1 hfields =>
      obtain ⟨preference, hpreference, h⟩ := exists_of_bind_eq_ok h
      obtain ⟨exchange, hexchange, h⟩ := exists_of_bind_eq_ok h
      cases h
      exact .inl ⟨_, rfl, .mx hfields (hword16 hpreference) (readName_eq_ok_iff.mp hexchange)⟩
    case h_2 => cases h
  rcases ite_eq_iff.mp h with ⟨rfl, h⟩ | ⟨hsrv, h⟩
  · split at h
    case h_1 hfields =>
      obtain ⟨priority, hpriority, h⟩ := exists_of_bind_eq_ok h
      obtain ⟨weight, hweight, h⟩ := exists_of_bind_eq_ok h
      obtain ⟨port, hport, h⟩ := exists_of_bind_eq_ok h
      obtain ⟨target, htarget, h⟩ := exists_of_bind_eq_ok h
      cases h
      exact .inl ⟨_, rfl, .srv hfields (hword16 hpriority) (hword16 hweight) (hword16 hport)
        (readName_eq_ok_iff.mp htarget)⟩
    case h_2 => cases h
  rcases ite_eq_iff.mp h with ⟨rfl, h⟩ | ⟨hsoa, h⟩
  · split at h
    case h_1 hfields =>
      obtain ⟨primary, hprimary, h⟩ := exists_of_bind_eq_ok h
      obtain ⟨mailbox, hmailbox, h⟩ := exists_of_bind_eq_ok h
      obtain ⟨serial, hserial, h⟩ := exists_of_bind_eq_ok h
      obtain ⟨refresh, hrefresh, h⟩ := exists_of_bind_eq_ok h
      obtain ⟨retry, hretry, h⟩ := exists_of_bind_eq_ok h
      obtain ⟨expire, hexpire, h⟩ := exists_of_bind_eq_ok h
      obtain ⟨minimum, hminimum, h⟩ := exists_of_bind_eq_ok h
      cases h
      exact .inl ⟨_, rfl, .soa hfields (readName_eq_ok_iff.mp hprimary)
        (readName_eq_ok_iff.mp hmailbox) (hword32 hserial) (hint32 hrefresh) (hint32 hretry)
        (hint32 hexpire) (hword32 hminimum)⟩
    case h_2 => cases h
  rcases ite_eq_iff.mp h with ⟨rfl, h⟩ | ⟨htxt, h⟩
  · cases h
    exact .inl ⟨_, rfl, .txt⟩
  · cases h
    obtain ⟨hcname, hns, hptr⟩ := not_or.mp hhost |>.imp_right not_or.mp
    exact .inr ⟨rfl, by simp [understood, ha, haaaa, hcname, hns, hptr, hmx, hsrv, hsoa, htxt]⟩

/-- Data is read from each text that denotes it. -/
theorem Denotes.readData (h : Denotes text type d) : readData type text = .ok (some d) := by
  unfold Resolve.readData
  cases h with
  | a haddress =>
    rw [if_pos rfl]
    simp only [haddress]
  | aaaa haddress =>
    rw [if_neg (by decide), if_pos rfl]
    simp only [haddress]
  | @host type n htype hname =>
    have hother : type ≠ .a ∧ type ≠ .aaaa := by
      rcases htype with rfl | rfl | rfl <;> decide
    rw [if_neg hother.1, if_neg hother.2, if_pos htype, readName_eq_ok_iff.mpr hname]
    rfl
  | mx hfields hpreference hexchange =>
    rw [if_neg (by decide), if_neg (by decide), if_neg (by decide), if_pos rfl]
    unfold IsWord16 at hpreference
    simp only [hfields, hpreference, readName_eq_ok_iff.mpr hexchange, Except.map,
      UInt16.ofNat_toNat]
    rfl
  | srv hfields hpriority hweight hport htarget =>
    rw [if_neg (by decide), if_neg (by decide), if_neg (by decide), if_neg (by decide), if_pos rfl]
    unfold IsWord16 at hpriority hweight hport
    simp only [hfields, hpriority, hweight, hport, readName_eq_ok_iff.mpr htarget, Except.map,
      UInt16.ofNat_toNat]
    rfl
  | soa hfields hprimary hmailbox hserial hrefresh hretry hexpire hminimum =>
    rw [if_neg (by decide), if_neg (by decide), if_neg (by decide), if_neg (by decide),
      if_neg (by decide), if_pos rfl]
    unfold IsWord32 at hserial hminimum
    simp only [hfields, readName_eq_ok_iff.mpr hprimary, readName_eq_ok_iff.mpr hmailbox, hserial,
      hrefresh, hretry, hexpire, hminimum, Except.map, UInt32.ofNat_toNat]
    rfl
  | txt => rfl

/-- **Data is read from just the texts that denote it.** -/
theorem readData_eq_some_iff : readData type text = .ok (some d) ↔ Denotes text type d := by
  refine ⟨fun h => ?_, Denotes.readData⟩
  obtain ⟨d', hd, hdenotes⟩ | ⟨hnone, -⟩ := denotes_of_readData h
  · cases hd
    exact hdenotes
  · cases hnone

/-- **Data is passed over just if its type is not understood.** -/
theorem readData_eq_none_iff : readData type text = .ok none ↔ type ∉ understood := by
  constructor
  · intro h
    obtain ⟨d, hd, -⟩ | ⟨-, hother⟩ := denotes_of_readData h
    · cases hd
    · exact hother
  · intro hother
    simp only [understood, List.mem_cons, List.not_mem_nil, or_false, not_or] at hother
    obtain ⟨ha, haaaa, hcname, hns, hptr, hmx, hsrv, hsoa, htxt⟩ := hother
    simp only [readData, ha, haaaa, hcname, hns, hptr, hmx, hsrv, hsoa, htxt, or_self, if_false]

end

/-! ### Reading records -/

section

variable {r : Record} {record : Dns.Record}

/-- **A record is read if its text denotes data and its owner is a name.** -/
theorem readRecord_eq_some_iff : readRecord r = .ok (some record) ↔
    ∃ owner d, Dns.Name.ofText r.name = .ok owner ∧ Denotes r.data ⟨r.type⟩ d ∧
      record = ⟨owner, ⟨r.type⟩, Dns.classIn, r.ttl, some d⟩ := by
  constructor
  · intro h
    obtain ⟨found, hdata, h⟩ := exists_of_bind_eq_ok h
    cases found with
    | none => cases h
    | some d =>
      obtain ⟨owner, howner, h⟩ := exists_of_bind_eq_ok h
      cases h
      exact ⟨owner, d, readName_eq_ok_iff.mp howner, readData_eq_some_iff.mp hdata, rfl⟩
  · rintro ⟨owner, d, howner, hd, rfl⟩
    rw [readRecord, readData_eq_some_iff.mpr hd, readName_eq_ok_iff.mpr howner]
    rfl

/-- **A record is passed over just if its type is not understood**, whatever its owner is. -/
theorem readRecord_eq_none_iff :
    readRecord r = .ok none ↔ (⟨r.type⟩ : Dns.RecordType) ∉ understood := by
  constructor
  · intro h
    obtain ⟨found, hdata, h⟩ := exists_of_bind_eq_ok h
    cases found with
    | none => exact readData_eq_none_iff.mp hdata
    | some d =>
      obtain ⟨owner, howner, h⟩ := exists_of_bind_eq_ok h
      cases h
  · intro hother
    rw [readRecord, readData_eq_none_iff.mpr hother]
    rfl

end

end DohRelay.Resolve
