import DohRelay.Proofs.Dns.Readable
import DohRelay.Proofs.Dns.Room

/-!
# Messages that can be written

Records that find no room are left out, so a message does not fail to be written because it has many
of them.  What a writer refuses is a name that is too long, or a text whose length does not go into
one octet.  A message without such names and texts has octets if its questions, which are never left
out, are few.  What was read has neither, so relaying a message does not fail.

## Main definitions

* `Writer.Accepts` — a writer does not refuse what it is given, but may want for room.
* `Record.names`, `Record.texts` — what may be refused in a record.
* `Record.Writable`, `Message.Writable` — records and messages in which nothing is refused.

## Main results

* `Record.Writable.accepts_writeRecord` — the only thing that a writable record can lack is room.
* `Message.Writable.exists_encode` — **a writable message with a few questions is written.**
* `Message.writable_of_decode` — **every message that was read is writable.**
-/

namespace DohRelay.Dns

open Reader Writer

/-! ### Names and texts -/

/-- The names in the data of a record. -/
def RecordData.names : RecordData → List Name
  | .host n => [n]
  | .mx _ exchange => [exchange]
  | .soa primary mailbox _ _ _ _ _ => [primary, mailbox]
  | .srv _ _ _ target => [target]
  | .naptr _ _ _ _ _ replacement => [replacement]
  | .service binding => [binding.target]
  | _ => []

/-- The names in a record. -/
def Record.names (r : Record) : List Name :=
  r.owner :: r.data.elim [] RecordData.names

/-- All names in the records of a message fit. -/
def Message.NamesFit (m : Message) : Prop :=
  ∀ r ∈ m.answers ++ m.authority ++ m.additional, ∀ n ∈ r.names, n.Fits

/-- The texts in the data of a record that have their length in one octet. -/
def RecordData.texts : RecordData → List (List UInt8)
  | .txt strings => strings
  | .hinfo cpu os => [cpu, os]
  | .naptr _ _ flags services regexp _ => [flags, services, regexp]
  | .caa _ tag _ => [tag]
  | _ => []

/-- The texts in a record. -/
def Record.texts (r : Record) : List (List UInt8) :=
  r.data.elim [] RecordData.texts

/-- Names in the data fit, and texts are short. -/
structure RecordData.Writable (d : RecordData) : Prop where
  /-- No name is too long. -/
  names : ∀ n ∈ d.names, n.Fits
  /-- Neither is a text. -/
  texts : ∀ t ∈ d.texts, t.length ≤ 255

/-- Names in a record fit, and texts are short. -/
structure Record.Writable (r : Record) : Prop where
  /-- No name is too long. -/
  names : ∀ n ∈ r.names, n.Fits
  /-- Neither is a text. -/
  texts : ∀ t ∈ r.texts, t.length ≤ 255

/-- The records of a message are writable. -/
def Message.Writable (m : Message) : Prop :=
  ∀ r ∈ m.answers ++ m.authority ++ m.additional, r.Writable

theorem Record.writable_iff {r : Record} :
    r.Writable ↔ r.owner.Fits ∧ ∀ d ∈ r.data, d.Writable := by
  constructor
  · intro h
    obtain ⟨howner, hnames⟩ := List.forall_mem_cons.mp h.names
    refine ⟨howner, fun d hd => ?_⟩
    have htexts := h.texts
    rw [texts, hd] at htexts
    rw [hd] at hnames
    exact ⟨hnames, htexts⟩
  · rintro ⟨howner, hdata⟩
    cases hd : r.data with
    | none => exact ⟨by simpa [names, hd] using howner, by simp [texts, hd]⟩
    | some d =>
      obtain ⟨hnames, htexts⟩ := hdata d hd
      refine ⟨List.forall_mem_cons.mpr ⟨howner, ?_⟩, ?_⟩
      · rwa [hd]
      · rwa [texts, hd]

/-! ### Writers that accept -/

namespace Writer

/-- After some output a writer does not refuse what it is given: if it fails, it is for want of
room. -/
def Accepts {α : Type} (w : Writer α) (out : Output) : Prop :=
  ∀ fault out', w out = .error fault out' → fault = .full

namespace Accepts

variable {α β : Type} {w : Writer α} {out : Output}

theorem of_ok {a : α} {out' : Output} (h : w out = .ok a out') : Accepts w out := by
  intro fault out'' hfault
  rw [h] at hfault
  cases hfault

/-- One writer after another accepts what it is given wherever the other leaves off. -/
theorem bind {k : α → Writer β} (hw : Accepts w out)
    (hk : ∀ a out', w out = .ok a out' → Accepts (k a) out') : Accepts (w >>= k) out := by
  intro fault out'' h
  change EStateM.bind w k out = _ at h
  unfold EStateM.bind at h
  split at h
  case h_1 a out' hfirst => exact hk a out' hfirst fault out'' h
  case h_2 hfirst =>
    cases h
    exact hw _ _ hfirst

/-- One that always does may come after any other that does. -/
theorem bind_any {k : α → Writer β} (hw : Accepts w out) (hk : ∀ a out, Accepts (k a) out) :
    Accepts (w >>= k) out :=
  hw.bind fun a out' _ => hk a out'

theorem forM {f : α → Writer Unit} {as : List α} (h : ∀ a ∈ as, ∀ out, Accepts (f a) out)
    (out : Output) : Accepts (as.forM f) out := by
  induction as generalizing out with
  | nil => exact .of_ok rfl
  | cons a as ih =>
    obtain ⟨ha, has⟩ := List.forall_mem_cons.mp h
    exact (ha out).bind_any fun _ => ih has

end Accepts

theorem accepts_put (bytes : List UInt8) (out : Output) : Accepts (put bytes) out := by
  intro fault out' h
  simp only [put] at h
  split at h <;> cases h
  rfl

theorem accepts_reserve (n : Nat) (out : Output) : Accepts (reserve n) out := by
  intro fault out' h
  unfold reserve at h
  split at h <;> cases h
  rfl

theorem accepts_withLength {w : Writer Unit} (h : ∀ out, Accepts w out) (out : Output) :
    Accepts (withLength w) out := by
  refine (accepts_reserve 2 out).bind_any fun _ out fault out' hfault => ?_
  dsimp only at hfault
  split at hfault
  case h_1 hinner =>
    cases hfault
    exact h _ _ _ hinner
  case h_2 => cases hfault

/-- A text whose length goes into one octet is accepted. -/
theorem accepts_charString {bytes : List UInt8} (hshort : bytes.length ≤ 255) (out : Output) :
    Accepts (charString bytes) out := by
  unfold charString
  rw [if_neg (Nat.not_lt.mpr hshort)]
  exact (accepts_put _ out).bind_any fun _ => accepts_put bytes

/-! ### Names -/

/-- A name that is not too long is ended. -/
theorem accepts_endName {start : Nat} {out : Output}
    (hlength : out.size + 1 ≤ start + Name.maxLength) : Accepts (endName start) out := by
  refine (accepts_put [0] out).bind fun _ middle hput => ?_
  have hsize : middle.size = out.size + 1 := (put_eq_ok hput).1
  refine (Accepts.of_ok (rfl : size middle = .ok middle.size middle)).bind fun _ stop hstop => ?_
  cases hstop
  have hend : ¬ Name.maxLength < middle.size - start := by omega
  dsimp only
  rw [if_neg hend]
  exact .of_ok rfl

theorem accepts_rememberUpTo (stop : Nat) (ls : List Label) (out : Output) :
    Accepts (rememberUpTo stop ls) out := by
  obtain ⟨out', hout, -⟩ := exists_rememberUpTo stop ls out
  exact .of_ok hout

theorem accepts_label (l : Label) (out : Output) : Accepts (label l) out :=
  accepts_put _ out

/-- A label takes one octet more than it has. -/
theorem size_of_label {l : Label} {out out' : Output} {u : Unit} (h : label l out = .ok u out') :
    out'.size = out.size + (l.length + 1) :=
  (put_eq_ok h).1

/-- The last labels of a name are accepted if the name is not too long with all of them. -/
theorem accepts_labels {start stop : Nat} {ls : List Label} {out : Output}
    (hlength : out.size + Name.sizeOfLabels ls + 1 ≤ start + Name.maxLength) :
    Accepts (labels start stop ls) out := by
  induction ls generalizing out with
  | nil => exact accepts_endName hlength
  | cons l rest ih =>
    rw [Name.sizeOfLabels_cons] at hlength
    refine (Accepts.of_ok (rfl : find? (l :: rest) out = .ok _ out)).bind fun found _ hfound => ?_
    cases hfound
    cases out.suffixes.lookup (l :: rest) with
    | some position => exact accepts_put _ out
    | none =>
      refine (accepts_rememberUpTo _ _ out).bind fun _ out₁ hremember => ?_
      refine (accepts_label l out₁).bind fun _ out₂ hlabel => ih ?_
      have hsize₁ := (rememberUpTo_eq_ok hremember).1
      have hsize₂ := size_of_label hlabel
      omega

theorem accepts_labelsInFull {start stop : Nat} {ls : List Label} {out : Output}
    (hlength : out.size + Name.sizeOfLabels ls + 1 ≤ start + Name.maxLength) :
    Accepts (labelsInFull start stop ls) out := by
  induction ls generalizing out with
  | nil => exact accepts_endName hlength
  | cons l rest ih =>
    rw [Name.sizeOfLabels_cons] at hlength
    have hlabel {out₁ : Output} (hsize₁ : out₁.size = out.size) :
        Accepts (label l >>= fun _ => labelsInFull start stop rest) out₁ := by
      refine (accepts_label l out₁).bind fun _ out₂ hlabel => ih ?_
      have hsize₂ := size_of_label hlabel
      omega
    refine (Accepts.of_ok (rfl : find? (l :: rest) out = .ok _ out)).bind fun found _ hfound => ?_
    cases hfound
    split
    · exact (accepts_rememberUpTo _ _ out).bind fun _ out₁ hremember =>
        hlabel (rememberUpTo_eq_ok hremember).1
    · exact hlabel rfl

/-- A name that fits is accepted. -/
theorem accepts_name {n : Name} (hn : n.Fits) (out : Output) : Accepts (name n) out := by
  have hlength := hn.sizeOfLabels_lt
  refine (Accepts.of_ok (rfl : size out = .ok out.size out)).bind fun _ _ hsize => ?_
  cases hsize
  refine (accepts_reserve _ out).bind fun _ out' hreserve => ?_
  obtain ⟨rfl, -⟩ := reserve_eq_ok hreserve
  exact accepts_labels (by omega)

theorem accepts_nameInFull {n : Name} (hn : n.Fits) (out : Output) :
    Accepts (nameInFull n) out := by
  have hlength := hn.sizeOfLabels_lt
  refine (Accepts.of_ok (rfl : size out = .ok out.size out)).bind fun _ _ hsize => ?_
  cases hsize
  exact accepts_labelsInFull (by omega)

/-! ### Data -/

theorem accepts_pairs (ps : List (UInt16 × List UInt8)) (out : Output) :
    Accepts (ps.forM fun p => pair p.1 p.2) out :=
  .forM (fun p _ out => (accepts_put (bytes16 p.1) out).bind_any fun _ =>
    accepts_withLength (accepts_put p.2)) out

end Writer

/-- Writable data is accepted. -/
theorem RecordData.Writable.accepts_data {d : RecordData} (h : d.Writable) (out : Output) :
    Accepts (Writer.data d) out := by
  obtain ⟨hnames, htexts⟩ := h
  cases d with
  | a address => exact accepts_put address.bytes out
  | aaaa address => exact accepts_put address.bytes out
  | octets bytes => exact accepts_put bytes out
  | host n => exact accepts_name (hnames n List.mem_cons_self) out
  | mx preference exchange =>
    exact (accepts_put _ out).bind_any fun _ => accepts_name (hnames _ List.mem_cons_self)
  | soa primary mailbox =>
    obtain ⟨hprimary, hmailbox⟩ := List.forall_mem_cons.mp hnames
    exact (accepts_name hprimary out).bind_any fun _ out =>
      (accepts_name (hmailbox _ List.mem_cons_self) out).bind_any fun _ out =>
      (accepts_put _ out).bind_any fun _ out => (accepts_put _ out).bind_any fun _ out =>
      (accepts_put _ out).bind_any fun _ out => (accepts_put _ out).bind_any fun _ =>
      accepts_put _
  | srv priority weight port target =>
    exact (accepts_put _ out).bind_any fun _ out => (accepts_put _ out).bind_any fun _ out =>
      (accepts_put _ out).bind_any fun _ => accepts_nameInFull (hnames _ List.mem_cons_self)
  | txt strings => exact .forM (fun t ht => accepts_charString (htexts t ht)) out
  | hinfo cpu os =>
    obtain ⟨hcpu, hos⟩ := List.forall_mem_cons.mp htexts
    exact (accepts_charString hcpu out).bind_any fun _ =>
      accepts_charString (hos os List.mem_cons_self)
  | naptr order preference flags services regexp replacement =>
    obtain ⟨hflags, htexts⟩ := List.forall_mem_cons.mp htexts
    obtain ⟨hservices, hregexp⟩ := List.forall_mem_cons.mp htexts
    exact (accepts_put _ out).bind_any fun _ out => (accepts_put _ out).bind_any fun _ out =>
      (accepts_charString hflags out).bind_any fun _ out =>
      (accepts_charString hservices out).bind_any fun _ out =>
      (accepts_charString (hregexp regexp List.mem_cons_self) out).bind_any fun _ =>
      accepts_nameInFull (hnames _ List.mem_cons_self)
  | caa critical tag value =>
    exact (accepts_put _ out).bind_any fun _ out =>
      (accepts_charString (htexts tag List.mem_cons_self) out).bind_any fun _ => accepts_put value
  | csync serial flags types =>
    exact (accepts_put _ out).bind_any fun _ out => (accepts_put _ out).bind_any fun _ =>
      accepts_put _
  | service binding =>
    exact (accepts_put _ out).bind_any fun _ out =>
      (accepts_name (hnames _ List.mem_cons_self) out).bind_any fun _ => accepts_pairs _
  | options set => exact accepts_pairs set.toList out

/-! ### Records -/

/-- **The only thing that a writable record can lack is room.** -/
theorem Record.Writable.accepts_writeRecord {r : Record} (h : r.Writable) (out : Output) :
    Accepts (writeRecord r) out := by
  obtain ⟨howner, hdata⟩ := Record.writable_iff.mp h
  have hinner (out : Output) : Accepts (r.data.elim (pure ()) Writer.data) out := by
    cases hd : r.data with
    | none => exact .of_ok rfl
    | some d => exact (hdata d hd).accepts_data out
  exact (accepts_name howner out).bind_any fun _ out => (accepts_put _ out).bind_any fun _ out =>
    (accepts_put _ out).bind_any fun _ out => (accepts_put _ out).bind_any fun _ =>
    accepts_withLength hinner

/-- Writable records are written as far as there is room for them. -/
theorem exists_writeRecords {rs : List Record} (h : ∀ r ∈ rs, r.Writable) (out : Output) :
    ∃ n out', writeRecords rs out = .ok n out' := by
  induction rs generalizing out with
  | nil => exact ⟨0, out, rfl⟩
  | cons r rest ih =>
    obtain ⟨hr, hrest⟩ := List.forall_mem_cons.mp h
    unfold writeRecords
    split
    case h_1 => exact ⟨0, out, rfl⟩
    case h_2 fault _ hne hfault => exact absurd (hr.accepts_writeRecord out _ _ hfault) hne
    case h_3 middle _ =>
      obtain ⟨n, out', hout⟩ := ih hrest middle
      refine ⟨n + 1, out', ?_⟩
      change EStateM.map (· + 1) (writeRecords rest) middle = _
      unfold EStateM.map
      rw [hout]

/-! ### Messages -/

/-- What an extension record says is written if there is room for it. -/
theorem Edns.writable_record (e : Edns) (code : ResponseCode) : (e.record code).Writable :=
  Record.writable_iff.mpr
    ⟨(by decide : Name.length .root < Name.maxLength), fun d hd => by
      cases hd
      exact ⟨nofun, nofun⟩⟩

/-- A writable message is written if its questions are. -/
theorem Message.Writable.exists_encode_of_questions {m : Message} (h : m.Writable) {out₁ : Output}
    (hquestions : writeQuestions 0 m.questions (blank headerLength) = .ok () out₁) :
    ∃ bytes, m.encode = .ok bytes := by
  have hrecords (r : Record) (hr : r ∈ m.answers ++ m.authority ++ m.additional) := h r hr
  simp only [List.mem_append] at hrecords
  have hext : ∀ r ∈ m.ednsRecords, r.Writable := by
    intro r hr
    obtain ⟨e, -, rfl⟩ := List.mem_map.mp hr
    exact e.writable_record _
  obtain ⟨a, out₂, hanswers⟩ := exists_writeRecords (fun r hr => hrecords r (.inl (.inl hr))) out₁
  obtain ⟨n, out₃, hauthority⟩ := exists_writeRecords (fun r hr => hrecords r (.inl (.inr hr))) out₂
  obtain ⟨d, out₄, hadditional⟩ := exists_writeRecords (fun r hr => hrecords r (.inr hr)) out₃
  obtain ⟨e, out₅, hextension⟩ := exists_writeRecords hext out₄
  have hbody : m.writeBody (blank headerLength) = .ok (a, n, d + e) out₅ :=
    (Writer.bind_of_ok hquestions).trans ((Writer.bind_of_ok hanswers).trans
      ((Writer.bind_of_ok hauthority).trans ((Writer.bind_of_ok hadditional).trans
        ((Writer.bind_of_ok hextension).trans rfl))))
  rw [encode, hbody]
  exact ⟨_, rfl⟩

/-- **A writable message with a few questions is written**, if these are about names that fit. -/
theorem Message.Writable.exists_encode {m : Message} (h : m.Writable)
    (hfits : ∀ q ∈ m.questions, q.name.Fits) (hfew : m.questions.length ≤ 252) :
    ∃ bytes, m.encode = .ok bytes := by
  have hroom : (blank headerLength).size + questionMost * m.questions.length ≤ limit := by
    simp only [blank, headerLength, questionMost, Name.maxLength, limit]
    omega
  obtain ⟨out, hquestions⟩ := exists_writeQuestions hfits 0 hroom
  exact h.exists_encode_of_questions hquestions

/-! ### What is read -/

/-- Data that suits its type has names that fit. -/
theorem RecordData.Suits.names_fit {type : RecordType} {d : RecordData} (h : d.Suits type) :
    ∀ n ∈ d.names, n.Fits := by
  cases h with
  | host _ hn | mx _ hn | srv _ _ _ hn | naptr _ _ _ _ _ hn => simpa [names] using hn
  | soa _ _ _ _ _ hprimary hmailbox => simpa [names] using ⟨hprimary, hmailbox⟩
  | service _ hbinding => simpa [names] using hbinding.target
  | _ => simp [names]

/-- The length of a character string was read from one octet. -/
theorem yields_charString : Yields charString fun bytes => bytes.length ≤ 255 := by
  refine .bind_any fun n => fun message p bytes p' h => ?_
  rw [octets_eq_ok h]
  exact Nat.le_of_lt_succ n.toNat_lt

theorem yields_charStrings (stop fuel : Nat) :
    Yields (charStrings stop fuel) fun strings => ∀ t ∈ strings, t.length ≤ 255 := by
  induction fuel with
  | zero => exact .pure nofun
  | succ fuel ih =>
    exact .bind_any fun _ => .ite (fun _ => yields_charString.bind fun _ hfirst =>
      ih.bind fun _ hrest => .pure (List.forall_mem_cons.mpr ⟨hfirst, hrest⟩)) fun _ => .pure nofun

/-- Texts in data that is read are short. -/
theorem yields_short_texts (type : RecordType) (length : Nat) :
    Yields (readForm type length) fun d => ∀ t ∈ d.texts, t.length ≤ 255 := by
  by_cases htxt : type = .txt
  · subst htxt
    exact .bind_any fun _ => (yields_charStrings _ _).bind fun _ hstrings => .pure hstrings
  by_cases hhinfo : type = .hinfo
  · subst hhinfo
    refine yields_charString.bind fun cpu hcpu => yields_charString.bind fun os hos => .pure ?_
    simpa [RecordData.texts] using ⟨hcpu, hos⟩
  by_cases hnaptr : type = .naptr
  · subst hnaptr
    refine .bind_any fun _ => .bind_any fun _ => yields_charString.bind fun flags hflags =>
      .guard fun _ => yields_charString.bind fun services hservices =>
      yields_charString.bind fun regexp hregexp => .bind_any fun _ => .pure ?_
    simpa [RecordData.texts] using ⟨hflags, hservices, hregexp⟩
  -- data of another type has no text but the tag of an issuing rule
  refine (suits_of_readForm type length).mono fun d hd => ?_
  cases hd with
  | txt => exact absurd rfl htxt
  | hinfo => exact absurd rfl hhinfo
  | naptr => exact absurd rfl hnaptr
  | caa _ _ _ hlength =>
    have hshort := Nat.le_trans hlength.2 (by decide : 15 ≤ 255)
    simpa [RecordData.texts] using hshort
  | _ => simp [RecordData.texts]

/-- Data that is read is writable. -/
theorem yields_writable_data (type : RecordType) (length : Nat) :
    Yields (readData type length) RecordData.Writable := by
  have hattempt : Yields (attempt (readForm type length)) fun outcome =>
      ∀ d, outcome = .ok d → d.Writable := by
    intro message p outcome p' h d hd
    unfold attempt at h
    split at h
    case h_1 hread =>
      cases h
      cases hd
      exact ⟨(suits_of_readForm type length _ _ _ _ hread).names_fit,
        yields_short_texts type length _ _ _ _ hread⟩
    case h_2 =>
      cases h
      cases hd
  refine .guard fun _ => .bind_any fun start => hattempt.bind fun outcome houtcome =>
    .bind_any fun stop => .guard fun _ => ?_
  cases outcome with
  | error fault => exact yields_fail fault _
  | ok d => exact .pure (houtcome d rfl)

/-- A record that is read is writable. -/
theorem yields_writable_record : Yields readRecord Record.Writable := by
  refine yields_name.bind fun owner howner => .bind_any fun type => .bind_any fun rclass =>
    .bind_any fun ttl => .bind_any fun length => .bind_any fun left => .guard fun _ =>
    .ite (fun _ => .pure (Record.writable_iff.mpr ⟨howner, nofun⟩)) fun _ =>
    (yields_writable_data ⟨type⟩ _).bind fun d hd => .pure (Record.writable_iff.mpr ⟨howner, ?_⟩)
  intro d' hd'
  cases hd'
  exact hd

theorem yields_writable_additional (n : Nat) (edns : Option Edns) :
    Yields (readAdditional n edns) fun found => ∀ r ∈ found.1, r.Writable := by
  induction n generalizing edns with
  | zero => exact .pure nofun
  | succ n ih =>
    exact yields_writable_record.bind fun r hr => .ite (fun _ => .guard fun _ => ih _) fun _ =>
      (ih edns).bind fun found hfound => .pure (List.forall_mem_cons.mpr ⟨hr, hfound⟩)

/-- **Every message that was read is writable.** -/
theorem Message.writable_of_decode {bytes : List UInt8} {m : Message} (h : decode bytes = .ok m) :
    m.Writable := by
  have hread : Yields Message.read Message.Writable := by
    refine .bind_any fun header => .bind_any fun questionCount => .bind_any fun answerCount =>
      .bind_any fun authorityCount => .bind_any fun additionalCount => .bind_any fun questions =>
      (yields_writable_record.times _).bind fun answers hanswers =>
      (yields_writable_record.times _).bind fun authority hauthority =>
      (yields_writable_additional _ _).bind fun found hfound => .pure ?_
    intro r hr
    simp only [List.mem_append] at hr
    rcases hr with (hr | hr) | hr
    · exact hanswers.2 r hr
    · exact hauthority.2 r hr
    · exact hfound r hr
  unfold decode Reader.run at h
  split at h
  case h_1 hm =>
    cases h
    exact hread _ _ _ _ hm
  case h_2 => cases h

end DohRelay.Dns
