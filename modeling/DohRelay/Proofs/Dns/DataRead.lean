import DohRelay.Proofs.Dns.DataForms

/-!
# Data of records as it is read

Whatever is read as the data of a record suits the type of the record: every name was read and so
fits, what has to have a form was checked for it, and where a value is made plain by reading, the
plain value still has the form.

## Main definitions

* `Reader.Yields` — whatever a reader makes is of some kind.
* `Reader.Settles` — a reader makes the same everywhere.

## Main results

* `suits_of_readForm` — **data that is read suits the type of its record.**
-/

namespace DohRelay.Dns

namespace Reader

/-- Whatever a reader makes is of some kind, wherever it reads. -/
def Yields {α : Type} (r : Reader α) (kind : α → Prop) : Prop :=
  ∀ message p a p', r message p = .ok a p' → kind a

theorem yields_any {α : Type} (r : Reader α) : Yields r fun _ => True :=
  fun _ _ _ _ _ => trivial

namespace Yields

variable {α β : Type} {r : Reader α} {kind wider : α → Prop}

theorem mono (h : Yields r kind) (hmono : ∀ a, kind a → wider a) : Yields r wider :=
  fun message p a p' hr => hmono a (h message p a p' hr)

theorem pure {a : α} (h : kind a) : Yields (Pure.pure a : Reader α) kind := by
  intro message p b p' hr
  cases hr
  exact h

theorem bind {k : α → Reader β} {both : β → Prop} (hr : Yields r kind)
    (hk : ∀ a, kind a → Yields (k a) both) : Yields (r >>= k) both := by
  intro message p b p'' h
  obtain ⟨a, p', hfirst, hsecond⟩ := bind_eq_ok h
  exact hk a (hr message p a p' hfirst) message p' b p'' hsecond

/-- A reader after one that may make anything. -/
theorem bind_any {k : α → Reader β} {both : β → Prop} (hk : ∀ a, Yields (k a) both) :
    Yields (r >>= k) both :=
  (yields_any r).bind fun a _ => hk a

theorem guard {c : Prop} [Decidable c] {fault : Fault} (h : ¬ c → Yields r kind) :
    Yields (if c then fail fault >>= fun _ : Unit => r else r) kind := by
  intro message p a p' hr
  obtain ⟨hc, hr⟩ := guard_eq_ok hr
  exact h hc message p a p' hr

theorem ite {c : Prop} [Decidable c] {s : Reader α} (hr : c → Yields r kind)
    (hs : ¬ c → Yields s kind) : Yields (if c then r else s) kind := by
  split
  case isTrue hc => exact hr hc
  case isFalse hc => exact hs hc

theorem times (h : Yields r kind) (n : Nat) :
    Yields (Reader.times r n) fun as => as.length = n ∧ ∀ a ∈ as, kind a := by
  induction n with
  | zero => exact .pure ⟨rfl, nofun⟩
  | succ n ih =>
    refine h.bind fun a ha => ih.bind fun as has => .pure ?_
    exact ⟨congrArg (· + 1) has.1, List.forall_mem_cons.mpr ⟨ha, has.2⟩⟩

end Yields

theorem yields_fail {α : Type} (fault : Fault) (kind : α → Prop) :
    Yields (fail fault : Reader α) kind := by
  intro message p a p' h
  cases h

theorem yields_name : Yields name Name.Fits :=
  fun _ _ _ _ h => Name.fits_of_read h

/-- A reader of certain octets reads them by themselves, wherever it stands. -/
theorem within_eq_ok {α : Type} {r : Reader α} {bytes : List UInt8} {message : Array UInt8}
    {p p' : Nat} {a : α} (h : within bytes r message p = .ok a p') :
    ∃ q, r bytes.toArray 0 = .ok a q := by
  unfold within run at h
  split at h
  case h_1 b q hq =>
    cases h
    exact ⟨q, hq⟩
  case h_2 => cases h

theorem yields_within {α : Type} {r : Reader α} {kind : α → Prop} (h : Yields r kind)
    (bytes : List UInt8) : Yields (within bytes r) kind := by
  intro message p a p' hr
  obtain ⟨q, hq⟩ := within_eq_ok hr
  exact h _ 0 a q hq

/-- If a reader makes anything anywhere, it makes a certain value everywhere, and stays where it
is. -/
def Settles {α : Type} (r : Reader α) (a : α) : Prop :=
  ∀ message p b p', r message p = .ok b p' → b = a ∧ ∀ message p, r message p = .ok a p

namespace Settles

variable {α β : Type} {r : Reader α} {a : α}

theorem pure (a : α) : Settles (Pure.pure a : Reader α) a := by
  intro message p b p' h
  cases h
  exact ⟨rfl, fun _ _ => rfl⟩

theorem guard {c : Prop} [Decidable c] {fault : Fault} (h : Settles r a) :
    Settles (if c then fail fault >>= fun _ : Unit => r else r) a := by
  intro message p b p' hr
  obtain ⟨hc, hr⟩ := guard_eq_ok hr
  obtain ⟨rfl, hevery⟩ := h message p b p' hr
  exact ⟨rfl, fun message p => (guard_of_not hc).trans (hevery message p)⟩

/-- Of octets by themselves the same is made everywhere. -/
theorem within {s : Reader β} {k : β → Reader α} (bytes : List UInt8) (h : ∀ b, Settles (k b) a) :
    Settles (Reader.within bytes s >>= k) a := by
  intro message p b p' hr
  obtain ⟨x, q, hfirst, hsecond⟩ := bind_eq_ok hr
  obtain ⟨_, hx⟩ := within_eq_ok hfirst
  obtain ⟨rfl, hevery⟩ := h x message q b p' hsecond
  exact ⟨rfl, fun message p => (bind_of_ok (within_of_ok hx message p)).trans (hevery message p)⟩

end Settles

end Reader

open Reader

/-! ### Options -/

theorem OptionSet.readable_empty : OptionSet.empty.Readable where
  others := nofun
  subnet := nofun

theorem OptionSet.Readable.insert {set : OptionSet} (h : set.Readable) {code : UInt16}
    (hcode : code ≠ ClientSubnet.code) (value : List UInt8) : (set.insert code value).Readable where
  others o ho := by
    rcases OptionSet.mem_insertCode ho with rfl | ho
    · exact hcode
    · exact h.others o ho
  subnet := h.subnet

/-- The address of a client subnet is not shorter than its length says. -/
theorem yields_readSubnet : Yields readSubnet ClientSubnet.Reaches := by
  have hsubnet (width : Nat) (address : List UInt8 → Net.Ip)
      (hwidth : ∀ bytes, (ClientSubnet.family (address bytes)).2.length = width) :
      Yields (readSubnetOf width address) ClientSubnet.Reaches := by
    refine .bind_any fun source => .bind_any fun scope => .guard fun hcount =>
      .bind_any fun bytes => .pure ?_
    show ClientSubnet.octetCount source ≤ _
    rw [hwidth]
    exact Nat.le_of_not_lt hcount
  refine .bind_any fun family => ?_
  split
  case isTrue =>
    refine hsubnet 4 (fun bytes => .v4 (.ofBytes bytes)) fun bytes => ?_
    simp only [ClientSubnet.family, Net.Ipv4.length_bytes]
  case isFalse =>
    split
    case isTrue =>
      refine hsubnet 16 (fun bytes => .v6 (.ofBytes bytes)) fun bytes => ?_
      simp only [ClientSubnet.family, Net.Ipv6.length_bytes]
    case isFalse => exact yields_fail _ _

theorem OptionSet.Readable.yields_add {set : OptionSet} (h : set.Readable) (code : UInt16)
    (value : List UInt8) : Yields (set.add code value) OptionSet.Readable := by
  unfold OptionSet.add
  split
  case isTrue =>
    refine (yields_within yields_readSubnet value).bind fun s hs => .pure ⟨h.others, ?_⟩
    intro t ht
    cases ht
    exact hs
  case isFalse hcode => exact .pure (h.insert hcode value)

theorem yields_readOptionsFrom (length stop fuel : Nat) {known : OptionSet} (h : known.Readable) :
    Yields (readOptionsFrom length stop fuel known) OptionSet.Readable := by
  induction fuel generalizing known with
  | zero => exact .pure h
  | succ fuel ih =>
    refine .bind_any fun p => ?_
    split
    case isTrue => exact .pure h
    refine .bind_any fun code => .bind_any fun q => ?_
    split
    case isTrue => exact .pure OptionSet.readable_empty
    refine .bind_any fun count => .guard fun _ => .bind_any fun r => ?_
    dsimp only
    split
    case isTrue =>
      exact .bind_any fun value => (h.yields_add code value).bind fun more hmore => ih hmore
    case isFalse => exact .bind_any fun _ => .pure OptionSet.readable_empty

/-! ### Service bindings -/

/-- Octets that are left after some reading are enough for more. -/
theorem octets_eq_ok {n : Nat} {message : Array UInt8} {p p' : Nat} {bytes : List UInt8}
    (h : octets n message p = .ok bytes p') : bytes.length = n := by
  unfold octets at h
  split at h
  case isTrue hroom =>
    cases h
    simp
    omega
  case isFalse => cases h

/-- What is read of a greeting has the form of one: it is as long as its first two octets say, and
no longer. -/
theorem exists_read_greeting {value plain : List UInt8} {message : Array UInt8} {p p' : Nat}
    (h : readServiceParam value .greeting message p = .ok plain p') :
    ∃ again, ∀ message p, readServiceParam plain .greeting message p = .ok again p := by
  obtain ⟨_, hr⟩ := within_eq_ok h
  obtain ⟨high, _, _, hr⟩ := bind_eq_ok hr
  obtain ⟨low, _, _, hr⟩ := bind_eq_ok hr
  obtain ⟨left, _, _, hr⟩ := bind_eq_ok hr
  obtain ⟨-, hr⟩ := guard_eq_ok hr
  obtain ⟨bytes, _, hbytes, hr⟩ := bind_eq_ok hr
  cases hr
  have hlength := octets_eq_ok hbytes
  have hstands : Stands ([high] ++ ([low] ++ bytes)) (high :: low :: bytes).toArray 0 :=
    Stands.self _
  have hhigh := gives_octet high _ 0 hstands.left
  have hlow := gives_octet low _ 1 hstands.right.left
  have hread := makes_octets bytes _ 2 (by simp) hstands.right.right
  refine ⟨high :: low :: bytes, fun message p => within_of_ok (q := 2 + bytes.length) ?_ message p⟩
  refine (bind_of_ok hhigh).trans ((bind_of_ok hlow).trans ?_)
  refine (bind_of_ok (rfl : remaining _ 2 = .ok _ 2)).trans ?_
  rw [if_neg (by simp [← hlength]), ← hlength]
  exact (bind_of_ok hread).trans rfl

/-- A value that has the form of a parameter still has it after reading. -/
theorem yields_readServiceParam (value : List UInt8) (param : ServiceParam) :
    Yields (readServiceParam value param) fun plain =>
      ∃ again, ∀ message p, readServiceParam plain param message p = .ok again p := by
  intro message p plain p' h
  -- most values are checked and stay as they are
  have hsame (hsettles : Settles (readServiceParam value param) value) :
      ∃ again, ∀ message p, readServiceParam plain param message p = .ok again p := by
    obtain ⟨rfl, hevery⟩ := hsettles message p plain p' h
    exact ⟨plain, hevery⟩
  cases param with
  | mandatory => exact hsame (.within value fun _ => .guard (.pure value))
  | protocols => exact hsame (.within value fun _ => .guard (.pure value))
  | noDefaultProtocol => exact hsame (.guard (.pure value))
  | port =>
    obtain ⟨_, hr⟩ := within_eq_ok h
    have hread := makes_octets plain plain.toArray 0 (Nat.zero_le _) (Stands.self plain)
    rw [octets_eq_ok hr] at hread
    exact ⟨plain, fun message p => within_of_ok hread message p⟩
  | hint4 => exact hsame (.within value fun _ => .pure value)
  | greeting => exact exists_read_greeting h
  | hint6 => exact hsame (.within value fun _ => .pure value)

/-- The value of a parameter has the form of its key. -/
theorem yields_readParamValue (key : UInt16) :
    Yields (readParamValue key) fun value => ∀ param, ServiceParam.ofKey? key = some param →
      ∃ again, ∀ message p, readServiceParam value param message p = .ok again p := by
  refine .bind_any fun length => .bind_any fun left => .guard fun _ => .bind_any fun value => ?_
  cases hparam : ServiceParam.ofKey? key with
  | none => exact .pure nofun
  | some param =>
    refine (yields_readServiceParam value param).mono fun plain hplain other hother => ?_
    cases hother
    exact hplain

/-- Parameters are read by ascending key, each with a value in the form of its key. -/
theorem yields_readParams (stop fuel : Nat) (last : Option UInt16) :
    Yields (readParams stop fuel last) fun params =>
      params.Pairwise (fun x y => x.1 < y.1) ∧ (∀ key ∈ last, ∀ x ∈ params, key < x.1) ∧
        ∀ x ∈ params, ∀ param, ServiceParam.ofKey? x.1 = some param →
          ∃ value, ∀ message p, readServiceParam x.2 param message p = .ok value p := by
  induction fuel generalizing last with
  | zero => exact .pure ⟨.nil, nofun, nofun⟩
  | succ fuel ih =>
    refine .bind_any fun p => ?_
    split
    case isTrue => exact .pure ⟨.nil, nofun, nofun⟩
    refine .bind_any fun key => (yields_readParamValue key).bind fun value hvalue =>
      .guard fun hordered => (ih (some key)).bind fun params hparams => .pure ?_
    obtain ⟨hpairwise, hlast, hformed⟩ := hparams
    have hgreater := hlast key rfl
    refine ⟨List.pairwise_cons.mpr ⟨hgreater, hpairwise⟩, fun before hbefore => ?_,
      List.forall_mem_cons.mpr ⟨hvalue, hformed⟩⟩
    cases hbefore
    have hkey : before < key := by simpa using hordered
    exact List.forall_mem_cons.mpr ⟨hkey, fun x hx => UInt16.lt_trans hkey (hgreater x hx)⟩

theorem yields_readService (length : Nat) :
    Yields (readService length) ServiceBinding.Readable := by
  refine .bind_any fun p => .bind_any fun priority => yields_name.bind fun target htarget =>
    (yields_readParams _ _ _).bind fun params hparams => .pure ?_
  exact ⟨htarget, hparams.1, hparams.2.2⟩

/-! ### Other forms -/

theorem isAlphanumByte_foldByte {b : UInt8} (h : isAlphanumByte b = true) :
    isAlphanumByte (foldByte b) = true := by
  have hall : ∀ b, isAlphanumByte b = true → isAlphanumByte (foldByte b) = true :=
    forall_octet (by decide +kernel)
  exact hall b h

/-- The tag of an issuing rule has letters and digits in its one form too. -/
theorem yields_readIssuing (length : Nat) :
    Yields (readIssuing length) (RecordData.Suits .caa) := by
  have hoctet : Yields readIssuing.tagOctet fun b => isAlphanumByte b = true := by
    refine .bind_any fun b => ?_
    split
    case isTrue hb => exact .pure hb
    case isFalse => exact yields_fail _ _
  refine .bind_any fun flags => .bind_any fun tagLength => .guard fun _ => .guard fun hlength =>
    (hoctet.times _).bind fun tag htag => .bind_any fun value => ?_
  obtain ⟨hcount, halnum⟩ := htag
  unfold Issuing.canonical
  dsimp only
  split
  case isTrue =>
    refine .pure (.caa _ _ ?_ ?_)
    · rw [List.all_map, List.all_eq_true]
      exact fun b hb => isAlphanumByte_foldByte (halnum b hb)
    · rw [List.length_map]
      omega
  case isFalse =>
    have hshort : 1 ≤ tag.length ∧ tag.length ≤ 15 := by omega
    exact .pure (.caa _ _ (List.all_eq_true.mpr halnum) hshort)

theorem yields_readSync (length : Nat) : Yields (readSync length) (RecordData.Suits .csync) := by
  refine .bind_any fun serial => .bind_any fun flags => .guard fun _ => .guard fun _ =>
    .bind_any fun types => .pure (.csync serial types ?_)
  rw [UInt16.and_assoc]
  exact UInt16.and_zero

theorem yields_readRule : Yields readRule (RecordData.Suits .naptr) := by
  refine .bind_any fun order => .bind_any fun preference => .bind_any fun flags => .guard fun hflags
    => .bind_any fun services => .bind_any fun regexp => yields_name.bind fun replacement hn =>
    .pure (.naptr order preference services regexp ?_ hn)
  simpa using hflags

theorem yields_readZone : Yields readZone (RecordData.Suits .soa) :=
  yields_name.bind fun _ hprimary => yields_name.bind fun _ hmailbox => .bind_any fun serial =>
    .bind_any fun refresh => .bind_any fun retry => .bind_any fun expire => .bind_any fun minimum =>
    .pure (.soa serial refresh retry expire minimum hprimary hmailbox)

theorem yields_readPlace : Yields readPlace (RecordData.Suits .srv) :=
  .bind_any fun priority => .bind_any fun weight => .bind_any fun port =>
    yields_name.bind fun _ hn => .pure (.srv priority weight port hn)

theorem yields_readAtLeast (least length : Nat) : Yields (readAtLeast least length) fun d =>
    ∃ bytes, least ≤ bytes.length ∧ d = .octets bytes := by
  refine .bind_any fun start => ((yields_any octet).times least).bind fun head hhead =>
    .bind_any fun rest => .pure ⟨head ++ rest, ?_, rfl⟩
  rw [List.length_append, hhead.1]
  exact Nat.le_add_right _ _

/-- **Data that is read suits the type of its record.** -/
theorem suits_of_readForm (type : RecordType) (length : Nat) :
    Yields (readForm type length) (RecordData.Suits type) := by
  -- the cases are those of the reader, in their order
  unfold readForm
  refine .ite (fun htype => htype ▸ .bind_any fun _ => .pure (.a _)) fun ha => ?_
  refine .ite (fun htype => htype ▸ .bind_any fun _ => .pure (.aaaa _)) fun haaaa => ?_
  refine .ite (fun htype => yields_name.bind fun n hn => .pure (.host (by simpa using htype) hn))
    fun hhost => ?_
  refine .ite (fun htype => htype ▸ .bind_any fun preference => yields_name.bind fun n hn =>
    .pure (.mx preference hn)) fun hmx => ?_
  refine .ite (fun htype => htype ▸ yields_readZone) fun hsoa => ?_
  refine .ite (fun htype => htype ▸ yields_readPlace) fun hsrv => ?_
  refine .ite (fun htype => htype ▸ .bind_any fun p => .bind_any fun strings =>
    .pure (.txt strings)) fun htxt => ?_
  refine .ite (fun htype => htype ▸ .bind_any fun cpu => .bind_any fun os =>
    .pure (.hinfo cpu os)) fun hhinfo => ?_
  refine .ite (fun htype => htype ▸ yields_readRule) fun hnaptr => ?_
  refine .ite (fun htype => htype ▸ yields_readIssuing length) fun hcaa => ?_
  refine .ite (fun htype => htype ▸ yields_readSync length) fun hcsync => ?_
  refine .ite (fun htype => htype ▸ (yields_readAtLeast 2 length).mono fun d hd => ?_)
    fun hsshfp => ?_
  case refine_1 =>
    obtain ⟨bytes, hlength, rfl⟩ := hd
    exact .fingerprint hlength
  refine .ite (fun htype => htype ▸ (yields_readAtLeast 3 length).mono fun d hd => ?_)
    fun htlsa => ?_
  case refine_1 =>
    obtain ⟨bytes, hlength, rfl⟩ := hd
    exact .association hlength
  refine .ite (fun htype => (yields_readService length).bind fun binding h =>
    .pure (.service (by simpa using htype) h)) fun hservice => ?_
  refine .ite (fun htype => htype ▸ Yields.bind ?_ fun set hset => .pure (.options hset))
    fun hopt => ?_
  case refine_1 =>
    exact .bind_any fun p => yields_readOptionsFrom _ _ _ OptionSet.readable_empty
  refine .ite (fun hzero => .pure (.nothing hzero)) fun hzero => .bind_any fun bytes =>
    .pure (.octets ?_ hzero bytes)
  simp only [not_or] at hhost hservice
  simp only [RecordType.formed, List.mem_cons, List.not_mem_nil, ha, haaaa, hhost, hmx, hsoa, hsrv,
    htxt, hhinfo, hnaptr, hcaa, hcsync, hsshfp, htlsa, hservice, hopt, or_self, not_false_eq_true]

end DohRelay.Dns
