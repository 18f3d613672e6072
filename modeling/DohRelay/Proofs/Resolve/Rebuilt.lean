import DohRelay.Proofs.Resolve.Delivery
import DohRelay.Proofs.Resolve.Presentation
import DohRelay.Proofs.Resolve.Written

/-!
# Records that are rebuilt from documents

A document may be made of the records of a message: each is written with its owner, the number of
its type, its time to live and its data in presentation form.  If it has a type that is not
understood, then the owner and the data may be anything.  The message that such a document says has
the records of all other types again, section by section and in order.  A document with a record of
such a type whose owner is no name, or whose text denotes no data, makes no sense as a whole.

## Main definitions

* `Record.Renders` — a record of a document renders one of a message.
* `isUnderstood` — records of the types that are understood.
* `Record.Unreadable` — a record of a document should be understood and cannot be.

## Main results

* `Record.Renders.readRecord` — a record that is rendered is read again, or passed over.
* `answer_of_renders` — **the records of a document are those that it was made of.**
* `answer_of_unreadable` — **a record that cannot be understood spoils the document.**
* `records_are_rebuilt` — both, together with the octets of documents.
-/

namespace DohRelay.Resolve

/-! ### Records -/

/-- Records of the types that are understood. -/
def isUnderstood (record : Dns.Record) : Bool :=
  record.type ∈ understood

/-- A record of a document renders one of a message. -/
inductive Record.Renders : Record → Dns.Record → Prop
  /-- Owner and data are written down. -/
  | known {owner : Dns.Name} {type : Dns.RecordType} {ttl : UInt32} {d : Dns.RecordData}
      {name data : List Char} (hname : owner.WrittenAs name) (hdata : Presents data type d) :
      Renders ⟨name, type.code, ttl, data⟩ ⟨owner, type, Dns.classIn, ttl, some d⟩
  /-- The type is not understood, and nothing else matters. -/
  | other {r : Record} {record : Dns.Record} (htype : r.type = record.type.code)
      (hother : record.type ∉ understood) : Renders r record

/-- A record should be understood, but its owner is no name or its text denotes no data. -/
structure Record.Unreadable (r : Record) : Prop where
  /-- Its type is understood. -/
  type : (⟨r.type⟩ : Dns.RecordType) ∈ understood
  /-- The rest is not. -/
  broken : (∀ n, Dns.Name.ofText r.name ≠ .ok n) ∨ ∀ d, ¬ Denotes r.data ⟨r.type⟩ d

section

variable {r : Record} {record : Dns.Record}

/-- **A record that is rendered is read again**, or passed over if its type is not understood. -/
theorem Record.Renders.readRecord (h : r.Renders record) :
    readRecord r = .ok (Option.guard isUnderstood record) := by
  cases h with
  | @known owner type ttl d name data hname hdata =>
    have hmem : isUnderstood ⟨owner, type, Dns.classIn, ttl, some d⟩ = true :=
      decide_eq_true hdata.denotes.mem_understood
    rw [Option.guard, if_pos hmem]
    exact readRecord_eq_some_iff.mpr ⟨owner, d, hname.ofText, hdata.denotes, rfl⟩
  | other htype hother =>
    have hmem : ¬ isUnderstood record = true := fun h => hother (of_decide_eq_true h)
    rw [Option.guard, if_neg hmem]
    refine readRecord_eq_none_iff.mpr ?_
    rwa [htype]

/-- A record that cannot be understood is never read. -/
theorem Record.Unreadable.readRecord_ne (h : r.Unreadable) (found : Option Dns.Record) :
    readRecord r ≠ .ok found := by
  intro hread
  cases found with
  | none => exact readRecord_eq_none_iff.mp hread h.type
  | some record =>
    obtain ⟨owner, d, howner, hd, -⟩ := readRecord_eq_some_iff.mp hread
    rcases h.broken with hname | hdata
    · exact hname owner howner
    · exact hdata d hd

end

/-- **Rendered records are read again**, all but those of types that are not understood. -/
theorem readRecords_of_renders {rs : List Record} {records : List Dns.Record}
    (h : List.Forall₂ Record.Renders rs records) :
    readRecords rs = .ok (records.filter isUnderstood) := by
  have hread : rs.mapM readRecord = .ok (records.map (Option.guard isUnderstood)) := by
    refine mapM_eq_ok_iff.mpr (List.forall₂_map_right_iff.mpr ?_)
    exact h.imp fun _ _ hr => hr.readRecord
  rw [readRecords, hread]
  refine congrArg Except.ok ?_
  rw [List.filterMap_map, Function.id_comp]
  exact congrFun List.filterMap_eq_filter records

/-! ### Documents -/

section

variable {body : List UInt8} {document : Answer} {q : Dns.Question}

/-- **The records of a document are those that it was made of**, all but those of types that are not
understood. -/
theorem answer_of_renders {answers authority additional : List Dns.Record}
    (hparse : Answer.parse body = .ok document) (hfor : document.IsFor q)
    (hanswers : List.Forall₂ Record.Renders document.answers answers)
    (hauthority : List.Forall₂ Record.Renders document.authority authority)
    (hadditional : List.Forall₂ Record.Renders document.additional additional) :
    answer body q = .ok (document.message q (answers.filter isUnderstood)
      (authority.filter isUnderstood) (additional.filter isUnderstood)) :=
  answer_eq_ok_iff.mpr ⟨document, hparse, hfor, _, _, _, readRecords_of_renders hanswers,
    readRecords_of_renders hauthority, readRecords_of_renders hadditional, rfl⟩

/-- **A record that cannot be understood spoils the document.** -/
theorem answer_of_unreadable (hparse : Answer.parse body = .ok document)
    (hunreadable : ∃ r ∈ document.all, r.Unreadable) (q : Dns.Question) :
    ∃ reason, answer body q = .error (.undecodable reason) := by
  refine (onlyUndecodable_answer body q).exists_error fun message hanswer => ?_
  obtain ⟨r, hr, hunreadable⟩ := hunreadable
  obtain ⟨outcomes, houtcomes, -⟩ := exists_of_bind_eq_ok (readRecords_all hanswer hparse)
  obtain ⟨found, -, hread⟩ := exists_of_mapM houtcomes hr
  exact hunreadable.readRecord_ne found hread

end

/-- **The records of a document are rebuilt, or the document makes no sense.**  Whatever octets a
document has, it is the message with just the records of the types that are understood, if each of
its records renders one of these or of another type; and if any record that should be understood has
an owner that is no name or a text that denotes no data, then there is no message at all.  There are
octets for every document. -/
theorem records_are_rebuilt (q : Dns.Question) :
    (∀ body document answers authority additional, Answer.parse body = .ok document →
      document.IsFor q → List.Forall₂ Record.Renders document.answers answers →
      List.Forall₂ Record.Renders document.authority authority →
      List.Forall₂ Record.Renders document.additional additional →
      answer body q = .ok (document.message q (answers.filter isUnderstood)
        (authority.filter isUnderstood) (additional.filter isUnderstood))) ∧
    (∀ body document, Answer.parse body = .ok document → (∃ r ∈ document.all, r.Unreadable) →
      ∃ reason, answer body q = .error (.undecodable reason)) ∧
    ∀ document : Answer, Answer.parse document.written = .ok document :=
  ⟨fun _ _ _ _ _ hparse hfor hanswers hauthority hadditional =>
      answer_of_renders hparse hfor hanswers hauthority hadditional,
    fun _ _ hparse hunreadable => answer_of_unreadable hparse hunreadable q,
    Answer.parse_written⟩

/-- The name of one letter. -/
def mailOwner : Dns.Name :=
  ⟨[⟨[0x61], by decide, by decide⟩]⟩

/-- A name below it. -/
def mailExchange : Dns.Name :=
  ⟨[⟨[0x62], by decide, by decide⟩, ⟨[0x61], by decide, by decide⟩]⟩

/-- The text of a policy, and one with quotes in it. -/
def mailTexts : List (List Char) :=
  ["v=spf1 -all".toList, "say \"hi\"".toList]

/-- A mail exchange, texts, and who may issue certificates. -/
def mailRecords : List Dns.Record :=
  [⟨mailOwner, .mx, Dns.classIn, 60, some (.mx 10 mailExchange)⟩,
   ⟨mailOwner, .txt, Dns.classIn, 60, some (.txt (mailTexts.map Text.utf8))⟩,
   ⟨mailOwner, .caa, Dns.classIn, 60, some (.caa false [0x69] [0x63])⟩]

/-- A document made of these: a final dot is missing, and the fields have a tab between them. -/
def mailDocument : Answer :=
  { Answer.layout.blank with answers :=
    [⟨"a.".toList, 15, 60, "10\tb.a.".toList⟩,
     ⟨"a".toList, 16, 60, "\"v=spf1 -all\" \"say \\\"hi\\\"\"".toList⟩,
     ⟨"a.".toList, 257, 60, "0 i \"c\"".toList⟩] }

/-- Who may issue certificates is not told again. -/
theorem records_are_rebuilt_mail :
    answer mailDocument.written Dns.rootQuestion =
      .ok (mailDocument.message Dns.rootQuestion (mailRecords.take 2) [] []) := by
  obtain ⟨hrebuilt, -, hwritten⟩ := records_are_rebuilt Dns.rootQuestion
  have hdotted : mailOwner.WrittenAs "a.".toList :=
    ⟨by decide, by decide, .inl (by decide), by decide⟩
  have hbare : mailOwner.WrittenAs "a".toList :=
    ⟨by decide, by decide, .inr (by decide), by decide⟩
  have hexchange : mailExchange.WrittenAs "b.a.".toList :=
    ⟨by decide, by decide, .inl (by decide), by decide⟩
  have hmail : Presents "10\tb.a.".toList .mx (.mx 10 mailExchange) := by
    refine .mx hexchange ⟨[], Text.decimal (10 : UInt16).toNat ++ (['\t'] ++ "b.a.".toList), [],
      by decide, by decide, .cons ?_ ?_ (.one _), ?_⟩
    · decide
    · decide
    · decide
  have htexts : Presents "\"v=spf1 -all\" \"say \\\"hi\\\"\"".toList .txt
      (.txt (mailTexts.map Text.utf8)) := by
    refine .txt ⟨[], quoted "v=spf1 -all".toList ++ ([' '] ++ quoted "say \"hi\"".toList), [],
      by decide, by decide, .cons ?_ ?_ (.one _), ?_⟩
    · decide
    · decide
    · decide
  have hanswers : List.Forall₂ Record.Renders mailDocument.answers mailRecords :=
    .cons (.known hdotted hmail) <| .cons (.known hbare htexts) <|
    .cons (.other rfl (by decide)) .nil
  exact hrebuilt _ mailDocument mailRecords [] [] (hwritten mailDocument) (.inl rfl) hanswers .nil
    .nil

end DohRelay.Resolve
