import DohRelay.Proofs.Dns.Writable
import DohRelay.Proofs.Resolve.Data
import DohRelay.Proofs.Service.ResponseCode

/-!
# Messages of the endpoint can be passed on

A message that the endpoint sends as octets was read, so it can be read again.  One that it sends as
a document is made of texts, and a name in a text may be one octet longer than a name that is read:
such a message can be read only if all names in its records fit.

## Main definitions

* `Resolve.Says` — what the text of some data says.

## Main results

* `Resolve.readable_of_answer` — **a message that is made of a document can be read if its names
  fit.**
* `Inquiry.readable_of_readAnswer` — **a message of the endpoint can be read again**, provided that
  its names fit if it was sent as a document.
-/

namespace DohRelay

namespace Resolve

/-- What the text of some data says, whatever its numbers are: the names in it are the parts of the
text that stand for names. -/
inductive Says (text : List Char) : Dns.RecordType → Dns.RecordData → Prop
  /-- An address of 32 bits. -/
  | a (address : Net.Ipv4) : Says text .a (.a address)
  /-- An address of 128 bits. -/
  | aaaa (address : Net.Ipv6) : Says text .aaaa (.aaaa address)
  /-- One name. -/
  | host {type : Dns.RecordType} {n : Dns.Name} (htype : type = .cname ∨ type = .ns ∨ type = .ptr)
      (hname : readName (Text.trim text) = .ok n) : Says text type (.host n)
  /-- A mail exchange. -/
  | mx {rank name : List Char} {exchange : Dns.Name} (preference : UInt16)
      (hfields : Text.fields text = [rank, name]) (hname : readName name = .ok exchange) :
      Says text .mx (.mx preference exchange)
  /-- The place of a service. -/
  | srv {rank share door name : List Char} {target : Dns.Name} (priority weight port : UInt16)
      (hfields : Text.fields text = [rank, share, door, name])
      (hname : readName name = .ok target) : Says text .srv (.srv priority weight port target)
  /-- The start of a zone. -/
  | soa {first second : List Char} {others : List (List Char)} {primary mailbox : Dns.Name}
      (serial : UInt32) (refresh retry expire : Int32) (minimum : UInt32)
      (hfields : Text.fields text = first :: second :: others)
      (hprimary : readName first = .ok primary) (hmailbox : readName second = .ok mailbox) :
      Says text .soa (.soa primary mailbox serial refresh retry expire minimum)
  /-- Texts. -/
  | txt : Says text .txt (.txt ((textStrings text).map Text.utf8))

/-- Data that is denoted by a text is what the text says. -/
theorem Denotes.says {type : Dns.RecordType} {text : List Char} {d : Dns.RecordData}
    (h : Denotes text type d) : Says text type d := by
  cases h with
  | a => exact .a _
  | aaaa => exact .aaaa _
  | host htype hname => exact .host htype (readName_eq_ok_iff.mpr hname)
  | mx hfields _ hexchange => exact .mx _ hfields (readName_eq_ok_iff.mpr hexchange)
  | srv hfields _ _ _ htarget => exact .srv _ _ _ hfields (readName_eq_ok_iff.mpr htarget)
  | soa hfields hprimary hmailbox =>
    exact .soa _ _ _ _ _ hfields (readName_eq_ok_iff.mpr hprimary)
      (readName_eq_ok_iff.mpr hmailbox)
  | txt => exact .txt

/-- Data that a text says suits its type if its names fit. -/
theorem Says.suits {type : Dns.RecordType} {text : List Char} {d : Dns.RecordData}
    (h : Says text type d) (hfits : ∀ n ∈ d.names, n.Fits) : type ∈ understood ∧ d.Suits type := by
  cases h with
  | a address => exact ⟨by decide, .a _⟩
  | aaaa address => exact ⟨by decide, .aaaa _⟩
  | host htype =>
    have hn := hfits _ List.mem_cons_self
    rcases htype with rfl | rfl | rfl
    · exact ⟨by decide, .host (by decide) hn⟩
    · exact ⟨by decide, .host (by decide) hn⟩
    · exact ⟨by decide, .host (by decide) hn⟩
  | mx => exact ⟨by decide, .mx _ (hfits _ List.mem_cons_self)⟩
  | srv => exact ⟨by decide, .srv _ _ _ (hfits _ List.mem_cons_self)⟩
  | soa =>
    exact ⟨by decide, .soa _ _ _ _ _ (hfits _ List.mem_cons_self)
      (hfits _ (List.mem_cons_of_mem _ List.mem_cons_self))⟩
  | txt => exact ⟨by decide, .txt _⟩

/-- A record of a document can be read if its names fit. -/
theorem readable_of_readRecord {r : Record} {found : Dns.Record}
    (h : readRecord r = .ok (some found)) (hfits : ∀ n ∈ found.names, n.Fits) :
    found.Readable := by
  have hplain := type_ne_opt_of_readRecord h
  obtain ⟨owner, d, -, hdenotes, rfl⟩ := readRecord_eq_some_iff.mp h
  obtain ⟨howner, hnames⟩ := List.forall_mem_cons.mp hfits
  obtain ⟨hunderstood, hsuits⟩ := hdenotes.says.suits hnames
  have hall : ∀ t ∈ understood, t.isQuestionOnly = false := by decide
  refine ⟨howner, fun hopt => absurd hopt hplain, fun d' hd' => ?_⟩
  cases hd'
  exact ⟨hall _ hunderstood, hsuits⟩

theorem readable_of_readRecords {rs : List Record} {found : List Dns.Record}
    (h : readRecords rs = .ok found) (hfits : ∀ r ∈ found, ∀ n ∈ r.names, n.Fits) :
    ∀ r ∈ found, r.Readable := by
  intro r hr
  obtain ⟨r', -, hr'⟩ := mem_readRecords h hr
  exact readable_of_readRecord hr' (hfits r hr)

/-- The records of a message that is made of a document are those of the document that are
understood. -/
theorem answer_eq_ok {body : List UInt8} {question : Dns.Question} {message : Dns.Message}
    (h : answer body question = .ok message) :
    ∃ document, Answer.parse body = .ok document ∧ message.questions = [question] ∧
      readRecords document.answers = .ok message.answers ∧
      readRecords document.authority = .ok message.authority ∧
      readRecords document.additional = .ok message.additional ∧ message.edns = none := by
  obtain ⟨document, hdocument, -, answers, authority, additional, hanswers, hauthority,
    hadditional, rfl⟩ := answer_eq_ok_iff.mp h
  exact ⟨document, hdocument, rfl, hanswers, hauthority, hadditional, rfl⟩

/-- **A message that is made of a document can be read if its names fit.** -/
theorem readable_of_answer {body : List UInt8} {question : Dns.Question} {message : Dns.Message}
    (h : answer body question = .ok message) (hfits : message.NamesFit) : message.Readable := by
  obtain ⟨document, -, -, hanswers, hauthority, hadditional, hedns⟩ := answer_eq_ok h
  have hfits (r : Dns.Record) (hr : r ∈ message.answers ++ message.authority ++
    message.additional) := hfits r hr
  simp only [List.mem_append] at hfits
  exact ⟨readable_of_readRecords hanswers fun r hr => hfits r (.inl (.inl hr)),
    readable_of_readRecords hauthority fun r hr => hfits r (.inl (.inr hr)),
    readable_of_readRecords hadditional fun r hr => hfits r (.inr hr),
    type_ne_opt_of_readRecords hadditional, by rw [hedns]; nofun⟩

end Resolve

/-- **A message of the endpoint can be read again**, provided that its names fit if it was sent as a
document. -/
theorem Inquiry.readable_of_readAnswer {config : Config} {question : Dns.Question}
    {body : List UInt8} {message : Dns.Message} (h : readAnswer config question body = .ok message)
    (hfits : config.convention = .json → message.NamesFit) : message.Readable := by
  unfold readAnswer at h
  split at h
  case h_1 =>
    unfold Wire.answer at h
    split at h
    case h_1 hread =>
      cases h
      exact Dns.Message.readable_of_decode hread
    case h_2 => cases h
  case h_2 hjson => exact Resolve.readable_of_answer h (hfits hjson)

end DohRelay
