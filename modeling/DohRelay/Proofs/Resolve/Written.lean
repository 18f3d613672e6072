import DohRelay.Proofs.Document.Written
import DohRelay.Resolve.Document

/-!
# Documents as octets

A document is written as a record with all its fields, in order, and so are the questions and the
records in it.  Whatever it says, it is read as it was written.

## Main definitions

* `Question.written`, `Record.written`, `Answer.written` — the written forms.

## Main results

* `Answer.parse_written` — **a document is read as it was written.**
-/

namespace DohRelay.Resolve

open Document (Number)
open Document.Reader

/-- The written form of a question. -/
def Question.written (e : Question) : List UInt8 :=
  writtenRecord [writtenPair "name" (Document.Text.written e.name),
    writtenPair "type" (Number.written e.type.toNat)]

/-- The written form of a record. -/
def Record.written (r : Record) : List UInt8 :=
  writtenRecord [writtenPair "name" (Document.Text.written r.name),
    writtenPair "type" (Number.written r.type.toNat),
    writtenPair "TTL" (Number.written r.ttl.toNat),
    writtenPair "data" (Document.Text.written r.data)]

/-- The written form of a document. -/
def Answer.written (document : Answer) : List UInt8 :=
  writtenRecord [writtenPair "Status" (Number.written document.status.toNat),
    writtenPair "TC" (writtenTruth document.truncated),
    writtenPair "RA" (writtenTruth document.recursionAvailable),
    writtenPair "AD" (writtenTruth document.authenticData),
    writtenPair "CD" (writtenTruth document.checkingDisabled),
    writtenPair "Question" (writtenList (document.questions.map Question.written)),
    writtenPair "Answer" (writtenList (document.answers.map Record.written)),
    writtenPair "Authority" (writtenList (document.authority.map Record.written)),
    writtenPair "Additional" (writtenList (document.additional.map Record.written))]

/-- A question is read as it was written. -/
theorem Question.makes_written (e : Question) :
    Makes (Document.Reader.record layout) e.written e anything := by
  have hfills : Fills layout layout.blank [] _ e ["type", "name"] :=
    .cons rfl rfl ((makes_text e.name).map.mono fun _ _ => trivial) <|
    .cons rfl rfl ((makes_word16 e.type).map.mono fun _ => ends_of_delimited) <| .nil _ _
  exact makes_record hfills (by decide)

/-- A record is read as it was written. -/
theorem Record.makes_written (r : Record) :
    Makes (Document.Reader.record layout) r.written r anything := by
  have hfills : Fills layout layout.blank [] _ r ["data", "TTL", "type", "name"] :=
    .cons rfl rfl ((makes_text r.name).map.mono fun _ _ => trivial) <|
    .cons rfl rfl ((makes_word16 r.type).map.mono fun _ => ends_of_delimited) <|
    .cons rfl rfl ((makes_word32 r.ttl).map.mono fun _ => ends_of_delimited) <|
    .cons rfl rfl ((makes_text r.data).map.mono fun _ _ => trivial) <| .nil _ _
  exact makes_record hfills (by decide)

theorem makes_questions (es : List Question) :
    Makes (list (Document.Reader.record Question.layout)) (writtenList (es.map Question.written)) es
      anything :=
  makes_list_map (fun _ => begins_writtenRecord _) Question.makes_written es

theorem makes_records (rs : List Record) :
    Makes records (writtenList (rs.map Record.written)) rs anything :=
  makes_list_map (fun _ => begins_writtenRecord _) Record.makes_written rs

/-- **A document is read as it was written.** -/
theorem Answer.parse_written (document : Answer) :
    Answer.parse document.written = .ok document := by
  have hfills : Fills layout layout.blank [] _ document ["Additional", "Authority", "Answer",
      "Question", "CD", "AD", "RA", "TC", "Status"] :=
    .cons rfl rfl ((makes_word16 document.status).map.mono fun _ => ends_of_delimited) <|
    .cons rfl rfl ((makes_truth document.truncated).map.mono fun _ _ => trivial) <|
    .cons rfl rfl ((makes_truth document.recursionAvailable).map.mono fun _ _ => trivial) <|
    .cons rfl rfl ((makes_truth document.authenticData).map.mono fun _ _ => trivial) <|
    .cons rfl rfl ((makes_truth document.checkingDisabled).map.mono fun _ _ => trivial) <|
    .cons rfl rfl ((makes_questions document.questions).map.mono fun _ _ => trivial) <|
    .cons rfl rfl ((makes_records document.answers).map.mono fun _ _ => trivial) <|
    .cons rfl rfl ((makes_records document.authority).map.mono fun _ _ => trivial) <|
    .cons rfl rfl ((makes_records document.additional).map.mono fun _ _ => trivial) <| .nil _ _
  exact Document.read_of_makes (makes_record hfills (by decide))

end DohRelay.Resolve
