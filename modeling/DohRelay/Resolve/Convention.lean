import DohRelay.Config
import DohRelay.Dns.Name.International
import DohRelay.Dns.Reply
import DohRelay.Http.Exchange
import DohRelay.Resolve.Document
import DohRelay.Resolve.RecordText
import DohRelay.Url.Pairs

/-!
# Queries that travel as parameters

A query travels as parameters of a location, and its answer comes as a document.

## Main definitions

* `Resolve.parameters`, `Resolve.request` — the request for a query.
* `Resolve.readRecords` — the records of a document that are understood.
* `Resolve.answer` — the message that a document is.
-/

namespace DohRelay.Resolve

/-- The media type of documents. -/
def mediaType : String := "application/dns-json"

/-- The parameters of a query. -/
def parameters (query : Dns.Message) (question : Dns.Question) (subnet : Option Net.Network) :
    List (List Char × List Char) :=
  [("name".toList, question.name.text),
   ("type".toList, Text.decimal question.type.code.toNat)] ++
  (if query.checkingDisabled then [("cd".toList, ['1'])] else []) ++
  (if query.dnssecOk then [("do".toList, ['1'])] else []) ++
  (subnet.elim [] fun net => [("edns_client_subnet".toList, net.text)])

/-- The request for a query. -/
def request (endpoint : Url) (query : Dns.Message) (question : Dns.Question)
    (subnet : Option Net.Network) : Http.Request where
  method := .get
  url := endpoint.appendPairs (parameters query question subnet)
  headers := [("accept", mediaType)]
  body := none

/-- What is said about an answer to another question. -/
def otherQuestion (name : List Char) (type : Dns.RecordType) (question : Dns.Question) : Error :=
  .undecodable ("answer is for " ++ String.ofList name ++ " " ++ type.text ++ ", expected " ++
    String.ofList question.name.shown ++ " " ++ question.type.text)

/-- Checks that the first question repeated, if there is any, is the one that was asked. -/
def checkEcho (answer : Answer) (question : Dns.Question) : Except Error Unit := do
  match answer.questions with
  | [] => return
  | echoed :: _ =>
    let name ← readName echoed.name
    if !name.sameAs question.name || echoed.type != question.type.code then
      throw (otherQuestion echoed.name ⟨echoed.type⟩ question)

/-- The record that a record of a document is, if its data is understood. -/
def readRecord (r : Record) : Except Error (Option Dns.Record) := do
  match ← readData ⟨r.type⟩ r.data with
  | none => return none
  | some data =>
    let owner ← readName r.name
    return some ⟨owner, ⟨r.type⟩, Dns.classIn, r.ttl, some data⟩

/-- The records of a document that are understood. -/
def readRecords (rs : List Record) : Except Error (List Dns.Record) := do
  return (← rs.mapM readRecord).filterMap id

/-- The message that a document says, which answers a question. -/
def Answer.toMessage (answer : Answer) (question : Dns.Question) : Except Error Dns.Message := do
  checkEcho answer question
  let answers ← readRecords answer.answers
  let authority ← readRecords answer.authority
  let additional ← readRecords answer.additional
  return { Dns.Message.empty with
    response := true
    rcode := answer.status
    truncated := answer.truncated
    recursionAvailable := answer.recursionAvailable
    authenticData := answer.authenticData
    checkingDisabled := answer.checkingDisabled
    questions := [question]
    answers, authority, additional }

/-- The message that a body is, which answers a question. -/
def answer (body : List UInt8) (question : Dns.Question) : Except Error Dns.Message :=
  match Answer.parse body with
  | .error fault => .error (.undecodable (fault.message body))
  | .ok answer => answer.toMessage question

end DohRelay.Resolve
