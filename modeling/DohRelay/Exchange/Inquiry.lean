import DohRelay.Exchange.Wire
import DohRelay.Resolve.Convention

/-!
# Inquiries at the endpoint

A query is turned into a request to the endpoint, and the response into an answer that fits the
query.  Some queries are answered, or refused, without a request.

## Main definitions

* `Inquiry.request` — the request for a query.
* `Inquiry.Plan`, `Inquiry.plan` — what is to be done about a query.
* `Inquiry.checkQuestion` — whether an answer is for the question that was asked.
* `Inquiry.conclude` — the answer that a response makes.
* `Inquiry.run` — all of it, with an endpoint that responds to requests.
-/

namespace DohRelay.Inquiry

/-- The request for a query in the convention of the configuration. -/
def conventionRequest (config : Config) (query : Dns.Message) (question : Dns.Question)
    (subnet : Option Net.Network) : Except Error Http.Request :=
  match config.convention with
  | .wire => Wire.request config.endpoint config.post query subnet
  | .json => .ok (Resolve.request config.endpoint query question subnet)

/-- A request with the parameters and the headers that every request has.  These headers take the
place of others with their names; there may be no room for them. -/
def configured (config : Config) (r : Http.Request) : Except Failure Http.Request :=
  let params := config.params.map fun (key, value) => (key.toList, value.toList)
  match r.headers.replacing? config.headers with
  | some headers => .ok { r with url := r.url.appendPairs params, headers }
  | none => .error .death

/-- The request for a query. -/
def request (config : Config) (query : Dns.Message) (question : Dns.Question)
    (subnet : Option Net.Network) : Except Failure Http.Request :=
  match conventionRequest config query question subnet with
  | .ok r => configured config r
  | .error e => .error (.told e)

/-- What is to be done about a query. -/
inductive Plan
  /-- It is answered without a request. -/
  | reply (answer : Dns.Message)
  /-- A request is to be made, which asks a question. -/
  | exchange (question : Dns.Question) (request : Http.Request)
  deriving DecidableEq, Repr

/-- What is to be done about a query; the failure says why nothing can be. -/
def plan (config : Config) (query : Dns.Message) (subnet : Option Net.Network) :
    Except Failure Plan :=
  match query.question with
  | .error reason => .error (.told (.unsupportedQuery reason))
  | .ok question =>
    if config.noAaaa && question.isAaaa then .ok (.reply query.emptyAnswerFor)
    else (request config query question subnet).map (.exchange question)

/-- The message that a body is in the convention of the configuration. -/
def readAnswer (config : Config) (question : Dns.Question) (body : List UInt8) :
    Except Error Dns.Message :=
  match config.convention with
  | .wire => Wire.answer body
  | .json => Resolve.answer body question

/-- Whether two questions ask the same. -/
def isSameQuestion (q r : Dns.Question) : Bool :=
  q.name.sameAs r.name && q.type == r.type && q.qclass == r.qclass

/-- Checks that an answer repeats no question, or just the one that was asked. -/
def checkQuestion (answer : Dns.Message) (question : Dns.Question) : Except Error Unit :=
  match answer.questions with
  | [] => .ok ()
  | echoed :: others =>
    if others.isEmpty && isSameQuestion echoed question then .ok ()
    else .error (Resolve.otherQuestion echoed.name.shown echoed.type question)

/-- The answer to a query that the response to its request makes. -/
def conclude (config : Config) (query : Dns.Message) (question : Dns.Question)
    (response : Http.Response) : Except Error Dns.Message := do
  if !response.isSuccess then throw (.httpStatus response.status)
  let answer ← readAnswer config question response.body
  checkQuestion answer question
  return answer.answering query

/-- The answer to a query, and the request that was made for it, if one was. -/
def run (config : Config) (endpoint : Http.Request → Except Error Http.Response)
    (query : Dns.Message) (subnet : Option Net.Network) :
    Except Failure Dns.Message × Option Http.Request :=
  match plan config query subnet with
  | .error failure => (.error failure, none)
  | .ok (.reply answer) => (.ok answer, none)
  | .ok (.exchange question request) =>
    (((endpoint request).bind (conclude config query question)).mapError .told, some request)

end DohRelay.Inquiry
