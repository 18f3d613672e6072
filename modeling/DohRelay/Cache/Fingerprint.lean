import DohRelay.Dns.Name.Text
import DohRelay.Dns.Reply
import DohRelay.Net.Network

/-!
# Fingerprints

Queries that can share an answer have one fingerprint: it holds the question without letter case,
the network on whose behalf it is asked, and the two flags that change what a server answers.

## Main definitions

* `Fingerprint` — the type.
* `Fingerprint.ofQuestion` — the fingerprint of a bare question.
* `Fingerprint.ofQuery` — the fingerprint of a question as a query asks it.
-/

namespace DohRelay

/-- What queries have in common that can share an answer. -/
structure Fingerprint where
  /-- The written form of the name in lower case. -/
  name : List Char
  /-- The type of the question. -/
  type : UInt16
  /-- The class of the question. -/
  qclass : UInt16
  /-- The network on whose behalf the question is asked. -/
  subnet : Option Net.Network
  /-- Whether signatures are wanted. -/
  dnssecOk : Bool
  /-- Whether data is wanted that may not be authentic. -/
  checkingDisabled : Bool
  deriving DecidableEq, Repr

namespace Fingerprint

/-- The fingerprint of a question asked without flags. -/
def ofQuestion (q : Dns.Question) (subnet : Option Net.Network) : Fingerprint where
  name := q.name.fold.text
  type := q.type.code
  qclass := q.qclass
  subnet := subnet
  dnssecOk := false
  checkingDisabled := false

/-- The fingerprint of a question as a query asks it. -/
def ofQuery (query : Dns.Message) (q : Dns.Question) (subnet : Option Net.Network) :
    Fingerprint :=
  { ofQuestion q subnet with
    dnssecOk := query.dnssecOk
    checkingDisabled := query.checkingDisabled }

end Fingerprint

/-- How many seconds an answer may be kept: the least time to live of its records, if the answer is
no error and that time is not zero. -/
def cacheTtl (answer : Dns.Message) : Option UInt32 :=
  if answer.rcode = .noError then answer.minTtl.filter (· ≠ 0) else none

end DohRelay
