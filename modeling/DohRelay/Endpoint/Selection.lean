import DohRelay.Dns.Message.Reader
import DohRelay.Dns.Message.Writer
import DohRelay.Dns.Name.International
import DohRelay.Dns.Wire.FaultText
import DohRelay.Error
import DohRelay.Net.Ip.Parser
import DohRelay.Net.SocketAddr
import DohRelay.Text.Quoted

/-!
# The address of the endpoint

Every request goes to an address that is chosen for it: one of those in the configuration, the one
that the host is written as, or one that a server for names knows.  The server is asked for
addresses of 32 bits first, and for those of 128 bits if there are none.

## Main definitions

* `Endpoint.Exchange` — what happens to a query sent to the server for names.
* `Endpoint.Candidates`, `Endpoint.candidates` — the addresses to choose from.
* `Endpoint.choose` — the one that is chosen.
* `Endpoint.pick` — all of it.
-/

namespace DohRelay.Endpoint

/-- What happens to a query sent to the server for names. -/
inductive Exchange
  /-- It cannot be sent, or the reply not be received; the reason is told in words. -/
  | failed (reason : String)
  /-- No reply comes in time. -/
  | silent
  /-- A reply comes, of which some octets are received. -/
  | reply (bytes : List UInt8)
  deriving DecidableEq, Repr

/-- The addresses to choose from, and the queries sent to find them. -/
structure Candidates where
  /-- The addresses, or why there are none. -/
  addresses : Except Error (List Net.Ip)
  /-- The queries. -/
  queries : List (List UInt8)

/-- The query for the addresses of a name. -/
def addressQuery (id : UInt16) (name : Dns.Name) (type : Dns.RecordType) : Dns.Message :=
  { Dns.Message.empty with
    id
    recursionDesired := true
    questions := [⟨name, type, Dns.classIn⟩] }

/-- The address in a record. -/
def recordAddress? (r : Dns.Record) : Option Net.Ip :=
  match r.data with
  | some (.a address) => some (.v4 address)
  | some (.aaaa address) => some (.v6 address)
  | _ => none

/-- The addresses in the reply to a query. -/
def readReply (server : String) (id : UInt16) : Exchange → Except Error (List Net.Ip)
  | .failed reason =>
    .error (.endpointResolution ("resolver " ++ server ++ ": " ++ reason))
  | .silent => .error (.endpointResolution ("resolver " ++ server ++ " timed out"))
  | .reply bytes =>
    match Dns.Message.decode bytes with
    | .error fault =>
      .error (.endpointResolution ("invalid resolver answer: " ++ fault.message))
    | .ok m =>
      if m.id ≠ id then
        .error (.endpointResolution ("resolver " ++ server ++ " answered with a mismatched id"))
      else .ok (m.answers.filterMap recordAddress?)

/-- Asks the server, whose address is written `server`, for the addresses of a name. -/
def askFor (server : String) (exchange : List UInt8 → Exchange) (id : UInt16) (name : Dns.Name)
    (type : Dns.RecordType) : Candidates :=
  match (addressQuery id name type).encode with
  | .error fault => ⟨.error (.endpointResolution ("cannot encode query: " ++ fault.message)), []⟩
  | .ok query => ⟨readReply server id (exchange query), [query]⟩

/-- Asks the server for all addresses of a host. -/
def ask (server : String) (exchange : List UInt8 → Exchange) (ids : UInt16 × UInt16)
    (host : List Char) : Candidates :=
  match Dns.Name.ofHost host with
  | .error fault =>
    ⟨.error (.endpointResolution ("invalid host " ++ Text.quote (String.ofList host) ++ ": " ++
      fault.message)), []⟩
  | .ok name =>
    match askFor server exchange ids.1 name .a with
    | ⟨.ok [], queries⟩ =>
      let more := askFor server exchange ids.2 name .aaaa
      ⟨more.addresses, queries ++ more.queries⟩
    | candidates => candidates

/-- The addresses to choose from for a host; `lookup` finds those of a name. -/
def candidates (fixed : List Net.Ip) (lookup : List Char → Candidates) (host : List Char) :
    Candidates :=
  if !fixed.isEmpty then ⟨.ok fixed, []⟩
  else
    match Net.parseIp (Net.withoutBrackets host) with
    | some address => ⟨.ok [address], []⟩
    | none => lookup host

/-- The address that is chosen for a host by a number drawn for the purpose. -/
def choose (host : List Char) (addresses : List Net.Ip) (draw : Nat) : Except Error Net.Ip :=
  match addresses[draw % addresses.length]? with
  | some address => .ok address
  | none =>
    .error (.endpointResolution ("no address found for " ++ String.ofList host))

/-- The address that a request to a host goes to, and the queries sent to find it; `lookup` finds
the addresses of a name, and `draw` is a number drawn for the choice. -/
def pick (fixed : List Net.Ip) (lookup : List Char → Candidates) (host : List Char) (draw : Nat) :
    Except Error Net.Ip × List (List UInt8) :=
  let found := candidates fixed lookup host
  (found.addresses.bind (choose host · draw), found.queries)

end DohRelay.Endpoint
