import DohRelay.Config
import DohRelay.Dns.Reply
import DohRelay.Dns.Wire.FaultText
import DohRelay.Http.Exchange
import DohRelay.Text.Base64
import DohRelay.Url.Pairs

/-!
# Queries that travel as messages

A query travels as the octets of a message, in the body of a request or as a parameter of its
location.  Its id is zero, so that the same question always makes the same location, and the only
client subnet in it is the one to advertise.

## Main definitions

* `Wire.advertising` — a message that tells a network.
* `Wire.outgoing` — the message that travels.
* `Wire.request` — the request for a query.
* `Wire.answer` — the message that a body is.
* `Wire.carried` — the message that a request carries.
-/

namespace DohRelay.Wire

/-- The media type of messages. -/
def mediaType : String := "application/dns-message"

/-- The parameter that carries a message. -/
def parameter : List Char := "dns".toList

/-- The extension record of a message that had none. -/
def newEdns : Dns.Edns where
  payload := 1232
  version := 0
  dnssecOk := false
  rcodeHigh := 0
  options := .empty

/-- An extension record that tells a client subnet or none. -/
def withSubnet (edns : Dns.Edns) (subnet : Option Dns.ClientSubnet) : Dns.Edns :=
  { edns with options := { edns.options with subnet } }

/-- The client subnet that tells a network, for an answer of any scope. -/
def clientSubnet (net : Net.Network) : Dns.ClientSubnet where
  address := net.address
  source := UInt8.ofNat net.length
  scope := 0

/-- A message that tells a network in the place of any that it told. -/
def advertising (m : Dns.Message) (net : Net.Network) : Dns.Message :=
  { m with edns := some (withSubnet (m.edns.getD newEdns) (some (clientSubnet net))) }

/-- A message that tells no network. -/
def concealing (m : Dns.Message) : Dns.Message :=
  { m with edns := m.edns.map (withSubnet · none) }

/-- The message that travels for a query. -/
def outgoing (query : Dns.Message) (subnet : Option Net.Network) : Dns.Message :=
  let anonymous := concealing { query with id := 0 }
  subnet.elim anonymous (advertising anonymous)

/-- The request for a query. -/
def request (endpoint : Url) (post : Bool) (query : Dns.Message) (subnet : Option Net.Network) :
    Except Error Http.Request :=
  match (outgoing query subnet).encode with
  | .error fault => .error (.unsupportedQuery ("cannot encode query: " ++ fault.message))
  | .ok bytes =>
    if post then
      .ok {
        method := .post
        url := endpoint
        headers := [("accept", mediaType), ("content-type", mediaType)]
        body := some bytes }
    else
      .ok {
        method := .get
        url := endpoint.appendPair parameter (Text.Base64.encode bytes)
        headers := [("accept", mediaType)]
        body := none }

/-- The message that a body is. -/
def answer (body : List UInt8) : Except Error Dns.Message :=
  match Dns.Message.decode body with
  | .ok m => .ok m
  | .error fault => .error (.undecodable fault.message)

/-- The octets that a request carries. -/
def carriedBytes (r : Http.Request) : Except Error (List UInt8) :=
  match r.body with
  | some body => .ok body
  | none =>
    match r.url.pairs.lookup parameter with
    | none => .error (.unsupportedQuery "request has no dns parameter")
    | some value =>
      match Text.Base64.decode (Text.utf8 value) with
      | .ok bytes => .ok bytes
      | .error fault => .error (.unsupportedQuery ("invalid dns parameter: " ++ fault.message))

/-- The message that a request carries. -/
def carried (r : Http.Request) : Except Error Dns.Message :=
  match carriedBytes r with
  | .error e => .error e
  | .ok bytes =>
    match Dns.Message.decode bytes with
    | .ok m => .ok m
    | .error fault => .error (.unsupportedQuery fault.message)

end DohRelay.Wire
