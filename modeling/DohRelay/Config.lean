import DohRelay.Http.Header
import DohRelay.Net.SocketAddr
import DohRelay.Subnet.Mode
import DohRelay.Text.Number
import DohRelay.Url.Parser

/-!
# Configuration

What the relay is told when it starts, and how each part is written.

## Main definitions

* `Config` — the configuration.
* `Config.default` — the configuration of a relay that is told nothing.
* `Config.parseListen`, `Config.parseEndpoint` and others — the parts, read from text.
-/

namespace DohRelay

/-- How queries travel to the endpoint. -/
inductive Convention
  /-- As messages. -/
  | wire
  /-- As parameters of a location; the answer is a document. -/
  | json
  deriving DecidableEq, Repr

/-- What the relay is told when it starts.  Times are in milliseconds unless they say otherwise. -/
structure Config where
  /-- Where the relay listens. -/
  listen : Net.SocketAddr
  /-- Whether it listens for connections. -/
  tcp : Bool
  /-- Whether it listens for datagrams. -/
  udp : Bool
  /-- Whether it keeps answers. -/
  cache : Bool
  /-- The endpoint that answers queries. -/
  endpoint : Url
  /-- How queries travel to the endpoint. -/
  convention : Convention
  /-- Whether messages are posted. -/
  post : Bool
  /-- The addresses of the endpoint; if there are any, its host is not looked up. -/
  endpointIps : List Net.Ip
  /-- The network to advertise. -/
  subnet : Subnet.Mode
  /-- Headers for every request. -/
  headers : Http.Headers
  /-- Parameters for every request. -/
  params : List (String × String)
  /-- Whether the newer protocol may be spoken with the endpoint. -/
  http2 : Bool
  /-- A file with a further certificate to trust. -/
  caCert : Option String
  /-- Whether questions for addresses of 128 bits get an empty answer. -/
  noAaaa : Bool
  /-- The server that knows the address of the endpoint. -/
  dnsResolver : Option Net.SocketAddr
  /-- How long an exchange with the endpoint may take. -/
  requestTimeout : Nat
  /-- How long a query may take. -/
  queryTimeout : Nat
  /-- How often statistics are told, in seconds. -/
  statsInterval : Option Nat
  deriving DecidableEq, Repr

namespace Config

/-! ### Parts -/

/-- The port for queries. -/
def dnsPort : UInt16 := 53

/-- The endpoint for messages. -/
def defaultEndpoint : String := "https://dns.google/dns-query"

/-- The endpoint for documents. -/
def defaultResolveEndpoint : String := "https://dns.google/resolve"

/-- The address that stands for all addresses of a host. -/
def anyAddress : Net.Ip := .v4 ⟨0⟩

/-- The address to listen on: with a host, or a port alone after a colon. -/
def parseListen (s : String) : Except Error Net.SocketAddr :=
  match s.toList with
  | ':' :: port =>
    match Text.parseNat 65535 port with
    | .ok n => .ok (.of anyAddress (UInt16.ofNat n))
    | .error fault =>
      .error (.config ("invalid listen port " ++ Text.quote (String.ofList port) ++ ": " ++
        fault.message))
  | cs =>
    match Net.SocketAddr.parse cs with
    | some a => .ok a
    | none =>
      .error (.config ("invalid listen address " ++ Text.quote s ++ ": " ++ Net.SocketAddr.fault))

/-- The endpoint.  Where queries do not travel as messages, the usual endpoint for messages stands
for the one for documents. -/
def parseEndpoint (s : String) (convention : Convention) : Except Error Url :=
  let s := if convention = .json ∧ s = defaultEndpoint then defaultResolveEndpoint else s
  match Url.parse s.toList with
  | .error fault =>
    .error (.config ("invalid endpoint " ++ Text.quote s ++ ": " ++ fault.message))
  | .ok url =>
    if url.hostText?.isSome then .ok url
    else .error (.config ("endpoint " ++ Text.quote s ++ " has no host"))

/-- Addresses with commas between them. -/
def parseEndpointIps (s : String) : Except Error (List Net.Ip) :=
  if s.isEmpty then .ok []
  else (s.toList.splitOn ',').mapM fun part =>
    match Net.parseIp part with
    | some a => .ok a
    | none =>
      .error (.config ("invalid endpoint ip " ++ Text.quote (String.ofList part) ++ ": " ++
        Net.ipFault))

/-- The address of a server for names, whose port may be left out. -/
def parseDnsResolver (s : String) : Except Error Net.SocketAddr :=
  match Net.SocketAddr.parse s.toList with
  | some a => .ok a
  | none =>
    match Net.parseIp (Net.withoutBrackets s.toList) with
    | some a => .ok (.of a dnsPort)
    | none => .error (.config ("invalid dns resolver " ++ Text.quote s ++ ": " ++ Net.ipFault))

/-- A key and a value with an equal sign between them; only the value may be empty.  The fault is
told in words. -/
def parseKeyValue (s : String) : Except String (String × String) :=
  let key := s.toList.takeWhile (· != '=')
  match s.toList.dropWhile (· != '='), key with
  | _ :: value, _ :: _ => .ok (String.ofList key, String.ofList value)
  | _, _ => .error ("expected key=value, got " ++ Text.quote s)

/-- A header from a name and a value. -/
def buildHeader (key value : String) : Except Error (String × String) :=
  match Http.Headers.parseName key with
  | none =>
    .error (.config ("invalid header name " ++ Text.quote key ++ ": invalid HTTP header name"))
  | some name =>
    if Http.Headers.isValue value then .ok (name, value)
    else
      .error (.config ("invalid header value for " ++ Text.quote key ++
        ": failed to parse header value"))

/-- The headers that names and values make, up to the first of these that make none, and what is
wrong with those. -/
def readHeaders : List (String × String) → Http.Headers × Option Error
  | [] => ([], none)
  | (key, value) :: rest =>
    match buildHeader key value with
    | .error e => ([], some e)
    | .ok header =>
      let (headers, fault) := readHeaders rest
      (header :: headers, fault)

/-- Headers from names and values.  A name that comes again keeps all its values. -/
def buildHeaders (pairs : List (String × String)) : Except Failure Http.Headers :=
  let (headers, fault) := readHeaders pairs
  match Http.Headers.append? [] headers, fault with
  | none, _ => .error .death
  | some _, some e => .error (.told e)
  | some headers, none => .ok headers

/-- How much is told while the relay works. -/
inductive LogLevel
  /-- Everything. -/
  | trace
  /-- Whatever helps to find a fault. -/
  | debug
  /-- What happens in general. -/
  | info
  /-- What may be wrong. -/
  | warn
  /-- What is wrong. -/
  | error
  deriving DecidableEq, Repr

/-- The word for a level. -/
def LogLevel.text : LogLevel → String
  | trace => "trace"
  | debug => "debug"
  | info => "info"
  | warn => "warn"
  | error => "error"

/-- The words for levels. -/
def logLevelWords : List (String × LogLevel) :=
  [("trace", .trace), ("debug", .debug), ("info", .info), ("warn", .warn), ("warning", .warn),
   ("error", .error), ("fatal", .error), ("panic", .error)]

/-- The level that a word names in either letter case. -/
def parseLogLevel (s : String) : Except Error LogLevel :=
  let word := String.ofList (s.toList.map Char.toLower)
  match logLevelWords.lookup word with
  | some level => .ok level
  | none => .error (.config ("invalid log level " ++ Text.quote word))

/-- A number of seconds, of which none means never. -/
def optionalSecs (secs : Nat) : Option Nat :=
  if secs = 0 then none else some secs

/-! ### The whole -/

/-- The location of the usual endpoint for messages. -/
def defaultEndpointUrl : Url where
  scheme := "https".toList
  username := []
  password := []
  host := some (.domain "dns.google".toList)
  port := none
  path := .segments ["dns-query".toList]
  query := none
  fragment := none

/-- The configuration of a relay that is told nothing. -/
def default : Config where
  listen := .of anyAddress dnsPort
  tcp := true
  udp := true
  cache := true
  endpoint := defaultEndpointUrl
  convention := .wire
  post := false
  endpointIps := []
  subnet := .disabled
  headers := []
  params := []
  http2 := false
  caCert := none
  noAaaa := false
  dnsResolver := none
  requestTimeout := 5000
  queryTimeout := 10000
  statsInterval := some 60

end Config

end DohRelay
