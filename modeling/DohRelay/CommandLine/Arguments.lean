import DohRelay.Config

/-!
# Arguments

The arguments of the command line: options that take a value, which follows them or is attached with
an equal sign, and flags that take none.  There are no other arguments.

An option is settled when the next known option or flag is met, or the end: only then is it checked
that it has a value, that it was not given before, and that the value makes sense.  Whatever is
unknown ends the reading at once, and so does a flag with a value.

## Main definitions

* `CommandLine.Fault` — why arguments make no sense.
* `CommandLine.Kind`, `CommandLine.options` — what options there are.
* `CommandLine.read` — the options given, with their values.
-/

namespace DohRelay.CommandLine

/-- Why the reading of arguments ends. -/
inductive Fault
  /-- There is no such argument. -/
  | unknownArgument
  /-- A value is missing or none of those possible. -/
  | invalidValue
  /-- A value has not the form it must have. -/
  | valueValidation
  /-- A flag was given a value. -/
  | tooManyValues
  /-- An option was given twice. -/
  | conflict
  /-- Help was asked for. -/
  | help
  deriving DecidableEq, Repr

/-- What an option takes. -/
inductive Kind
  /-- Nothing: it is a flag. -/
  | flag
  /-- Any text. -/
  | text
  /-- The path of a file. -/
  | path
  /-- Yes or no. -/
  | truth
  /-- A number of 64 bits. -/
  | number
  /-- A key with a value.  The option may be given again and again. -/
  | pair
  /-- Nothing: it asks for help. -/
  | help
  deriving DecidableEq, Repr

/-- Whether an option takes no value. -/
def Kind.isFlag (k : Kind) : Bool :=
  k == flag || k == help

/-- The options, by their names. -/
def options : List (String × Kind) :=
  [("listen", .text), ("loglevel", .text), ("google", .flag), ("endpoint", .text),
   ("endpoint-ips", .text), ("edns-subnet", .text), ("cache", .truth), ("tcp", .truth),
   ("udp", .truth), ("header", .pair), ("param", .pair), ("http2", .flag), ("cacert", .path),
   ("no-ipv6", .flag), ("dns-resolver", .text), ("post", .flag), ("timeout", .number),
   ("query-timeout", .number), ("subnet-lookup-url", .text), ("subnet-refresh", .number),
   ("stats-interval", .number), ("help", .help)]

/-- The greatest number that an option takes. -/
def maxNumber : Nat := UInt64.size - 1

/-- Checks that a value is one that an option of the kind takes. -/
def Kind.check (value : String) : Kind → Except Fault Unit
  | .flag | .text => .ok ()
  | .help => .error .help
  | .path => if value.isEmpty then .error .invalidValue else .ok ()
  | .truth => if value = "true" ∨ value = "false" then .ok () else .error .invalidValue
  | .number =>
    match Text.parseNat maxNumber value.toList with
    | .ok _ => .ok ()
    | .error _ => .error .valueValidation
  | .pair =>
    match Config.parseKeyValue value with
    | .ok _ => .ok ()
    | .error _ => .error .valueValidation

/-- An option that was given, with its value; flags have an empty one. -/
structure Given where
  /-- The name of the option. -/
  name : String
  /-- Its value. -/
  value : String
  deriving DecidableEq, Repr

/-- An option that waits to be settled, perhaps still without its value. -/
structure Pending where
  /-- The name of the option. -/
  name : String
  /-- What it takes. -/
  kind : Kind
  /-- Its value, if there is one yet. -/
  value : Option String

/-- The options given so far, with one more. -/
def settle (given : List Given) (name : String) (kind : Kind) (value : String) :
    Except Fault (List Given) := do
  if kind ≠ .pair ∧ given.any (·.name == name) then throw .conflict
  kind.check value
  return given ++ [⟨name, value⟩]

/-- The options given so far, with one that waited. -/
def settlePending (given : List Given) : Option Pending → Except Fault (List Given)
  | none => .ok given
  | some ⟨_, _, none⟩ => .error .invalidValue
  | some ⟨name, kind, some value⟩ => settle given name kind value

/-- Takes an argument that begins with two dashes, given without them. -/
def takeLong (given : List Given) (pending : Option Pending) (argument : List Char) :
    Except Fault (List Given × Option Pending) :=
  let name := String.ofList (argument.takeWhile (· != '='))
  let attached := (argument.dropWhile (· != '=')).tail?.map String.ofList
  match options.lookup name with
  | none => .error .unknownArgument
  | some kind =>
    match kind.isFlag, attached with
    | true, some _ => .error .tooManyValues
    | true, none => do
      let given ← settlePending given pending
      return (← settle given name kind "", none)
    | false, some value => do
      let given ← settlePending given pending
      return (← settle given name kind value, none)
    | false, none => do
      return (← settlePending given pending, some ⟨name, kind, none⟩)

/-- Reads the arguments after those that gave some options and left one waiting. -/
def readFrom (given : List Given) (pending : Option Pending) :
    List String → Except Fault (List Given)
  | [] => settlePending given pending
  | argument :: rest =>
    match argument.toList with
    | ['-', '-'] => if rest.isEmpty then settlePending given pending else .error .unknownArgument
    | '-' :: '-' :: long =>
      match takeLong given pending long with
      | .error fault => .error fault
      | .ok (given, pending) => readFrom given pending rest
    | '-' :: c :: _ =>
      if c = 'h' then (settlePending given pending).bind fun _ => .error .help
      else .error .unknownArgument
    | _ =>
      match pending with
      | some ⟨name, kind, none⟩ => readFrom given (some ⟨name, kind, some argument⟩) rest
      | _ => .error .unknownArgument

/-- The options that some arguments give. -/
def read (arguments : List String) : Except Fault (List Given) :=
  readFrom [] none arguments

/-! ### Values -/

/-- The value of an option, or what it is when not given. -/
def valueOf (given : List Given) (name default : String) : String :=
  ((given.find? (·.name == name)).map Given.value).getD default

/-- The value of an option that has none when not given. -/
def valueOf? (given : List Given) (name : String) : Option String :=
  (given.find? (·.name == name)).map Given.value

/-- Whether a flag is given. -/
def isGiven (given : List Given) (name : String) : Bool :=
  given.any (·.name == name)

/-- The number of an option. -/
def numberOf (given : List Given) (name : String) (default : Nat) : Nat :=
  match valueOf? given name with
  | none => default
  | some value => (Text.parseNat maxNumber value.toList).toOption.getD default

/-- The keys with values of an option, in order. -/
def pairsOf (given : List Given) (name : String) : List (String × String) :=
  (given.filter (·.name == name)).filterMap fun g => (Config.parseKeyValue g.value).toOption

/-- The configuration that the options ask for.  The first part that makes no sense is reported,
unless there are more headers before it than there is room for. -/
def configOf (given : List Given) : Except Failure Config := do
  let convention := if isGiven given "google" then Convention.json else .wire
  let dnsResolver ← ((valueOf? given "dns-resolver").mapM Config.parseDnsResolver :
    Except Error (Option Net.SocketAddr))
  let listen ← Config.parseListen (valueOf given "listen" ":53")
  let endpoint ← Config.parseEndpoint (valueOf given "endpoint" Config.defaultEndpoint) convention
  let endpointIps ← Config.parseEndpointIps (valueOf given "endpoint-ips" "")
  let subnet ← Subnet.Mode.parse (valueOf given "edns-subnet" "auto")
    (valueOf given "subnet-lookup-url" Subnet.defaultLookupUrl)
    (Config.optionalSecs (numberOf given "subnet-refresh" 0))
  let headers ← Config.buildHeaders (pairsOf given "header")
  return {
    listen, endpoint, convention, endpointIps, subnet, headers, dnsResolver
    tcp := valueOf given "tcp" "true" == "true"
    udp := valueOf given "udp" "true" == "true"
    cache := valueOf given "cache" "true" == "true"
    post := isGiven given "post"
    params := pairsOf given "param"
    http2 := isGiven given "http2"
    caCert := valueOf? given "cacert"
    noAaaa := isGiven given "no-ipv6"
    requestTimeout := max 1 (numberOf given "timeout" 5) * 1000
    queryTimeout := max 1 (numberOf given "query-timeout" 10) * 1000
    statsInterval := Config.optionalSecs (numberOf given "stats-interval" 60) }

end DohRelay.CommandLine
