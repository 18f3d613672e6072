import DohRelay.Net.Ip

/-!
# Locations

The location of something on the network, taken apart.  Every part is kept as it is written, that
is, with percent signs for what must be encoded.

## Main definitions

* `Url`, `Url.Host`, `Url.Path` — the types.
* `Url.text` — the written form.
* `Url.hostText?`, `Url.knownPort?` — where to connect.
-/

namespace DohRelay

/-- Where a server is found. -/
inductive Url.Host
  /-- A name; an empty one says that there is no host after all. -/
  | domain (name : List Char)
  /-- An address of 32 bits. -/
  | ipv4 (a : Net.Ipv4)
  /-- An address of 128 bits. -/
  | ipv6 (a : Net.Ipv6)
  deriving DecidableEq, Repr

/-- What is found on a server. -/
inductive Url.Path
  /-- A text without structure. -/
  | rootless (s : List Char)
  /-- Segments, each after a slash. -/
  | segments (ss : List (List Char))
  deriving DecidableEq, Repr

/-- A location. -/
structure Url where
  /-- The scheme, in lower case. -/
  scheme : List Char
  /-- The name of a user. -/
  username : List Char
  /-- The password of the user. -/
  password : List Char
  /-- The host; some locations have no place for one. -/
  host : Option Url.Host
  /-- The port, unless it is the usual one. -/
  port : Option Nat
  /-- The path. -/
  path : Url.Path
  /-- The query. -/
  query : Option (List Char)
  /-- The fragment. -/
  fragment : Option (List Char)
  deriving DecidableEq, Repr

namespace Url

/-- The written form of a host. -/
def Host.text : Host → List Char
  | domain name => name
  | ipv4 a => a.text
  | ipv6 a => '[' :: a.hexText ++ [']']

/-- The written form of a path. -/
def Path.text : Path → List Char
  | rootless s => s
  | segments ss => ss.flatMap ('/' :: ·)

/-- The schemes whose locations have a host and a path, with their usual ports. -/
def specialSchemes : List (String × Option Nat) :=
  [("http", some 80), ("https", some 443), ("ws", some 80), ("wss", some 443), ("ftp", some 21),
   ("file", none)]

/-- Whether the locations of a scheme have a host and a path. -/
def isSpecial (scheme : List Char) : Bool :=
  (specialSchemes.lookup (String.ofList scheme)).isSome

/-- The usual port of a scheme. -/
def usualPort? (scheme : List Char) : Option Nat :=
  (specialSchemes.lookup (String.ofList scheme)).join

/-- The written form of the host, if there is one. -/
def hostText? (u : Url) : Option (List Char) :=
  (u.host.map Host.text).filter (!·.isEmpty)

/-- The port to connect to, if it is known. -/
def knownPort? (u : Url) : Option Nat :=
  u.port <|> usualPort? u.scheme

/-- The written form of the part that tells the host and how to enter it. -/
def authorityText (u : Url) : List Char :=
  let credentials :=
    if u.username.isEmpty && u.password.isEmpty then []
    else u.username ++ (if u.password.isEmpty then [] else ':' :: u.password) ++ ['@']
  let port := u.port.elim [] fun p => ':' :: Nat.toDigits 10 p
  credentials ++ (u.host.elim [] Host.text) ++ port

/-- What must come before a path that would be taken for a host. -/
def pathGuard (u : Url) : List Char :=
  match u.path with
  | .segments ([] :: _ :: _) => ['/', '.']
  | _ => []

/-- The written form of a location. -/
def text (u : Url) : List Char :=
  let place := if u.host.isSome then ['/', '/'] ++ u.authorityText else u.pathGuard
  u.scheme ++ [':'] ++ place ++ u.path.text ++ (u.query.elim [] ('?' :: ·)) ++
    (u.fragment.elim [] ('#' :: ·))

end Url

end DohRelay
