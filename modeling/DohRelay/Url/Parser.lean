import DohRelay.Url.Host

/-!
# Locations, read

A text is taken apart from the left: scheme, user, host, port, path, query and fragment.  Blanks and
control characters around the text do not count, nor do tabs and line ends within it.

## Main definitions

* `Url.parse` — the location that a text is.
-/

namespace DohRelay.Url

/-- The text without blanks and control characters around it and without tabs and line ends. -/
def clean (s : List Char) : List Char :=
  let isEdge (c : Char) := c.toNat ≤ 0x20
  let inner := ((s.dropWhile isEdge).reverse.dropWhile isEdge).reverse
  inner.filter fun c => !isOneOf "\t\n\r" c

/-- The scheme at the start of a text, in lower case, and what follows its colon. -/
def readScheme (s : List Char) : Option (List Char × List Char) :=
  let isPart (c : Char) := c.isAlphanum || c == '+' || c == '-' || c == '.'
  match s.takeWhile isPart, s.dropWhile isPart with
  | c :: scheme, ':' :: rest =>
    if c.isAlpha then some ((c :: scheme).map Char.toLower, rest) else none
  | _, _ => none

/-- Whether a character is a slash to a scheme: for special ones the backslash is. -/
def isSlash (special : Bool) (c : Char) : Bool :=
  c == '/' || (special && c == '\\')

/-- Whether a character ends the part that tells the host. -/
def endsAuthority (special : Bool) (c : Char) : Bool :=
  isSlash special c || c == '?' || c == '#'

/-! ### Users -/

/-- The name and the password before the last at sign of a part that tells the host, and what
follows it. -/
def readUser (special : Bool) (s : List Char) :
    Except Fault (List Char × List Char × List Char) :=
  let authority := s.takeWhile (!endsAuthority special ·)
  if !authority.contains '@' then .ok ([], [], s)
  else
    let hostLength := (authority.reverse.takeWhile (· != '@')).length
    let user := authority.take (authority.length - hostLength - 1)
    let rest := s.drop (authority.length - hostLength)
    if user.isEmpty ∧ hostLength = 0 ∧ !rest.isEmpty then .error .emptyHost
    else
      let name := user.takeWhile (· != ':')
      let password := (user.dropWhile (· != ':')).drop 1
      .ok (percentEncode inUserInfo name, percentEncode inUserInfo password, rest)

/-! ### Hosts and ports -/

/-- How many characters of a text belong to the host: those before the end of the part that tells it
and before a colon outside brackets. -/
def hostLength (special bracketed : Bool) : List Char → Nat
  | [] => 0
  | c :: rest =>
    if endsAuthority special c || (c == ':' && !bracketed) then 0
    else 1 + hostLength special (c == '[' || (bracketed && c != ']')) rest

/-- The port after a colon, `none` standing for the usual one, and what follows it. -/
def readPort (scheme : List Char) : List Char → Except Fault (Option Nat × List Char)
  | ':' :: s =>
    let ds := s.takeWhile Char.isDigit
    let rest := s.dropWhile Char.isDigit
    let port := Net.numberIn 10 ds
    if port > 65535 || rest.head?.any (!isOneOf "/\\?#" ·) then .error .port
    else .ok (if ds.isEmpty || usualPort? scheme == some port then none else some port, rest)
  | s => .ok (none, s)

/-- The host and the port at the start of a text, and what follows them. -/
def readHostAndPort (scheme : List Char) (s : List Char) :
    Except Fault (Host × Option Nat × List Char) := do
  let special := isSpecial scheme
  let n := hostLength special false s
  let rest := s.drop n
  if n = 0 ∧ (special ∨ rest.head? = some ':') then throw .emptyHost
  let host ← if special then parseHost (s.take n) else parseForeignHost (s.take n)
  let (port, rest) ← readPort scheme rest
  return (host, port, rest)

/-! ### Paths -/

/-- Whether a segment leads to where it stands. -/
def isDot (s : List Char) : Bool :=
  let s := s.map Char.toLower
  s == ['.'] || s == ['%', '2', 'e']

/-- Whether a segment leads one up. -/
def isDotDot (s : List Char) : Bool :=
  let s := s.map Char.toLower
  [['.', '.'], ['%', '2', 'e', '.'], ['.', '%', '2', 'e'],
    ['%', '2', 'e', '%', '2', 'e']].contains s

/-- Whether a segment names a drive. -/
def isDrive : List Char → Bool
  | [c, d] => c.isAlpha && (d == ':' || d == '|')
  | _ => false

/-- The segments without the last one, except for a drive that is the only one. -/
def goUp (isFile : Bool) (ss : List (List Char)) : List (List Char) :=
  match ss with
  | [s] => if isFile && isDrive s then ss else []
  | _ => ss.dropLast

/-- Follows segments from those in `known`. -/
def followSegments (isFile : Bool) (known : List (List Char)) :
    List (List Char) → List (List Char)
  | [] => known
  | s :: rest =>
    let isLast := rest.isEmpty
    if isDotDot s then
      let known := goUp isFile known
      followSegments isFile (if isLast then known ++ [[]] else known) rest
    else if isDot s then followSegments isFile (if isLast then known ++ [[]] else known) rest
    else
      let s := percentEncode inPath s
      let s := if isFile && known.isEmpty && isDrive s then s.take 1 ++ [':'] else s
      followSegments isFile (known ++ [s]) rest

/-- The segments of a text between its slashes. -/
def splitSegments (special : Bool) (s : List Char) : List (List Char) :=
  s.splitOnP (isSlash special)

/-- The path that some text is, which stops before the query.  Special schemes always have a path.
-/
def parsePath (scheme : List Char) (s : List Char) : Path :=
  let special := isSpecial scheme
  let isFile := scheme == "file".toList
  if s.isEmpty && !special then .segments []
  else
    let s := if s.head?.any (isSlash special) then s.tail else s
    let ss := followSegments isFile [] (splitSegments special s)
    .segments (if isFile then dropEmpty ss else ss)
where
  /-- The segments without empty ones before the first, of which the last segment is kept. -/
  dropEmpty (ss : List (List Char)) : List (List Char) :=
    match ss.dropWhile List.isEmpty with
    | [] => [[]]
    | ss => ss

/-! ### Locations -/

/-- The query and the fragment at the end of a text, each after its mark. -/
def readTail (special : Bool) (s : List Char) : Option (List Char) × Option (List Char) :=
  let query := match s with
    | '?' :: rest => some (percentEncode (inQuery special) (rest.takeWhile (· != '#')))
    | _ => none
  let fragment := match s.dropWhile (· != '#') with
    | _ :: rest => some (percentEncode inFragment rest)
    | [] => none
  (query, fragment)

/-- Cuts a text before the mark of a query or a fragment. -/
def cutPath (s : List Char) : List Char × List Char :=
  let isPath (c : Char) := c != '?' && c != '#'
  (s.takeWhile isPath, s.dropWhile isPath)

/-- The location of a scheme whose path and what follows are a text. -/
def finish (scheme username password : List Char) (host : Option Host) (port : Option Nat)
    (s : List Char) : Url :=
  let (path, rest) := cutPath s
  let (query, fragment) := readTail (isSpecial scheme) rest
  let path := if host.isNone && path.head? != some '/' then
      .rootless (percentEncode inAny path) else parsePath scheme path
  ⟨scheme, username, password, host, port, path, query, fragment⟩

/-- The location of a scheme after the two slashes before its host. -/
def parseAuthority (scheme : List Char) (s : List Char) : Except Fault Url := do
  let (username, password, s) ← readUser (isSpecial scheme) s
  let (host, port, s) ← readHostAndPort scheme s
  return finish scheme username password (some host) port s

/-- The host of a file: none at all for a drive or this very machine. -/
def parseFileHost (s : List Char) : Except Fault Host :=
  if s.isEmpty then .ok (.domain [])
  else do
    let host ← parseHost s
    return if host = .domain "localhost".toList then .domain [] else host

/-- The location of a file. -/
def parseFile (s : List Char) : Except Fault Url := do
  let scheme := "file".toList
  match s with
  | c :: d :: rest =>
    if isSlash true c && isSlash true d then
      let name := rest.takeWhile (!endsAuthority true ·)
      if isDrive name then return finish scheme [] [] (some (.domain [])) none ('/' :: rest)
      let host ← parseFileHost name
      let u := finish scheme [] [] (some host) none (rest.drop name.length)
      let hasDrive := match u.path with
        | .segments (first :: _) => isDrive first
        | _ => false
      return if hasDrive then { u with host := some (.domain []) } else u
    else return finish scheme [] [] (some (.domain [])) none s
  | _ => return finish scheme [] [] (some (.domain [])) none s

/-- The location that a text is. -/
def parse (s : List Char) : Except Fault Url :=
  match readScheme (clean s) with
  | none => .error .relative
  | some (scheme, rest) =>
    if scheme = "file".toList then parseFile rest
    else if isSpecial scheme then parseAuthority scheme (rest.dropWhile (isSlash true))
    else
      match rest with
      | '/' :: '/' :: rest => parseAuthority scheme rest
      | rest => .ok (finish scheme [] [] none none rest)

end DohRelay.Url
