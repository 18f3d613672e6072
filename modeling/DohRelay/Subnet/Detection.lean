import DohRelay.Cache.State
import DohRelay.Http.Exchange
import DohRelay.Subnet.Mode
import DohRelay.Text.Utf8

/-!
# Detection of the network to advertise

The address that the relay is seen under is looked up when the first caller asks for it, and again
when what is known has become too old.  One lookup goes on at a time: whoever finds nothing usable
waits for a turn, and when it comes looks again at what is known before looking up anything.  When a
lookup fails, what was known before stays in use.  Times are in milliseconds.

## Main definitions

* `Subnet.Detected`, `Subnet.Detected.isUsable` — what is known, and for how long.
* `Subnet.Detection`, `Subnet.Detection.step` — callers and lookups, and what can happen to them.
* `Subnet.Detection.ask` — a caller who is alone.
* `Subnet.addressIn`, `Subnet.found` — the address that a lookup service tells.
-/

namespace DohRelay.Subnet

open Cache (CallerId)

/-- What is known. -/
structure Detected where
  /-- The network, if any lookup was successful. -/
  net : Option Net.Network
  /-- When the last lookup ended. -/
  lookedUpAt : Nat
  /-- Whether that lookup failed. -/
  failed : Bool
  deriving DecidableEq, Repr

/-- How long to wait after a lookup that failed. -/
def retryAfter : Nat := 60000

/-- How long something is in use that is to be looked up again after `refresh`, if ever. -/
def Detected.lifetime (d : Detected) (refresh : Option Nat) : Option Nat :=
  if d.failed then some ((refresh.map (min · retryAfter)).getD retryAfter) else refresh

/-- Whether what is known can be used at the time `now`. -/
def Detected.isUsable (d : Detected) (refresh : Option Nat) (now : Nat) : Bool :=
  match d.lifetime refresh with
  | none => true
  | some lifetime => now - d.lookedUpAt < lifetime

/-- How far a caller has come. -/
inductive DetectionPhase
  /-- The caller is about to look at what is known. -/
  | arrived
  /-- The caller waits for a turn to look up. -/
  | queued
  /-- It is the turn of the caller, who is about to look again at what is known. -/
  | checking
  /-- The caller looks up; before that, `previous` was known. -/
  | lookingUp (previous : Option Net.Network)
  /-- The caller is told the network. -/
  | told (net : Option Net.Network)
  /-- The caller went away. -/
  | gone
  deriving DecidableEq, Repr

/-- Callers and lookups. -/
structure Detection where
  /-- After how long to look up again, if ever. -/
  refresh : Option Nat
  /-- What is known. -/
  detected : Option Detected
  /-- Whose turn it is. -/
  turn : Option CallerId
  /-- The callers. -/
  callers : Table CallerId DetectionPhase

/-- What can happen. -/
inductive DetectionEvent
  /-- A caller comes. -/
  | arrive (id : CallerId)
  /-- A caller looks at what is known. -/
  | look (id : CallerId)
  /-- It becomes the turn of a caller. -/
  | begin (id : CallerId)
  /-- The caller whose turn it is looks again at what is known. -/
  | check (id : CallerId)
  /-- The lookup of a caller ends with an address, or fails. -/
  | lookedUp (id : CallerId) (address : Option Net.Ip)
  /-- A caller goes away. -/
  | leave (id : CallerId)

namespace Detection

/-- Before the first caller. -/
def start (refresh : Option Nat) : Detection := ⟨refresh, none, none, .empty⟩

/-- What is known, if it can be used at the time `now`. -/
def usable (d : Detection) (now : Nat) : Option (Option Net.Network) :=
  match d.detected with
  | some known => if known.isUsable d.refresh now then some known.net else none
  | none => none

/-- The network that was known last. -/
def lastKnown (d : Detection) : Option Net.Network :=
  d.detected.bind Detected.net

/-- Afterwards a caller has come to some phase. -/
def setCaller (d : Detection) (id : CallerId) (phase : DetectionPhase) : Detection :=
  { d with callers := d.callers.insert id phase }

/-- Afterwards the turn of a caller is over. -/
def endTurn (d : Detection) (id : CallerId) : Detection :=
  if d.turn = some id then { d with turn := none } else d

/-- A caller comes, under a name that no other had. -/
def arrive (d : Detection) (id : CallerId) : Option Detection :=
  match d.callers.find? id with
  | some _ => none
  | none => some (d.setCaller id .arrived)

/-- A caller looks at what is known. -/
def look (d : Detection) (id : CallerId) (now : Nat) : Option Detection :=
  match d.callers.find? id with
  | some .arrived => some (d.setCaller id (match d.usable now with
      | some net => .told net
      | none => .queued))
  | _ => none

/-- It becomes the turn of a caller who waits, provided that it is nobody's. -/
def begin (d : Detection) (id : CallerId) : Option Detection :=
  match d.callers.find? id, d.turn with
  | some .queued, none => some { d.setCaller id .checking with turn := some id }
  | _, _ => none

/-- The caller whose turn it is looks again at what is known. -/
def check (d : Detection) (id : CallerId) (now : Nat) : Option Detection :=
  match d.callers.find? id with
  | some .checking => some (match d.usable now with
      | some net => (d.setCaller id (.told net)).endTurn id
      | none => d.setCaller id (.lookingUp d.lastKnown))
  | _ => none

/-- The lookup of a caller ends with an address, or fails. -/
def lookedUp (d : Detection) (id : CallerId) (address : Option Net.Ip) (now : Nat) :
    Option Detection :=
  match d.callers.find? id with
  | some (.lookingUp previous) =>
    let detected : Detected := match address with
      | some a => ⟨some (ofAddress a), now, false⟩
      | none => ⟨previous, now, true⟩
    some ({ d with detected := some detected }.setCaller id (.told detected.net) |>.endTurn id)
  | _ => none

/-- A caller goes away who has not been told anything yet. -/
def leave (d : Detection) (id : CallerId) : Option Detection :=
  match d.callers.find? id with
  | none | some (.told _) | some .gone => none
  | some _ => some ((d.setCaller id .gone).endTurn id)

/-- What comes of an event, if it can happen at the time `now`. -/
def step (now : Nat) (d : Detection) : DetectionEvent → Option Detection
  | .arrive id => d.arrive id
  | .look id => d.look id now
  | .begin id => d.begin id
  | .check id => d.check id now
  | .lookedUp id address => d.lookedUp id address now
  | .leave id => d.leave id

/-- What a caller can do now, other than looking up. -/
def callerEvent? (d : Detection) (id : CallerId) : Option DetectionEvent :=
  match d.callers.find? id with
  | some .arrived => some (.look id)
  | some .queued => if d.turn.isNone then some (.begin id) else none
  | some .checking => some (.check id)
  | _ => none

/-- What a caller is told who is alone, when a lookup ends at once, and whether there is a lookup.
-/
def ask (d : Detection) (now : Nat) (address : Option Net.Ip) :
    Option Net.Network × Bool × Detection :=
  match d.usable now with
  | some net => (net, false, d)
  | none =>
    let detected : Detected := match address with
      | some a => ⟨some (ofAddress a), now, false⟩
      | none => ⟨d.lastKnown, now, true⟩
    (detected.net, true, { d with detected := some detected })

end Detection

/-- The address in the body of a response of a lookup service. -/
def addressIn (body : List Char) : Except Error Net.Ip :=
  match Net.parseIp (Text.trim body) with
  | some a => .ok a
  | none =>
    .error (.undecodable ("invalid external address " ++ Text.quote (String.ofList body) ++ ": " ++
      Net.ipFault))

/-- What is found by a lookup that ends with a response of the service, or fails before. -/
def found (response : Except Error Http.Response) : Except Error Net.Ip := do
  let response ← response
  if !response.isSuccess then throw (.httpStatus response.status)
  addressIn (Text.utf8DecodeLossy response.body)

end DohRelay.Subnet
