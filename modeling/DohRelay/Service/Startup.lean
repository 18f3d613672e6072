import DohRelay.Config
import DohRelay.Trust.Certificates

/-!
# Start of the service

Before the service starts, the certificate to trust is read, and its listeners are bound.  It starts
if at least one of them can be bound.

## Main definitions

* `Startup.checkCertificate` — what becomes of the file with the certificate.
* `Startup.Listeners`, `Startup.bind` — the listeners.
-/

namespace DohRelay.Startup

/-- Checks the file with the certificate to trust, if there is one; `file` is its content, or why it
cannot be read. -/
def checkCertificate (path : Option String) (file : Except String (List UInt8)) :
    Except Error Unit :=
  match path, file with
  | none, _ => .ok ()
  | some path, .error reason =>
    .error (.config ("cannot read CA certificate " ++ path ++ ": " ++ reason))
  | some _, .ok bytes =>
    if Trust.isUsable bytes then .ok ()
    else .error (.config "failed to create HTTP client: builder error")

/-- Which listeners are bound. -/
structure Listeners where
  /-- The one for datagrams. -/
  udp : Bool
  /-- The one for connections. -/
  tcp : Bool
  deriving DecidableEq, Repr

/-- Binds the listeners that the configuration wants; `free` tells which ones can be bound at an
address that is written `place`. -/
def bind (config : Config) (place : String) (free : Listeners) : Except Error Listeners :=
  let bound : Listeners := ⟨config.udp && free.udp, config.tcp && free.tcp⟩
  if bound.udp || bound.tcp then .ok bound
  else .error (.listen ("no transport could be bound on " ++ place))

end DohRelay.Startup
