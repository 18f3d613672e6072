import DohRelay.CommandLine.Arguments
import DohRelay.Service.Startup

/-!
# The program

What a run of the program comes to before it serves: an ending, or listeners that are bound.

## Main definitions

* `CommandLine.Ending` — how a run ends that serves nobody.
* `CommandLine.configure` — the configuration that some arguments ask for.
* `CommandLine.start` — the listeners of a configuration.
-/

namespace DohRelay.CommandLine

/-- How a run ends that serves nobody. -/
inductive Ending
  /-- The arguments make no sense, or ask for help. -/
  | arguments (fault : Fault)
  /-- The configuration makes no sense. -/
  | misconfigured (e : Error)
  /-- Something else is wrong. -/
  | failed (e : Error)
  /-- The program dies. -/
  | death
  deriving DecidableEq, Repr

/-- The exit code of a run. -/
def Ending.exitCode : Ending → Nat
  | arguments .help => 0
  | arguments _ => 2
  | misconfigured _ | failed _ => 1
  | death => 101

/-- What is told about an error in the end, if it is one. -/
def Ending.report : Ending → Option String
  | arguments _ | death => none
  | misconfigured e =>
    some ("Error: invalid configuration\n\nCaused by:\n    " ++ e.message ++ "\n")
  | failed e => some ("Error: " ++ e.message ++ "\n")

/-- How much is told while the program runs, and the configuration, as some arguments ask for. -/
def configure (arguments : List String) : Except Ending (Config.LogLevel × Config) :=
  match read arguments with
  | .error fault => .error (.arguments fault)
  | .ok given =>
    match Config.parseLogLevel (valueOf given "loglevel" "info") with
    | .error e => .error (.failed e)
    | .ok level =>
      match configOf given with
      | .error (.told e) => .error (.misconfigured e)
      | .error .death => .error .death
      | .ok config => .ok (level, config)

/-- The listeners of a configuration; `file` is the content of the file with the certificate to
trust, or why it cannot be read. -/
def start (config : Config) (file : Except String (List UInt8)) (free : Startup.Listeners) :
    Except Ending Startup.Listeners :=
  match Startup.checkCertificate config.caCert file with
  | .error e => .error (.failed e)
  | .ok () =>
    match Startup.bind config (String.ofList config.listen.text) free with
    | .error e => .error (.failed e)
    | .ok listeners => .ok listeners

end DohRelay.CommandLine
