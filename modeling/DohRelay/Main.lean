import DohRelay.CommandLine.Program

/-!
# Command line

Reads the arguments and the file with the certificate, and ends with what is wrong.  The program has
no sockets, so no listener can be bound.
-/

namespace DohRelay

/-- What is said about a file that cannot be read. -/
def fileFault : IO.Error → String
  | .noFileOrDirectory _ code _ => s!"No such file or directory (os error {code})"
  | .permissionDenied _ code _ => s!"Permission denied (os error {code})"
  | .inappropriateType _ code _ => s!"Is a directory (os error {code})"
  | e => toString e

/-- The content of a file, or why it cannot be read. -/
def readContent (path : String) : IO (Except String (List UInt8)) := do
  try
    let bytes ← IO.FS.readBinFile path
    return .ok bytes.toList
  catch e => return .error (fileFault e)

/-- The usage text. -/
def usage : String :=
  "Usage: doh-relay [OPTIONS]\n\nOptions:\n" ++
    String.join (CommandLine.options.map fun option => "  --" ++ option.1 ++ "\n")

/-- What is said when the program dies. -/
def deathNotice : String := "size overflows MAX_SIZE\n"

/-- Ends a run. -/
def finish (ending : CommandLine.Ending) : IO UInt32 := do
  match ending, ending.report with
  | .arguments .help, _ => IO.print usage
  | .death, _ => IO.eprint deathNotice
  | _, some report => IO.eprint report
  | _, none => IO.eprint usage
  return UInt32.ofNat ending.exitCode

end DohRelay

open DohRelay in
/-- Runs the program. -/
def main (arguments : List String) : IO UInt32 := do
  match CommandLine.configure arguments with
  | .error ending => finish ending
  | .ok (_, config) =>
    let file ← match config.caCert with
      | some path => readContent path
      | none => pure (.ok [])
    match CommandLine.start config file ⟨false, false⟩ with
    | .error ending => finish ending
    | .ok _ => return 0
