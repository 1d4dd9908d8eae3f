import SuiteLint.Cli.Program
import SuiteLint.Cli.Snapshot

/-!
# Entry point

Reads a snapshot of the files and their syntax trees from the standard input, runs the program on
it with the arguments and the environment of the process, and prints what it says.
-/

namespace SuiteLint.Cli

/-- Reads a stream to its end. -/
partial def readAll (input : IO.FS.Stream) (taken : ByteArray) : IO ByteArray := do
  let more ← input.read 65536
  if more.isEmpty then pure taken else readAll input (taken ++ more)

/-- The variables of the environment that the program looks at. -/
def readEnvironment : IO Environment := do
  let names :=
    ["TREELINT_CONFIG", "TREELINT_CONFIG_DIR", "HOME", "XDG_CONFIG_HOME", "GIT_CONFIG_GLOBAL"]
  names.filterMapM (fun name => do
    let value ← IO.getEnv name
    pure (value.map (fun text => (name, text))))

end SuiteLint.Cli

open SuiteLint.Cli in
/-- Runs the program. -/
def main (args : List String) : IO UInt32 := do
  let bytes ← readAll (← IO.getStdin) .empty
  match Snapshot.read bytes.data.toList with
  | none =>
    IO.eprintln "the standard input is no snapshot"
    pure 2
  | some snapshot =>
    let outcome := run snapshot.disk snapshot.parser (← readEnvironment) args
    IO.print outcome.stdout
    IO.eprint outcome.stderr
    pure outcome.exit.toUInt32
