import CorpusBench.Tool.Run

/-!
# The `corpora` executable

Reads the command line, the variables the program knows of and the environment file `.env` of
the working directory, runs `corpora` and writes its two output streams; the exit status is the
run's.  This build has no network transport, so every request fails to connect.
-/

open CorpusBench

/-- The environment variables `corpora` reads. -/
def knownVariables : List String :=
  ClientConfig.settingVariables ++ ["CORPORA_USERNAME", "CORPORA_ADMIN"]

/-- The values of the known variables that are set. -/
def readEnvironment : List String → IO (List (String × String))
  | [] => pure []
  | v :: rest => do
    let tail ← readEnvironment rest
    match ← IO.getEnv v with
    | some x => pure ((v, x) :: tail)
    | none => pure tail

/-- Run `corpora` on the process's command line. -/
def main (args : List String) : IO UInt32 := do
  let env ← readEnvironment knownVariables
  let dotenv ← try some <$> IO.FS.readFile ".env" catch _ => pure none
  let o := Tool.run Network.unreachable env dotenv args
  IO.print o.stdout
  IO.eprint o.stderr
  return o.exitCode.toUInt32
