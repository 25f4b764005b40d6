import Convoy.Shell.Basic

/-!
# The program

Runs a command line on the machine's own files, input and environment.
-/
namespace Convoy.Program

def succeeds {α : Type} (action : IO α) : IO Bool := do
  match ← action.toBaseIO with
  | .ok _ => return true
  | .error _ => return false

/-- The text of bytes, if an action yields some and they are UTF-8. -/
def textOf (action : IO ByteArray) : IO (Option String) := do
  match ← action.toBaseIO with
  | .ok bytes => return String.fromUTF8? bytes
  | .error _ => return none

def files : Files IO where
  leadsSomewhere path := succeeds (IO.FS.realPath path)
  text? path := textOf (IO.FS.readBinFile path)
  makeDirectory path := succeeds (IO.FS.createDirAll path)
  write path text := succeeds (IO.FS.writeFile path text)

partial def readAll (stream : IO.FS.Stream) (known : ByteArray) : IO ByteArray := do
  let bytes ← stream.read 65536
  if bytes.isEmpty then return known else readAll stream (known ++ bytes)

def variableNames : List String :=
  ["HOME", "MESOS_CLI_CONFIG", "MESOS_CLI_PROFILE", "MESOS_CLI_MASTER", "MESOS_CLI_SCHEME",
   "MESOS_CLI_RESTART", "MESOS_CLI_SYNC", "MESOS_CLI_LOG_LEVEL"]

def environment : IO (String → Option String) := do
  let known ← variableNames.mapM fun name => return (name, ← IO.getEnv name)
  return fun name => (known.lookup name).bind id

/-- A mint that no other run starts from. -/
def freshMint : IO Mint := do
  let bytes ← IO.getRandomBytes 15
  return ⟨bytes.foldl (fun number byte => number * 256 + byte.toNat) 0⟩

end Convoy.Program

def main (words : List String) : IO UInt32 := do
  let world : Convoy.Shell.World IO :=
    { files := Convoy.Program.files
      input := Convoy.Program.textOf (do Convoy.Program.readAll (← IO.getStdin) ByteArray.empty)
      environment := ← Convoy.Program.environment }
  let response ← Convoy.Shell.run world words (← Convoy.Program.freshMint)
  (← IO.getStdout).putStr response.output
  (← IO.getStderr).putStr response.complaint
  return response.code
