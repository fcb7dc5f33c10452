import Lifeline.Program
/-! The command line of the program. It has no sockets, so every dial fails, and it runs by a clock
of its own, so that no delay is waited out. -/
open Lifeline

/-- The words for a file that cannot be read. -/
def explain : IO.Error → String
  | .noFileOrDirectory .. => "No such file or directory (os error 2)"
  | .inappropriateType .. => "Is a directory (os error 21)"
  | .permissionDenied .. => "Permission denied (os error 13)"
  | e => toString e

partial def readInput (stream : IO.FS.Stream) (read : List UInt8) : IO (List UInt8) := do
  let bytes ← stream.read 65536
  if bytes.isEmpty then return read
  readInput stream (read ++ bytes.toList)

def main (args : List String) : IO UInt32 := do
  let (content, input) ← match CommandLine.parse args with
    | .error _ => pure (.error "", [])
    | .ok i => do
      let content ← (IO.FS.readBinFile i.configPath).toBaseIO
      let input ← match i.command with
        | .connect _ => readInput (← IO.getStdin) []
        | .config => pure []
      pure (content.map (·.toList) |>.mapError explain, input)
  let outcome := Program.run
    { read := fun _ => content
      serve := fun _ => .ok ()
      input := input
      network := ⟨fun _ => false, "no network"⟩
      listening := false
      host := none }
    args
  (← IO.getStdout).putStr outcome.screen
  let stderr ← IO.getStderr
  for line in outcome.complaints do
    stderr.putStrLn line
  return UInt32.ofNat outcome.exitCode
