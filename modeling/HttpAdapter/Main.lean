import HttpAdapter.Plugin

/-!
The command: a request comes in on the standard input, and the response goes to the standard
output, or there is none and the run fails.  The environment may name a file that the request is
also written to.
-/

/-- The environment variable that names a file for the request. -/
def dumpVariable : String := "PROTOC_GEN_HTTPRPC_DUMP"

/-- All bytes of a stream up to its end. -/
partial def readToEnd (stream : IO.FS.Stream) (sofar : ByteArray) : IO ByteArray := do
  let chunk ← stream.read 65536
  if chunk.isEmpty then return sofar else readToEnd stream (sofar ++ chunk)

/-- Answers the request on the standard input. -/
def main : IO Unit := do
  let input ← readToEnd (← IO.getStdin) ByteArray.empty
  match ← IO.getEnv dumpVariable with
  | some file => if file.isEmpty then pure () else IO.FS.writeBinFile file input
  | none => pure ()
  let output ← IO.getStdout
  match @HttpAdapter.Plugin.run .bare input.data.toList with
  | .ok bytes =>
      output.write ⟨bytes.toArray⟩
      output.flush
  | .error fault => throw (IO.userError fault.message)
