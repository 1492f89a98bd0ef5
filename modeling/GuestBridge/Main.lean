import GuestBridge.CommandLine
import GuestBridge.Image.Raster

/-!
# The program

Reads the file that the command line names and prints what it asks for.
-/

/-- The bytes of a file; none if it cannot be read. -/
def readWhole (path : String) : IO (Option (List UInt8)) := do
  try
    return some (← IO.FS.readBinFile path).toList
  catch _ =>
    return none

def main (args : List String) : IO UInt32 := do
  let bytes ← match GuestBridge.CommandLine.Request.withArguments {} args with
    | some ⟨some path, _, _⟩ => readWhole path
    | _ => pure none
  let outcome := GuestBridge.CommandLine.run GuestBridge.Image.rasterDecoder args fun _ => bytes
  IO.print outcome.output
  IO.eprint outcome.complaint
  return outcome.exitCode
