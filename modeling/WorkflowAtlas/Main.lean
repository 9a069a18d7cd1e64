import WorkflowAtlas.CommandLine.Commands
import WorkflowAtlas.FileSet.Codec

/-!
# The program

The arguments say what to do. What lies below the working directory comes on standard input as one JSON
object: `files`, with the parse trees of source files, and `time`, which a snapshot is stamped with. The
output goes to standard output, the cause of a failure to standard error.
-/

namespace WorkflowAtlas

/-- The files below the working directory and the time, as standard input gives them. -/
def Listing.decode : Decoder (FileSet × Option String) := fun doc => do
  let files ← FileSet.decode (doc.member "files")
  let time ← Decoder.nullable .string (doc.member "time")
  return (files, time)

/-- All that is left of a stream. -/
partial def readAll (input : IO.FS.Stream) (text : String) : IO String := do
  let line ← input.getLine
  if line.isEmpty then return text else readAll input (text ++ line)

/-- Prints what comes of a command line and writes the files that it changed. -/
def perform (files : FileSet) (outcome : Outcome) : IO UInt32 := do
  for file in outcome.files.changedSince files do
    IO.FS.writeFile ("/".intercalate file.place) file.content
  IO.print outcome.printed.render
  if let some fault := outcome.fault then IO.eprintln ("Error: " ++ fault.message)
  return outcome.status.toUInt32

end WorkflowAtlas

open WorkflowAtlas in
def main (args : List String) : IO UInt32 := do
  match Listing.decode.run (← readAll (← IO.getStdin) "") with
  | .error _ =>
    IO.eprintln "Error: standard input is no list of files"
    return 1
  | .ok (files, time) => perform files (CommandLine.execute files time args)
