/-
The command line.

Everything is decided by `CommandLine.run`. What is left to do here is to read
the files it will ask for beforehand and to print and write what it comes to.
-/
import Conformance.CommandLine.Run

namespace Conformance

namespace CommandLine

/-- The paths that an invocation reads. -/
def Invocation.paths (invocation : Invocation) : List String :=
  [invocation.config, invocation.schema, some invocation.data].reduceOption

/-- Reads a file. -/
def readPath (path : String) : IO Reading := do
  match ← (IO.FS.Handle.mk path .read).toBaseIO with
  | .error _ => return .absent
  | .ok handle =>
    match ← handle.readToEnd.toBaseIO with
    | .error _ => return .unreadable
    | .ok text => return .text text

/-- Reads what is left of a stream. -/
partial def readStream (stream : IO.FS.Stream) (read : String) : IO String := do
  let line ← stream.getLine
  if line.isEmpty then return read else readStream stream (read ++ line)

/-- What the run that the arguments ask for can see. -/
def look (args : List String) : IO Surroundings := do
  match request false args with
  | .run invocation =>
    let (inputs, files) := invocation.paths.partition namesInput
    let readings ← files.mapM fun path => return (path, ← readPath path)
    let input ← if inputs.isEmpty then pure "" else readStream (← IO.getStdin) ""
    return { file := fun path => (readings.lookup path).getD .absent
             canCreate := fun _ => true, input }
  | _ => return { file := fun _ => .absent, canCreate := fun _ => false, input := "" }

/-- Writes the file of a run, which may turn out to be impossible. -/
def settle (outcome : Outcome) : IO Outcome := do
  match outcome.written with
  | none => return outcome
  | some (path, text) =>
    match ← (IO.FS.writeFile path text).toBaseIO with
    | .ok _ => return outcome
    | .error _ => return (Fault.notCreated path).outcome

end CommandLine

end Conformance

open Conformance.CommandLine in
def main (args : List String) : IO UInt32 := do
  let outcome ← settle (run (← look args) args)
  IO.print outcome.out
  IO.eprint outcome.err
  return outcome.exitCode.toUInt32
