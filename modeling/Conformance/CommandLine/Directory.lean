/-
Runs in a directory of files.

The directory holds files and no other directories. A path reaches a file if it
is the file's name, perhaps behind references to the directory itself. The
directory and those above it can be opened like a file but not be read or
created.
-/
import Conformance.CommandLine.Run
import Conformance.Text.Split

namespace Conformance

namespace CommandLine

/-- The files of a directory, by name. -/
abbrev Directory := List (String × String)

/-- What a path reaches. -/
inductive Target where
  | file (name : String)
  | directory
  | nothing
  deriving DecidableEq, Repr

namespace Target

/-- Follows a path that starts in the directory. -/
def of (path : String) : Target :=
  let parts := (Text.split '/' path.toList).map String.ofList
  if path.startsWith "/" then
    if parts.all fun part => part ∈ ["", ".", ".."] then directory else nothing
  else
    match parts.dropWhile fun part => part == "." || part == "" with
    | [] => if path.isEmpty then nothing else directory
    | [".."] => directory
    | [name] => file name
    | _ => nothing

end Target

namespace Directory

/-- What reading a path comes to. -/
def read (files : Directory) (path : String) : Reading :=
  match Target.of path with
  | .file name =>
    match files.lookup name with
    | some content => .text content
    | none => .absent
  | .directory => .unreadable
  | .nothing => .absent

/-- Whether a file can be created at a path. -/
def canCreate (path : String) : Bool :=
  match Target.of path with
  | .file _ => true
  | _ => false

/-- The directory after a file is written. -/
def write (files : Directory) (path content : String) : Directory :=
  match Target.of path with
  | .file name => (name, content) :: files.filter (·.1 != name)
  | _ => files

/-- Runs a command in the directory: what it comes to, and the files after
it. -/
def run (files : Directory) (input : String) (args : List String) : Outcome × Directory :=
  let outcome := CommandLine.run { file := files.read, canCreate, input } args
  match outcome.written with
  | some (path, content) => (outcome, files.write path content)
  | none => (outcome, files)

end Directory

end CommandLine

end Conformance
