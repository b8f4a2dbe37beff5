/-
Files, as far as a program creates them.

A path is a list of names with slashes between them.  All names but the last one have to
lead from directory to directory; empty names and `.` stay where they are, and `..` goes
back.  The last name must not be that of a directory, and no slash may follow it.
-/
import Lifecast.OsError

namespace Lifecast

/-- A directory by the names that lead to it from the root, the last one first. -/
abbrev Directory := List String

/-- What there is on a host before a file is created. -/
structure Files where
  /-- The directories besides the root. -/
  directories : List Directory
  /-- What is not a directory: the directory it lies in and its name. -/
  others : List (Directory × String) := []
  /-- The directories in which no file can be created, and why not. -/
  closed : List (Directory × OsError) := []
  /-- The directory in which a path starts that does not start at the root. -/
  current : Directory := []
deriving DecidableEq, Repr

namespace Files

/-- What a host has at least.  Nothing is added to the directories in which the system
shows its own state. -/
def usual : Files where
  directories := ["bin", "dev", "etc", "home", "lib", "mnt", "opt", "proc", "root", "run",
    "sbin", "srv", "sys", "tmp", "usr", "var"].map ([·]) ++ [["log", "var"], ["tmp", "var"],
    ["fd", "dev"], ["shm", "dev"], ["self", "proc"], ["kernel", "sys"]]
  others := [(["dev"], "null"), (["dev"], "zero"), (["dev"], "full"), (["etc"], "hosts"),
    (["etc"], "passwd")]
  closed := [["proc"], ["self", "proc"], ["fd", "dev"]].map (·, .noSuchFile) ++
    [["sys"], ["kernel", "sys"]].map (·, .permissionDenied)
  current := ["home"]

/-- The longest name, in bytes. -/
def maxNameLength : Nat := 255

/-- The longest path, in bytes. -/
def maxPathLength : Nat := 4095

/-- Where a name leads from a directory. -/
def enter (files : Files) (here : Directory) (name : String) : Except OsError Directory :=
  if name = "" ∨ name = "." then .ok here
  else if name = ".." then .ok (here.drop 1)
  else if files.directories.contains (name :: here) then .ok (name :: here)
  else if files.others.contains (here, name) then .error .notADirectory
  else if (files.closed.lookup here).isNone && maxNameLength < name.utf8ByteSize then
    .error .nameTooLong
  else .error .noSuchFile

/-- Create the file with a name, or empty it, in a directory.  `slashed` says that a slash
follows the name. -/
def createIn (files : Files) (here : Directory) (name : String) (slashed : Bool) :
    Except OsError Unit :=
  if slashed || ["", ".", ".."].contains name || files.directories.contains (name :: here) then
    .error .isADirectory
  else if files.others.contains (here, name) then .ok ()
  else match files.closed.lookup here with
    | some refusal => .error refusal
    | none => if maxNameLength < name.utf8ByteSize then .error .nameTooLong else .ok ()

/-- Create the file with a path, or empty it. -/
def create (files : Files) (path : String) : Except OsError Unit := do
  if path.isEmpty then throw .noSuchFile
  if maxPathLength < path.utf8ByteSize then throw .nameTooLong
  let cs := path.toList
  let shown := (cs.reverse.dropWhile (· == '/')).reverse
  let names := (shown.splitOn '/').map String.ofList
  let start := if cs.head? = some '/' then [] else files.current
  let here ← names.dropLast.foldlM files.enter start
  files.createIn here (names.getLast?.getD "") (cs.getLast? = some '/')

end Files

end Lifecast
