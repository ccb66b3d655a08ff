/-!
Where sources are read from. The command is given a function that reads; what it needs to know of
one that fails is the fault. A system with a few files is such a function (`readIn`): a path leads
from the working folder, or from the root if it begins with a slash, through folders to what it
names.
-/

namespace Kaleidoscope.Command

/-- Why a source could not be read. -/
inductive SourceFault where
  | missing
  | forbidden
  | notFolder
  | folder
  | nameTooLong
  | other (reason : String)
  deriving DecidableEq

namespace SourceFault

def text : SourceFault → String
  | missing => "No such file or directory (os error 2)"
  | forbidden => "Permission denied (os error 13)"
  | notFolder => "Not a directory (os error 20)"
  | folder => "Is a directory (os error 21)"
  | nameTooLong => "File name too long (os error 36)"
  | other reason => reason

end SourceFault

abbrev Contents := List UInt8

inductive Entry where
  | file (contents : Contents)
  | folder (entries : List (String × Entry))

abbrev Folder := List (String × Entry)

/-- The folders that every system has, as far as it is known what they hold. -/
def Folder.root (input : Contents) : Folder :=
  ("dev", .folder [("null", .file []), ("stdin", .file input)]) ::
    ["bin", "etc", "home", "lib", "mnt", "opt", "proc", "root", "run", "sbin", "srv", "sys", "tmp",
      "usr", "var"].map fun name => (name, .folder [])

/-- What has that many bytes no longer fits. -/
def pathLimit : Nat :=
  4096

def nameLimit : Nat :=
  256

/-- Follow the names of a path from the first of some folders, each of which lies in the
next. -/
def follow : List Folder → List (List Char) → Except SourceFault Contents
  | _, [] => .error .folder
  | folders, name :: rest =>
    let name := String.ofList name
    if name = "" || name = "." then follow folders rest
    else if name = ".." then follow (if folders.length ≤ 1 then folders else folders.tail) rest
    else if nameLimit ≤ name.utf8ByteSize then .error .nameTooLong
    else
      match folders.head?.bind (·.lookup name) with
      | none => .error .missing
      | some (.folder entries) => follow (entries :: folders) rest
      | some (.file contents) => if rest.isEmpty then .ok contents else .error .notFolder

/-- Read the file at a path. Of the folder around the working folder nothing is known. -/
def readPath (root working : Folder) (path : String) : Except SourceFault Contents :=
  if path = "" then .error .missing
  else if pathLimit ≤ path.utf8ByteSize then .error .nameTooLong
  else
    match path.toList with
    | '/' :: rest => follow [root] (rest.splitOn '/')
    | relative => follow [working, [], root] (relative.splitOn '/')

/-- What a system with these files reads: the standard input, or the file at a path. -/
def readIn (working : Folder) (input : Contents) : Option String → Except SourceFault Contents
  | none => .ok input
  | some path => readPath (.root input) working path

end Kaleidoscope.Command
