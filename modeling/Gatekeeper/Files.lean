import Gatekeeper.Text.Basic

/-!
# Files

The files a program can reach from its working directory. A path is followed part by part: an empty
part and `.` stay where they are, `..` goes up, a name goes down, and each asks that the place it
starts from be a directory. Above the working directory lies only what cannot be seen: directories
that hold nothing.

`Node.read` is what reading a path comes to. What is done with a content, or with a reason for there
being none, takes either as it is and does not ask which path it came by; so a path that leads out
of the working directory is treated as all others are, whatever is found at its end.
-/

namespace Gatekeeper.Files

/-- A file or a directory. -/
inductive Node where
  | file (content : List UInt8)
  | directory (entries : List (String × Node))

/-- The entries of the working directory, before anything is written. -/
def Node.empty : Node := .directory []

/-- Why a file cannot be read. Any failure that the files themselves do not explain is `other`, with
the number, the kind and the words of the operating system. -/
inductive Fault where
  | missing
  | nulInName
  | notDirectory
  | isDirectory
  | nameTooLong
  | notText
  | other (code : Nat) (kind text : String)
deriving DecidableEq

/-- The number, the kind and the words of a failure that the operating system reports. -/
def Fault.system : Fault → Option (Nat × String × String)
  | missing => some (2, "NotFound", "No such file or directory")
  | notDirectory => some (20, "NotADirectory", "Not a directory")
  | isDirectory => some (21, "IsADirectory", "Is a directory")
  | nameTooLong => some (36, "InvalidFilename", "File name too long")
  | other code kind text => some (code, kind, text)
  | nulInName | notText => none

/-- The words for a failure. -/
def Fault.message (fault : Fault) : String :=
  match fault.system with
  | some (code, _, text) => text ++ " (os error " ++ toString code ++ ")"
  | none =>
    match fault with
    | nulInName => "file name contained an unexpected NUL byte"
    | _ => "stream did not contain valid UTF-8"

/-- A failure as shown to developers. -/
def Fault.describe (fault : Fault) : String :=
  match fault.system with
  | some (code, kind, text) =>
    "Os \x7b code: " ++ toString code ++ ", kind: " ++ kind ++ ", message: \"" ++ text ++ "\" \x7d"
  | none =>
    let kind := if fault = nulInName then "InvalidInput" else "InvalidData"
    "Error \x7b kind: " ++ kind ++ ", message: \"" ++ fault.message ++ "\" \x7d"

/-- A place reached by following a path: the names from the working directory down to it, or
somewhere above the working directory. -/
inductive Place where
  | inside (names : List String)
  | outside

/-- What stands under the given names. -/
def Node.find : Node → List String → Option Node
  | node, [] => some node
  | .directory entries, name :: names => (entries.lookup name).bind (Node.find · names)
  | .file _, _ :: _ => none

/-- What stands at a place. -/
def Node.at (root : Node) : Place → Option Node
  | .inside names => root.find names
  | .outside => some .empty

/-- The place a directory up. -/
def Place.up : Place → Place
  | .inside [] => .outside
  | .inside names => .inside names.dropLast
  | .outside => .outside

/-- The parts of a path between its slashes. -/
def parts (path : String) : List String :=
  (Text.split '/' path.toList).map String.ofList

/-- The longest name of a file, in bytes. -/
def maxName : Nat := 255

/-- The longest path, in bytes. -/
def maxPath : Nat := 4095

/-- One step along a path. -/
def Node.enter (root : Node) (place : Place) (part : String) : Except Fault Place :=
  match root.at place with
  | some (.directory entries) =>
    if part = "" ∨ part = "." then .ok place
    else if part = ".." then .ok place.up
    else if maxName < part.utf8ByteSize then .error .nameTooLong
    else
      match place, entries.lookup part with
      | .inside names, some _ => .ok (.inside (names ++ [part]))
      | _, _ => .error .missing
  | _ => .error .notDirectory

/-- Where a path starts: one that begins with a slash does not start at the working directory. -/
def start (path : String) : Place :=
  if path.toList.head? = some '/' then .outside else .inside []

/-- What is wrong with a path whatever the files are. -/
def pathFault (path : String) : Option Fault :=
  if path.toList.contains '\x00' then some .nulInName
  else if path.isEmpty then some .missing
  else if maxPath < path.utf8ByteSize then some .nameTooLong
  else none

/-- The place that a path leads to. -/
def Node.resolve (root : Node) (path : String) : Except Fault Place :=
  match pathFault path with
  | some fault => .error fault
  | none => (parts path).foldlM root.enter (start path)

/-- The content of the file that a path leads to. -/
def Node.read (root : Node) (path : String) : Except Fault (List UInt8) := do
  let place ← root.resolve path
  match root.at place with
  | some (.file content) => return content
  | some (.directory _) => .error .isDirectory
  | none => .error .missing

/-- The entries with one of them replaced, added or taken out. -/
def setEntry (entries : List (String × Node)) (name : String) (node : Option Node) :
    List (String × Node) :=
  let others := entries.filter fun entry => entry.1 ≠ name
  match node with
  | some node => others ++ [(name, node)]
  | none => others

/-- The files with what stands under the given names replaced, added or taken out. -/
def Node.set (new : Option Node) : List String → Node → Node
  | [name], .directory entries => .directory (setEntry entries name new)
  | name :: names, .directory entries =>
    match entries.lookup name with
    | some node => .directory (setEntry entries name (some (node.set new names)))
    | none => .directory entries
  | _, node => node

/-- Follows a path and makes a directory of each name that is missing on the way. The files are as
far changed as the path could be followed; the place is there if it could be to its end. -/
def Node.follow (root : Node) (place : Place) : List String → Node × Option Place
  | [] => (root, some place)
  | part :: parts =>
    match root.enter place part with
    | .ok place => root.follow place parts
    | .error .missing =>
      match place with
      | .inside names =>
        (root.set (some .empty) (names ++ [part])).follow (.inside (names ++ [part])) parts
      | .outside => (root, none)
    | .error _ => (root, none)

/-- The parts of a path that change where it leads. -/
def significantParts (path : String) : List String :=
  (parts path).filter fun part => part ≠ "" ∧ part ≠ "."

/-- The last part of a path that is not empty. -/
def lastPart (path : String) : Option String :=
  ((parts path).filter (· ≠ "")).getLast?

/-- The files with a directory at the path, and those above it, if they can be made. What comes
before a `.` at the end has to be there already, and only what is above that is made. -/
def Node.makeDirectory (root : Node) (path : String) : Node :=
  match pathFault path with
  | some _ => root
  | none =>
    let parts := if lastPart path = some "." then (significantParts path).dropLast else parts path
    (root.follow (start path) parts).1

/-- The parts without those at the end that lead nowhere. -/
def trimParts (parts : List String) : List String :=
  (parts.reverse.dropWhile fun part => part = "" ∨ part = ".").reverse

/-- The path to the directory that holds what a path leads to. -/
def parentPath (path : String) : String :=
  "/".intercalate (trimParts (trimParts (parts path)).dropLast)

/-- The files with the directories above a path, if they can be made. -/
def Node.makeParents (root : Node) (path : String) : Node :=
  match pathFault (parentPath path) with
  | some _ => root
  | none => (root.follow (start path) (significantParts path).dropLast).1

/-- The files with a file of the given content at the path, if one can be written there. The
directories above it are made first. -/
def Node.write (root : Node) (path : String) (content : List UInt8) : Node :=
  let root := root.makeParents path
  let name := (parts path).getLastD ""
  match pathFault path, (parts path).dropLast.foldlM root.enter (start path) with
  | none, .ok (.inside names) =>
    if name = "" ∨ name = "." ∨ name = ".." ∨ maxName < name.utf8ByteSize then root
    else
      match root.find names, root.find (names ++ [name]) with
      | some (.directory _), some (.file _) | some (.directory _), none =>
        root.set (some (.file content)) (names ++ [name])
      | _, _ => root
  | _, _ => root

/-- The files without what a path leads to. A directory is emptied first, and then taken out by
following the path once more. So it stays, empty, if the path ends with `.` or `..` or goes through
a directory that was in it. -/
def Node.remove (root : Node) (path : String) : Node :=
  match root.resolve path with
  | .ok (.inside []) => .empty
  | .ok (.inside names) =>
    match root.find names with
    | some (.directory _) =>
      let emptied := root.set (some .empty) names
      let last := lastPart path
      if (emptied.resolve path).isOk ∧ last ≠ some "." ∧ last ≠ some ".." then
        emptied.set none names
      else emptied
    | _ => root.set none names
  | _ => root

/-- What two paths are compared by: whether it starts with a slash, and its parts without the empty
ones and without any `.` that is not the first. -/
def pathKey (path : String) : Bool × List String :=
  let first := ((parts path).take 1).filter fun part => part = "."
  (path.toList.head? = some '/', first ++ significantParts path)

end Gatekeeper.Files
