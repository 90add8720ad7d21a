import SyntaxServer.Disk.Path

/-! # Directory trees

A disk is a finite tree of directories, regular files and symbolic links. A path is followed component by
component, links included, to the plain path of what it names. What a directory holds can be listed unless its path is
too long or the directory may not be read.
-/
namespace SyntaxServer

inductive Entry where
  | file
  | directory (entries : List (Name × Entry))
  | link (target : Bytes)
deriving Repr, Inhabited

/-- Why a path cannot be used. -/
inductive DiskError where
  | notFound
  | notADirectory
  | isADirectory
  | nameTooLong
  | tooManyLinks
  | nulInPath
  | permissionDenied
deriving DecidableEq, Repr

namespace DiskError

def message : DiskError → String
  | notFound => "No such file or directory (os error 2)"
  | notADirectory => "Not a directory (os error 20)"
  | isADirectory => "Is a directory (os error 21)"
  | nameTooLong => "File name too long (os error 36)"
  | tooManyLinks => "Too many levels of symbolic links (os error 40)"
  | nulInPath => "file name contained an unexpected NUL byte"
  | permissionDenied => "Permission denied (os error 13)"

end DiskError

namespace Entry

def lookup (name : Name) : List (Name × Entry) → Option Entry
  | [] => none
  | (n, e) :: es => if n = name then some e else lookup name es

def entries : Entry → List (Name × Entry)
  | directory es => es
  | _ => []

/-- The entry at a plain path. -/
def at? (e : Entry) : List Name → Option Entry
  | [] => some e
  | name :: names => lookup name e.entries >>= (at? · names)

/-- Changes what a directory holds under a name. -/
def modify (name : Name) (f : Option Entry → Entry) : List (Name × Entry) → List (Name × Entry)
  | [] => [(name, f none)]
  | (n, e) :: es => if n = name then (n, f (some e)) :: es else (n, e) :: modify name f es

/-- Puts an entry at a plain path; directories on the way are made where there is nothing. -/
def put (new : Entry) : List Name → Entry → Entry
  | [], _ => new
  | name :: names, e =>
    directory (modify name (fun old => put new names (old.getD (directory []))) e.entries)

def isDirectory : Entry → Bool
  | directory _ => true
  | _ => false

/-- No name may have more bytes. -/
def maxName : Nat := 255

/-- Follows the components `rest` from the plain path `here`, through at most `links` symbolic links.
With `new` the last component may name nothing yet. -/
def follow (root : Entry) (new : Bool) (links : Nat) (here rest : List Name) :
    Except DiskError (List Name) :=
  match rest with
  | [] => .ok here
  | name :: rest =>
    if Path.isIdle name then follow root new links here rest
    else if Path.isParent name then follow root new links here.dropLast rest
    else if maxName < name.length then .error .nameTooLong
    else
      match root.at? (here ++ [name]) with
      | none => if new && rest.isEmpty then .ok (here ++ [name]) else .error .notFound
      | some file => if rest.isEmpty then .ok (here ++ [name]) else .error .notADirectory
      | some (directory _) => follow root new links (here ++ [name]) rest
      | some (link target) =>
        match links with
        | 0 => .error .tooManyLinks
        | links + 1 =>
          follow root new links (if Path.isAbsolute target then [] else here)
            (Path.split target ++ rest)
termination_by (links, rest.length)

end Entry

/-- A disk, the plain path of the directory that relative paths start from, and those of the directories that
may not be read. -/
structure Disk where
  root : Entry := .directory []
  here : List Name := []
  unreadable : List (List Name) := []
deriving Repr

namespace Disk

variable (disk : Disk)

/-- No path may lead through more links. -/
def maxLinks : Nat := 40

/-- Where a path starts. -/
def start (path : Bytes) : List Name := if Path.isAbsolute path then [] else disk.here

/-- A path has to be shorter than this. -/
def pathBound : Nat := 4096

/-- Whether a path can be followed at all. -/
def checkPath (path : Bytes) : Except DiskError Unit :=
  if path.contains 0 then .error .nulInPath
  else if path.isEmpty then .error .notFound
  else if pathBound ≤ path.length then .error .nameTooLong
  else .ok ()

/-- The plain path of what a path names. With `new` its last component may name nothing yet. -/
def resolve (new : Bool) (path : Bytes) : Except DiskError (List Name) := do
  checkPath path
  disk.root.follow new maxLinks (disk.start path) (Path.split path)

/-- Whether the directory at a plain path can be read, which is named by another path. -/
def checkReadable (path : Bytes) (plain : List Name) : Except DiskError Unit := do
  checkPath path
  if disk.unreadable.contains plain then .error .permissionDenied else .ok ()

/-- The entries of a directory, with its plain path. -/
def list (path : Bytes) : Except DiskError (List Name × List (Name × Entry)) := do
  let plain ← disk.resolve false path
  match disk.root.at? plain with
  | some (.directory es) => do
    disk.checkReadable path plain
    return (plain, es)
  | some _ => .error .notADirectory
  | none => .error .notFound

end Disk

end SyntaxServer
