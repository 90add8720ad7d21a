import SyntaxServer.Disk.Basic
import SyntaxServer.Language

/-! # Finding files of known languages

The regular files below a directory that have a known ending, by their paths from there, sorted. Excluded
directories are not entered and links are not followed. A directory that is entered and cannot be read ends the
search.
-/
namespace SyntaxServer

namespace Path

/-- What follows the last dot of a name, unless that dot is its first byte. -/
def extension? (name : Name) : Option Bytes :=
  match name.reverse.dropWhile (· ≠ dot) with
  | _ :: _ :: _ => some (name.reverse.takeWhile (· ≠ dot)).reverse
  | _ => none

/-- A name whose ending tells a language. -/
def hasLanguage (name : Name) : Bool :=
  ((extension? name >>= Utf8.decode?) >>= Language.ofExtension?).isSome

end Path

namespace Entry

mutual

/-- The supported files in an entry of the given path. A directory is checked when it is entered. -/
def supported (check : List Name → Except DiskError Unit) (exclude : List Name) (path : List Name) (name : Name) :
    Entry → Except DiskError (List (List Name))
  | file => .ok (if Path.hasLanguage name then [path ++ [name]] else [])
  | directory es =>
    if exclude.contains name then .ok []
    else do
      check (path ++ [name])
      supportedIn check exclude (path ++ [name]) es
  | link _ => .ok []

/-- The supported files in the entries of a directory of the given path. -/
def supportedIn (check : List Name → Except DiskError Unit) (exclude : List Name) (path : List Name) :
    List (Name × Entry) → Except DiskError (List (List Name))
  | [] => .ok []
  | (name, e) :: es => do
    let first ← supported check exclude path name e
    let rest ← supportedIn check exclude path es
    return first ++ rest

end

end Entry

namespace Disk

/-- The supported files below a directory, sorted name by name. -/
def discover (disk : Disk) (root : Bytes) (exclude : List String) :
    Except DiskError (List (List Name)) := do
  let (top, es) ← disk.list root
  let check (path : List Name) := disk.checkReadable (Path.join root path) (top ++ path)
  let files ← Entry.supportedIn check (exclude.map Utf8.encodeString) [] es
  return files.mergeSort fun a b => decide (a ≤ b)

end Disk

end SyntaxServer
