import SyntaxServer.Disk.Path
import SyntaxServer.Uri.Basic
import SyntaxServer.Uri.Escape

/-! # File paths and URIs

The URI of a directory on this machine, and the path that a URI names on it.
-/
namespace SyntaxServer.Uri

/-- The segments of a path: empty components and single dots are left out. -/
def segmentsOfPath (path : Bytes) : List Text :=
  ((Path.split path).filter (!Path.isIdle ·)).map (escapeBytes fileNameSet)

/-- The URI of the directory at an absolute path, which has a slash at its end. -/
def ofDirectory? (path : Bytes) : Option Uri :=
  if Path.isAbsolute path then
    some {
      scheme := "file".toList
      authority := some { host := [] }
      path := .segments (segmentsOfPath path ++ [[]]) }
  else none

/-- A letter with a colon or a bar at the end of a path. -/
def endsInDrive (path : Bytes) : Bool :=
  match path.reverse with
  | mark :: letter :: _ :: _ =>
    (mark == 0x3A || mark == 0x7C) && (Char.ofNat letter.toNat).isAlpha && letter < 0x80
  | _ => false

/-- The path that a URI names on this machine: its segments without their escapes. -/
def filePath? (u : Uri) : Option Bytes := do
  let names ← u.segments?
  if u.host?.all (· = "localhost".toList) then
    let path := names.flatMap fun name => Path.slash :: unescape (Utf8.encode name)
    some (if endsInDrive path then path ++ [Path.slash] else path)
  else none

end SyntaxServer.Uri
