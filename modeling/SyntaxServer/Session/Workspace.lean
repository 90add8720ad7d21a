import SyntaxServer.Disk.Discover
import SyntaxServer.Session.Notice
import SyntaxServer.Session.Params
import SyntaxServer.Session.Settings
import SyntaxServer.Uri.FilePath

/-! # The workspace

What a client says about its workspace when it initializes the server, and the walk through it that ends
with one line in the client's log.
-/
namespace SyntaxServer

structure Workspace where
  root : Uri
  settings : Settings
deriving DecidableEq, Repr

namespace Workspace

/-- The root of a workspace: the first folder, else the root URI, else the root path, which has to be
absolute. -/
def rootOf (p : InitializeParams) : Except Error Uri :=
  match p.folders.head?.or p.rootUri with
  | some uri => .ok uri
  | none =>
    match p.rootPath with
    | none => .error .missingRootPath
    | some path =>
      if path.isEmpty then .error .missingRootPath
      else
        match Uri.ofDirectory? (Utf8.encodeString path) with
        | some uri => .ok uri
        | none =>
          .error (.invalidParams s!"rootPath {Text.quoteString path} is not an absolute path")

/-- The workspace that a client asks for. -/
def ofParams [Codec] (p : InitializeParams) : Except Error Workspace := do
  let root ← rootOf p
  let settings ← Settings.ofOptions p.options
  return ⟨root, settings⟩

/-- The line for what the search through a directory has come to; a search that was broken off has come to
nothing. -/
def walkLine (root : Uri) : Option (Except DiskError (List (List Name))) → Notice
  | some (.ok files) => .log .info s!"indexed {files.length} files under {root}"
  | some (.error e) => .log .warning s!"workspace walk of {root} failed: {e.message}"
  | none => .log .warning s!"workspace walk of {root} was aborted"

/-- The line with which the walk through a directory ends, if it is not broken off. -/
def walk (disk : Disk) (root : Uri) (exclude : List String) : Notice :=
  match root.filePath? with
  | none =>
    .log .warning s!"workspace root {root} is not a local directory, skipping indexing"
  | some path => walkLine root (some (disk.discover path exclude))

/-- The line with which the walk through a workspace ends, if it is not broken off. -/
def walkNotice (w : Workspace) (disk : Disk) : Notice := walk disk w.root w.settings.excludeDirs

/-- The lines with which the walk through a workspace can end. A search that has begun may be broken off. -/
inductive EndsWith (w : Workspace) (disk : Disk) : Notice → Prop where
  | walked : EndsWith w disk (w.walkNotice disk)
  | aborted {path : Bytes} (h : w.root.filePath? = some path) : EndsWith w disk (walkLine w.root none)

theorem exists_log_walkLine (root : Uri) (result : Option (Except DiskError (List (List Name)))) :
    ∃ level ∈ [LogLevel.info, .warning], ∃ text, walkLine root result = .log level text := by
  unfold walkLine
  split <;> exact ⟨_,by simp,_,rfl⟩

theorem EndsWith.exists_log {w : Workspace} {disk : Disk} {line : Notice} (h : w.EndsWith disk line) :
    ∃ level ∈ [LogLevel.info, .warning], ∃ text, line = .log level text := by
  cases h with
  | walked =>
    unfold walkNotice walk
    split
    · exact ⟨_,by simp,_,rfl⟩
    · exact exists_log_walkLine w.root _
  | aborted _ => exact exists_log_walkLine w.root none

end Workspace

end SyntaxServer
