import SyntaxServer.Disk.Basic

/-! # Making directories and files

A file is made together with the directories above it, unless something stands in the way.
-/
namespace SyntaxServer

namespace Entry

/-- Makes the directories `rest` from the plain path `here` on and gives the plain path of the last. -/
def makeDirectories (root : Entry) (here : List Name) :
    List Name → Except DiskError (Entry × List Name)
  | [] => .ok (root, here)
  | name :: rest =>
    if Path.isIdle name then makeDirectories root here rest
    else if Path.isParent name then makeDirectories root here.dropLast rest
    else if maxName < name.length then .error .nameTooLong
    else
      let there := here ++ [name]
      match root.at? there with
      | none => makeDirectories (put (directory []) there root) there rest
      | some (directory _) => makeDirectories root there rest
      | some file => .error .notADirectory
      | some (link _) => do
        let plain ← follow root false Disk.maxLinks here [name]
        if (root.at? plain).any isDirectory then makeDirectories root plain rest
        else .error .notADirectory

/-- Makes a file at a plain path, if it does not exist. -/
def makeFile (root : Entry) (plain : List Name) : Except DiskError Entry :=
  match root.at? plain with
  | none => .ok (put file plain root)
  | some (directory _) => .error .isADirectory
  | some _ => .ok root

end Entry

namespace Disk

/-- Makes a file and the directories above it. A link at its place is followed to what it names, which
need not exist itself. -/
def createFile (disk : Disk) (path : Bytes) : Except DiskError Disk := do
  checkPath path
  let (root, _) ← disk.root.makeDirectories (disk.start path) (Path.split path).dropLast
  let plain ← { disk with root : Disk }.resolve true path
  let root ← root.makeFile plain
  return { disk with root }

end Disk

end SyntaxServer
