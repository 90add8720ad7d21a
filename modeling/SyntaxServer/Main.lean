import SyntaxServer.CommandLine

/-! # The program

Takes messages from standard input one at a time, as long as the client sends any, and writes to standard
output what the library gives for them. No grammar is linked in and the disk is left alone here, so the engine
has no trees to give, the walk through a workspace finds nothing and no log is kept. The codec is the one that
knows the sections of a client's capabilities.
-/
namespace SyntaxServer.Program

attribute [local instance] Codec.sections

/-- The bytes of a line with its line feed; fewer at the end of the input. -/
partial def takeLine (input : IO.FS.Stream) (taken : ByteArray) : IO ByteArray := do
  let b ← input.read 1
  if b.isEmpty then return taken
  else if b.get! 0 == 10 then return taken ++ b
  else takeLine input (taken ++ b)

/-- Up to `n` bytes. -/
partial def takeBytes (input : IO.FS.Stream) (n : Nat) (taken : ByteArray) : IO ByteArray := do
  if n = 0 then return taken
  else
    let b ← input.read (min n 65536).toUSize
    if b.isEmpty then return taken else takeBytes input (n - b.size) (taken ++ b)

/-- Drops up to `n` bytes. -/
partial def skipBytes (input : IO.FS.Stream) (n : Nat) : IO Unit := do
  if n ≠ 0 then
    let b ← input.read (min n 65536).toUSize
    if !b.isEmpty then skipBytes input (n - b.size)

/-- The lines of a frame up to its body, and the size of the body. -/
partial def takeHeaders (input : IO.FS.Stream) (h : Frame.Headers) (taken : Bytes) :
    IO (Bytes × Nat) := do
  let line := (← takeLine input .empty).toList
  if line.isEmpty then return (taken, 0)
  else
    match h.readLine line with
    | .more h => takeHeaders input h (taken ++ line)
    | .complete n => return (taken ++ line, n.getD 0)
    | .failed _ => return (taken ++ line, 0)

/-- What the next frame of the input reads as. -/
def nextRead (input : IO.FS.Stream) : IO Frame.Read := do
  let (headers, n) ← takeHeaders input {} []
  let body ← if Frame.maxBody < n then do skipBytes input n; pure ByteArray.empty
    else takeBytes input n .empty
  return (Frame.read Frame.maxBody (headers ++ body.toList)).1

/-- Serves the client until the connection is over. -/
partial def serveClient (input output : IO.FS.Stream) (c : Connection) : IO Connection := do
  if c.ended then return c
  else
    let next := Connection.accept Engine.none { c with events := [] } (← nextRead input)
    let walks := (next.walkNotices {}).map Outgoing.notice
    output.write ⟨((next.sent ++ walks).flatMap Outgoing.frame).toArray⟩
    output.flush
    serveClient input output next

end SyntaxServer.Program

open SyntaxServer SyntaxServer.Program in
def main (args : List String) : IO UInt32 := do
  match Command.parse? args with
  | none => IO.eprintln ("Usage: " ++ Product.name ++ " [OPTIONS]"); return 2
  | some .help => IO.print usage; return 0
  | some .version => IO.print versionLine; return 0
  | some (.serve _) =>
    let c ← serveClient (← IO.getStdin) (← IO.getStdout) {}
    return c.exitCode.toUInt32
