import SyntaxServer.Disk.Create
import SyntaxServer.Server

/-! # The command line

The arguments of the program, the place of its log file, and a whole run of it: what it prints, what it
leaves on the disk, and with which exit code it ends.
-/
namespace SyntaxServer

/-- The variables of the environment that place the log file. -/
structure Environment where
  home : Option String := none
  dataHome : Option String := none
deriving Repr

namespace Environment

variable (env : Environment)

/-- A path behind another one, both as text. -/
def joinPath (base path : String) : String :=
  if path.startsWith "/" || base.isEmpty then path
  else if base.endsWith "/" then base ++ path
  else base ++ "/" ++ path

def dataBase : String :=
  match env.dataHome, env.home with
  | some dir, home =>
    if dir.isEmpty then home.elim "." (joinPath · ".local/share") else dir
  | none, some home => joinPath home ".local/share"
  | none, none => "."

def dataDirectory : String := joinPath env.dataBase Product.name

/-- Where the log is written unless an argument says otherwise. -/
def defaultLog : String := joinPath env.dataDirectory (Product.name ++ ".log")

end Environment

/-- What the arguments ask for. -/
inductive Command where
  | help
  | version
  | serve (logFile : Option String)
deriving DecidableEq, Repr

namespace Command

/-- The flags that have been read. -/
structure Flags where
  stdio : Bool := false
  logFile : Option String := none
deriving DecidableEq, Repr

/-- An argument that can be a value: it does not look like a flag. -/
def isValue (arg : String) : Bool := arg = "-" || !arg.startsWith "-"

/-- Takes the log file, which may be given once and not be empty. -/
def Flags.withLogFile (flags : Flags) (path : String) : Option Flags :=
  if path.isEmpty || flags.logFile.isSome then none else some { flags with logFile := some path }

def logFileKey : String := "--log-file"

/-- Reads the arguments behind those that gave `flags`. The first argument that asks for help or the
version, or that is wrong, decides. -/
def parseFrom (flags : Flags) : List String → Option Command
  | [] => some (serve flags.logFile)
  | arg :: args =>
    if arg = "--help" then some help
    else if arg = "--version" then some version
    else if arg.startsWith "-h" then some help
    else if arg.startsWith "-V" then some version
    else if arg = "--stdio" then
      if flags.stdio then none else parseFrom { flags with stdio := true } args
    else if arg = "--" then
      if args.isEmpty then some (serve flags.logFile) else none
    else if arg = logFileKey then
      match args with
      | [] => none
      | path :: args =>
        if isValue path then
          match flags.withLogFile path with
          | some flags => parseFrom flags args
          | none => none
        else none
    else if arg.startsWith (logFileKey ++ "=") then
      match flags.withLogFile (String.ofList (arg.toList.drop (logFileKey.length + 1))) with
      | some flags => parseFrom flags args
      | none => none
    else none

/-- The command that the arguments give; none if they are wrong. -/
def parse? (args : List String) : Option Command := parseFrom {} args

end Command

def usage : String :=
  Product.about ++ "\n\n" ++
  "Usage: " ++ Product.name ++ " [OPTIONS]\n\n" ++
  "Options:\n" ++
  "      --stdio            Communicate over stdin/stdout (the only supported transport)\n" ++
  "      --log-file <PATH>  Write logs here instead of the data directory\n" ++
  "  -h, --help             Print help\n" ++
  "  -V, --version          Print version\n"

def versionLine : String := Product.name ++ " " ++ Product.version ++ "\n"

/-- What a run of the program prints. -/
inductive Printed where
  | text (s : String)
  | connection (c : Connection)
deriving Repr

/-- How a run of the program ends. -/
structure Finished where
  exitCode : Nat
  disk : Disk
  printed : Printed
deriving Repr

/-- A run of the program. Wrong arguments end it with 2, a log file that cannot be made with 1. -/
def runProgram [Codec] (engine : Engine) (env : Environment) (disk : Disk) (args : List String)
    (input : Bytes) : Finished :=
  match Command.parse? args with
  | none => ⟨2, disk, .text ""⟩
  | some .help => ⟨0, disk, .text usage⟩
  | some .version => ⟨0, disk, .text versionLine⟩
  | some (.serve logFile) =>
    match disk.createFile (Utf8.encodeString (logFile.getD env.defaultLog)) with
    | .error _ => ⟨1, disk, .text ""⟩
    | .ok disk =>
      let c := serve engine input
      ⟨c.exitCode, disk, .connection c⟩

end SyntaxServer
