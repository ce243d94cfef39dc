import EntitySieve.Command.Run
import EntitySieve.Source.Snapshot

/-! The command line: what it needs is read first, then the run is computed, then what it wrote is
carried out. -/
namespace EntitySieve

def Command.sources : Command → Sources
  | .render r => r.sources
  | .entities s _ => s
  | .detect s => s

/-- The cause that the system's error code names; a code may come with its sign turned. -/
def causeOfCode (code : UInt32) (details : String) : IoCause :=
  match min code (0 - code) with
  | 2 => .notFound
  | 20 => .notDirectory
  | 21 => .isDirectory
  | 36 => .nameTooLong
  | n => .other (details ++ " (os error " ++ toString n ++ ")").toList

def causeOf (e : IO.Error) : IoCause :=
  match e with
  | .noFileOrDirectory .. => .notFound
  | .inappropriateType _ c d => causeOfCode c d
  | .invalidArgument _ c d => causeOfCode c d
  | .permissionDenied _ c d => causeOfCode c d
  | e => .other (toString e).toList

def readPath (path : Text) : IO (Except IoCause ByteArray) := do
  match Path.parse path with
  | .error cause => return .error cause
  | .ok _ =>
    try return .ok (← IO.FS.readBinFile (String.ofList path))
    catch e => return .error (causeOf e)

def writePath (path : Text) (content : ByteArray) : IO (Option IoCause) := do
  try
    IO.FS.writeBinFile (String.ofList path) content
    return none
  catch e => return some (causeOf e)

def getVariable (name : String) : IO (Option Text) := do
  return (← IO.getEnv name).map String.toList

/-- What was read for a run: files, and standard input once it was asked for. -/
structure Intake where
  files : Snapshot
  stdin : Option ByteArray

namespace Intake

def empty : Intake := ⟨.empty, none⟩

def input (i : Intake) : ByteArray := i.stdin.getD .empty

def loads (i : Intake) (root : Option Text) (id : Text) : Bool :=
  ((consoleLoader i.files root).load id (Stdin.fresh i.input)).value.1.isOk

def take (i : Intake) (root : Option Text) (id : Text) : IO Intake := do
  if id = Stdin.sourceName then
    if i.stdin.isSome then return i
    return { i with stdin := some (← (← IO.getStdin).readBinToEnd) }
  else
    let path := Path.below root id
    return { i with files := i.files.add path (← readPath path) }

/-- Reads one source after the other up to the first that cannot be loaded. -/
def takeAll (i : Intake) (root : Option Text) : List Text → IO Intake
  | [] => return i
  | id :: ids => do
    let i ← i.take root id
    if i.loads root id then i.takeAll root ids else return i

end Intake

/-- Prints what a run shows; notes and log go to standard error. -/
def Outcome.print {φ : Type} (o : Outcome φ) : IO Unit := do
  let stderr ← IO.getStderr
  stderr.putStr (String.ofList (printed o.before))
  for e in o.events do
    stderr.putStrLn (String.ofList (ConsoleLog.layout o.logFormat e.1 e.2))
  let stdout ← IO.getStdout
  stdout.putStr (String.ofList o.stdout)
  stdout.flush
  stderr.putStr (String.ofList (printed o.after))

/-- Computes a run, writes its file, and computes it again if the file cannot be written. -/
def runCommand (args : List Text) (env : LogEnvironment) (i : Intake) :
    IO (Outcome Snapshot) := do
  let o := runProgram args env i.files i.input
  match o.files.written with
  | none => return o
  | some (path, content) =>
    match ← writePath path content with
    | none => return o
    | some cause => return runProgram args env { i.files with refusal := some cause } i.input

end EntitySieve

open EntitySieve in
def main (args : List String) : IO UInt32 := do
  let args := args.map String.toList
  let level ← getVariable "ERFILTER_LOG_LEVEL"
  let commonLevel ← getVariable "RUST_LOG"
  let format ← getVariable "ERFILTER_LOG_FORMAT"
  let env : LogEnvironment := ⟨level, commonLevel, format⟩
  let intake ← match Request.ofArguments args with
    | .ok q => Intake.empty.takeAll q.command.sources.root q.command.sources.files
    | .error _ => pure Intake.empty
  let o ← runCommand args env intake
  o.print
  return o.code.toUInt32
