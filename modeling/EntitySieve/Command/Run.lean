import EntitySieve.Command.Request
import EntitySieve.Diagram.Listing
import EntitySieve.Log.Console
import EntitySieve.Source.Stdin

/-! Running the command line over files, standard input and an environment, all given as values.
A command writes nothing before everything it needs has succeeded. -/
namespace EntitySieve

def programName : Text := "erfilter"

def programVersion : Text := "0.1.0"

/-- What a command prints to standard output and leaves as files, or why it fails. Notes go to
standard error either way, some before the log of the command and some after it. -/
structure Report (φ : Type) where
  before : List Text
  after : List Text
  result : Except Text (Text × φ)

/-- What is seen of a run from outside. -/
structure Outcome (φ : Type) where
  code : Nat
  stdout : Text
  /-- The notes before the log. -/
  before : List Text
  events : List (Event × List Text)
  logFormat : LogFormat
  /-- The notes after the log. -/
  after : List Text
  files : φ

variable {φ : Type} [FileStore φ]

def printed (ls : List Text) : Text := ls.flatMap fun l => l ++ ['\n']

/-- Standard error without the log. -/
def Outcome.stderr (o : Outcome φ) : Text := printed (o.before ++ o.after)

/-- Output on a terminal ends its last line. -/
def ended (t : Text) : Text :=
  if t.isEmpty || t.getLast? = some '\n' then t else t ++ ['\n']

namespace RenderRequest

def job (r : RenderRequest) : Job := Job.of r.sources.files r.exclude

def renderer (r : RenderRequest) : Renderer :=
  match r.format with
  | .mmd => .source
  | .html => .page (r.title.getD Page.defaultTitle) Page.moduleUrl

def plan (r : RenderRequest) (files : φ) : Plan Stdin :=
  ⟨consoleLoader files r.sources.root, r.mode, r.renderer, r.settings⟩

/-- The note on what is about to be done. -/
def intention (r : RenderRequest) : Text :=
  "Combining " ++ Text.ofNat r.job.files.length ++ " file(s), excluding [" ++
    Text.listed r.exclude.names ++ "] (" ++ r.mode.name ++ ")"

/-- The notes on what was removed. -/
def summary (s : Stats) : List Text :=
  let lines : Text :=
    "Removed " ++ Text.ofNat s.linesRemoved ++ " line(s), " ++
      Text.ofNat s.relationshipsRemoved ++ " relationship(s)"
  let names (title : Text) (es : List Text) : List Text :=
    if es.isEmpty then [] else [title ++ Text.listed es]
  lines :: (names "Excluded: " s.excludedEntities ++ names "Orphaned: " s.orphanedEntities)

/-- Delivers what was rendered: to a file, or else to standard output. -/
def deliver (r : RenderRequest) (files : φ) (rendered : Text) : Except Text (Text × φ) :=
  match r.output with
  | none => .ok (ended rendered, files)
  | some path =>
    match FileStore.write files path (Text.toUtf8 rendered) with
    | .ok files => .ok ([], files)
    | .error cause => .error ("Failed to write output file '" ++ path ++ "': " ++ cause.message)

def run (r : RenderRequest) (verbose : Bool) (files : φ) (stdin : ByteArray) :
    Logged (Report φ) := do
  let before := if verbose then [r.intention] else []
  let (outcome, _) ← (r.plan files).run r.job (Stdin.fresh stdin)
  match outcome with
  | .error f => return ⟨before, [], .error f.message⟩
  | .ok o =>
    let after := if verbose then summary o.stats else []
    return ⟨before, after, r.deliver files o.rendered⟩

end RenderRequest

/-- The joined text of sources. -/
def Sources.load (s : Sources) (files : φ) (stdin : ByteArray) : Logged (Except Failure Text) := do
  let (text, _) ← (consoleLoader files s.root).combine s.files (Stdin.fresh stdin)
  return text

def runEntities (s : Sources) (json : Bool) (files : φ) (stdin : ByteArray) :
    Logged (Report φ) := do
  match ← s.load files stdin with
  | .error f => return ⟨[], [], .error f.message⟩
  | .ok t =>
    let summary := Summary.ofText t
    let ls := if json then [summary.toJson.indented] else summary.listing
    return ⟨[], [], .ok (printed ls, files)⟩

def runDetect (s : Sources) (verbose : Bool) (files : φ) (stdin : ByteArray) :
    Logged (Report φ) := do
  match ← s.load files stdin with
  | .error f => return ⟨[], [], .error f.message⟩
  | .ok t =>
    let c := Confidence.ofText t
    let notes : List Text := if verbose then ["Confidence: " ++ c.text ++ "0"] else []
    return ⟨[], notes,
      if c.detects then .ok (printed [diagramType], files)
      else .error "Could not detect an ER diagram".toList⟩

def Command.run (c : Command) (verbose : Bool) (files : φ) (stdin : ByteArray) :
    Logged (Report φ) :=
  match c with
  | .render r => r.run verbose files stdin
  | .entities s json => runEntities s json files stdin
  | .detect s => runDetect s verbose files stdin

namespace Request

/-- Runs a command. A failure is the last note, and then the exit code is 1. -/
def run (r : Request) (env : LogEnvironment) (files : φ) (stdin : ByteArray) : Outcome φ :=
  let started := ConsoleLog.start r.logLimit r.logFormat env
  let warnings : List Text :=
    match started with
    | .ok _ => []
    | .error m => ["Warning: Failed to initialize logging: " ++ m]
  let greeting : List Text := if r.verbose then [programName ++ " v" ++ programVersion] else []
  let console := started.toOption.getD ⟨none, default⟩
  let done := r.command.run r.verbose files stdin
  let before := warnings ++ greeting ++ done.value.before
  let events := console.events done.log
  match done.value.result with
  | .ok (out, files) => ⟨0, out, before, events, console.format, done.value.after, files⟩
  | .error m => ⟨1, [], before, events, console.format, done.value.after ++ ["Error: " ++ m], files⟩

end Request

/-- How the command line is used. -/
def usage : List Text :=
  ["Usage: erfilter [OPTIONS] <COMMAND>",
   "",
   "Commands:",
   "  render    Filter diagram files and render the result",
   "  entities  List entities and relationships in diagram files",
   "  detect    Check whether the input is an ER diagram"]

/-- Runs the program with its arguments. Arguments that cannot be read end it with exit code 2. -/
def runProgram (args : List Text) (env : LogEnvironment) (files : φ) (stdin : ByteArray) :
    Outcome φ :=
  match Request.ofArguments args with
  | .ok r => r.run env files stdin
  | .error .version =>
    ⟨0, printed [programName ++ " " ++ programVersion], [], [], default, [], files⟩
  | .error .help => ⟨0, printed usage, [], [], default, [], files⟩
  | .error .misuse => ⟨2, [], usage, [], default, [], files⟩

end EntitySieve
