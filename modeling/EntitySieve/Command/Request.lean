import EntitySieve.Command.Arguments
import EntitySieve.Plan

/-! What a command line asks for. -/
namespace EntitySieve

inductive CommandName where
  | render
  | entities
  | detect
  deriving DecidableEq, Repr

namespace CommandName

def all : List CommandName := [render, entities, detect]

def text : CommandName → Text
  | render => "render"
  | entities => "entities"
  | detect => "detect"

def ofText? (t : Text) : Option CommandName := all.find? fun c => c.text = t

def options : CommandName → List OptionKey
  | render =>
    [.exclude, .noPruneOrphans, .format, .output, .padding, .securityLevel, .startOnLoad, .title] ++
      OptionKey.ofSources
  | entities => .json :: OptionKey.ofSources
  | detect => OptionKey.ofSources

end CommandName

structure Sources where
  files : List Text
  root : Option Text
  deriving DecidableEq

structure RenderRequest where
  sources : Sources
  exclude : NameSet
  mode : Mode
  format : OutputFormat
  title : Option Text
  settings : Settings
  /-- The file to write; without one the output goes to standard output. -/
  output : Option Text
  deriving DecidableEq

inductive Command where
  | render (r : RenderRequest)
  | entities (sources : Sources) (json : Bool)
  | detect (sources : Sources)
  deriving DecidableEq

structure Request where
  verbose : Bool
  /-- The least level to log, if one is asked for. -/
  logLimit : Option (Option Level)
  logFormat : Option LogFormat
  command : Command
  deriving DecidableEq

def Sources.ofUses (us : List OptionUse) : Sources where
  files :=
    if OptionUse.isUsed .file us then OptionUse.items .file us else [defaultFile]
  root := OptionUse.last? .root us

/-- The names to exclude; empty ones are left out. -/
def excludedNames (us : List OptionUse) : NameSet :=
  NameSet.ofList ((OptionUse.items .exclude us).filter fun x => !x.isEmpty)

def Settings.ofUses (us : List OptionUse) : Settings where
  startOnLoad := OptionUse.isUsed .startOnLoad us
  securityLevel := ((OptionUse.last? .securityLevel us).bind SecurityLevel.ofName?).getD default
  diagramPadding :=
    ((OptionUse.last? .padding us).bind paddingOfText?).getD (default : Settings).diagramPadding

def RenderRequest.ofUses (us : List OptionUse) : RenderRequest where
  sources := Sources.ofUses us
  exclude := excludedNames us
  mode := if OptionUse.isUsed .noPruneOrphans us then .exclusionOnly else .pruneOrphans
  format := ((OptionUse.last? .format us).bind OutputFormat.ofName?).getD .mmd
  title := OptionUse.last? .title us
  settings := Settings.ofUses us
  output := (OptionUse.last? .output us).filter (· ≠ ['-'])

def Command.ofUses (c : CommandName) (us : List OptionUse) : Command :=
  match c with
  | .render => .render (RenderRequest.ofUses us)
  | .entities => .entities (Sources.ofUses us) (OptionUse.isUsed .json us)
  | .detect => .detect (Sources.ofUses us)

namespace Request

/-- A shared option counts before the command and after it; of two values the later one does. -/
def ofUses (c : CommandName) (before after : List OptionUse) : Request where
  verbose := OptionUse.isUsed .verbose (before ++ after)
  logLimit := (OptionUse.last? .logLevel (before ++ after)).bind Level.limitOfName?
  logFormat := (OptionUse.last? .logFormat (before ++ after)).bind LogFormat.ofName?
  command := Command.ofUses c after

/-- Whether the words after a request for help name a command at most. -/
def isHelpTopic : List Text → Bool
  | [] => true
  | [w] => w = "help".toList || (CommandName.ofText? w).isSome
  | _ => false

def ofArguments (args : List Text) : Except Stop Request := do
  match ← readOptions OptionKey.beforeCommand [] args with
  | (_, []) => .error .misuse
  | (before, w :: args) =>
    match CommandName.ofText? w with
    | some c =>
      match ← readOptions c.options [] args with
      | (after, []) => .ok (ofUses c before after)
      | (_, _ :: _) => .error .misuse
    | none => .error (if w = "help".toList && isHelpTopic args then .help else .misuse)

end Request
end EntitySieve
