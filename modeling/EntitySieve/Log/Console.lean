import EntitySieve.Json.Number
import EntitySieve.Json.Quoted
import EntitySieve.Log.Entry
import EntitySieve.Log.Format

/-! A log on the console: when it starts, what it shows and how a line of it is laid out. -/
namespace EntitySieve

/-- The environment variables that set up a log, as far as they are set. -/
structure LogEnvironment where
  level : Option Text
  /-- The level for programs that have no variable of their own. -/
  commonLevel : Option Text
  format : Option Text
  deriving DecidableEq

/-- The least severe level that a log shows, under its name; a log that is off shows none. -/
def Level.limitOfName? (t : Text) : Option (Option Level) :=
  if t = "off".toList then some none else (Level.all.find? fun l => l.name = t).map some

structure ConsoleLog where
  least : Option Level
  format : LogFormat
  deriving DecidableEq

namespace ConsoleLog

/-- An explicit limit wins over the environment, where names may have any case; a name that is no
level counts as the default. -/
def limit (explicit : Option (Option Level)) (env : LogEnvironment) : Option Level :=
  match explicit with
  | some l => l
  | none =>
    match env.level.or env.commonLevel with
    | some t => (Level.limitOfName? (t.map Char.toLower)).getD (some .info)
    | none => some .info

/-- Fails with the message of a format that is none. -/
def start (explicitLimit : Option (Option Level)) (explicitFormat : Option LogFormat)
    (env : LogEnvironment) : Except Text ConsoleLog :=
  let least := limit explicitLimit env
  match explicitFormat, env.format with
  | some f, _ => .ok ⟨least, f⟩
  | none, none => .ok ⟨least, default⟩
  | none, some t =>
    match LogFormat.parse t with
    | .ok f => .ok ⟨least, f⟩
    | .error m => .error (LogFormat.startFailure m)

/-- Only the compact format leaves out that a span is entered or left. -/
def shows (c : ConsoleLog) (e : Entry) : Bool :=
  match e with
  | .event .. => true
  | _ => c.format != .compact

/-- The events of a log that the console shows, each with its spans. -/
def events (c : ConsoleLog) (log : List Record) : List (Event × List Text) :=
  ((logEntries c.least log).filter c.shows).map (·.shown)

def fieldJson : FieldValue → Json
  | .count n => .ofNat n
  | .flag b => .bool b
  | .text t => .ofText t

def fieldText : FieldValue → Text
  | .count n => Text.ofNat n
  | .flag b => if b then "true" else "false"
  | .text t => t

/-- One event on one line. -/
def layout (format : LogFormat) (e : Event) (spans : List Text) : Text :=
  match format with
  | .json =>
    let message := Json.member "message" (.ofText e.message)
    let fields := e.fields.map fun f => Json.member f.1 (fieldJson f.2)
    Json.compact (.object
      [Json.member "level" (.ofText e.level.name),
       Json.member "fields" (.object (message :: fields)),
       Json.member "spans" (.array (spans.map .ofText))])
  | _ =>
    let fields := e.fields.map fun f => (" " ++ f.1 ++ "=" ++ fieldText f.2 : Text)
    let spans := spans.map fun s => (s ++ ": " : Text)
    e.level.name ++ " " ++ spans.flatten ++ e.message ++ fields.flatten

end ConsoleLog
end EntitySieve
