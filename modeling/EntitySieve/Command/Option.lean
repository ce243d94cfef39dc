import EntitySieve.Log.Console
import EntitySieve.Render.Settings

/-! The options of the command line: how each is spelled, whether it takes a value and which values
it accepts. -/
namespace EntitySieve

inductive OutputFormat where
  | mmd
  | html
  deriving DecidableEq, Repr

def OutputFormat.ofName? (t : Text) : Option OutputFormat :=
  if t = "mmd".toList then some .mmd else if t = "html".toList then some .html else none

/-- A padding may have a sign and leading zeros. -/
def paddingOfText? (t : Text) : Option UInt32 := do
  let n ← match t with
    | '+' :: ds => Text.natural? ds
    | '-' :: ds => (Text.natural? ds).filter (· = 0)
    | ds => Text.natural? ds
  if n < UInt32.size then some n.toUInt32 else none

inductive OptionKey where
  | verbose
  | logLevel
  | logFormat
  | help
  | version
  | file
  | root
  | exclude
  | noPruneOrphans
  | format
  | output
  | padding
  | securityLevel
  | startOnLoad
  | title
  | json
  deriving DecidableEq, Repr

namespace OptionKey

def long : OptionKey → Text
  | verbose => "verbose"
  | logLevel => "log-level"
  | logFormat => "log-format"
  | help => "help"
  | version => "version"
  | file => "file"
  | root => "root"
  | exclude => "exclude"
  | noPruneOrphans => "no-prune-orphans"
  | format => "format"
  | output => "output"
  | padding => "padding"
  | securityLevel => "security-level"
  | startOnLoad => "start-on-load"
  | title => "title"
  | json => "json"

def short? : OptionKey → Option Char
  | verbose => some 'v'
  | help => some 'h'
  | version => some 'V'
  | file => some 'f'
  | exclude => some 'x'
  | output => some 'o'
  | _ => none

def takesValue : OptionKey → Bool
  | verbose | help | version | noPruneOrphans | startOnLoad | json => false
  | _ => true

/-- Whether an option may be used more than once. -/
def repeats : OptionKey → Bool
  | file | exclude => true
  | _ => false

def accepts : OptionKey → Text → Bool
  | logLevel, v => (Level.limitOfName? v).isSome
  | logFormat, v => (LogFormat.ofName? v).isSome
  | format, v => (OutputFormat.ofName? v).isSome
  | securityLevel, v => (SecurityLevel.ofName? v).isSome
  | padding, v => (paddingOfText? v).isSome
  | root, v => !v.isEmpty
  | output, v => !v.isEmpty
  | _, _ => true

/-- The options that hold before a command and after it. -/
def shared : List OptionKey := [verbose, logLevel, logFormat, help]

def beforeCommand : List OptionKey := version :: shared

def ofSources : List OptionKey := file :: root :: shared

end OptionKey

/-- One use of an option. The value of a flag is empty. -/
structure OptionUse where
  key : OptionKey
  value : Text
  deriving DecidableEq

namespace OptionUse

def values (k : OptionKey) (us : List OptionUse) : List Text :=
  (us.filter fun u => u.key = k).map (·.value)

def last? (k : OptionKey) (us : List OptionUse) : Option Text := (values k us).getLast?

def isUsed (k : OptionKey) (us : List OptionUse) : Bool := us.any fun u => u.key = k

/-- The items of a list option: every value splits at its commas. -/
def items (k : OptionKey) (us : List OptionUse) : List Text := (values k us).flatMap (·.splitOn ',')

end OptionUse
end EntitySieve
