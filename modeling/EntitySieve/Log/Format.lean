import EntitySieve.Log.Record
import EntitySieve.Text.Lowercase

/-! The formats of a printed log. -/
namespace EntitySieve

inductive LogFormat where
  | compact
  | pretty
  | json
  deriving DecidableEq, Repr

namespace LogFormat

instance : Inhabited LogFormat := ⟨compact⟩

def all : List LogFormat := [compact, pretty, json]

def name : LogFormat → Text
  | compact => "compact"
  | pretty => "pretty"
  | json => "json"

def ofName? (t : Text) : Option LogFormat := all.find? fun f => f.name = t

/-- Reads a name in any case; the message of a failure holds the name as it was given. -/
def parse (t : Text) : Except Text LogFormat :=
  match ofName? (Text.lowercase t) with
  | some f => .ok f
  | none => .error ("Unknown log format: " ++ t)

/-- How starting the log reports a format that is none. -/
def startFailure (message : Text) : Text := "Invalid log format: " ++ message

end LogFormat
end EntitySieve
