import EntitySieve.Failure
import EntitySieve.Json.Fields
import EntitySieve.Json.Number
import EntitySieve.Json.Reader
import EntitySieve.Text.Lowercase

/-! The settings handed to the rendering engine, and their JSON form. -/
namespace EntitySieve

inductive SecurityLevel where
  | strict
  | loose
  | antiscript
  | sandbox
  deriving DecidableEq, Repr

namespace SecurityLevel

instance : Inhabited SecurityLevel := ⟨loose⟩

def all : List SecurityLevel := [strict, loose, antiscript, sandbox]

def name : SecurityLevel → Text
  | strict => "strict"
  | loose => "loose"
  | antiscript => "antiscript"
  | sandbox => "sandbox"

def ofName? (t : Text) : Option SecurityLevel := all.find? fun l => l.name = t

@[simp] theorem ofName?_name (l : SecurityLevel) : ofName? l.name = some l := by
  cases l <;> rfl

/-- Reads a name in any case. -/
def parse (t : Text) : Except Failure SecurityLevel :=
  let low := Text.lowercase t
  match ofName? low with
  | some l => .ok l
  | none => .error (.config ("Unknown security level: " ++ low))

def toJson (l : SecurityLevel) : Json := .ofText l.name

/-- A level is written as its name; an object whose one member has that name and is null will do. -/
def ofJson? : Json → Option SecurityLevel
  | .string body => do ofName? (← Json.unescape? body)
  | .object [(body, .null)] => do ofName? (← Json.unescape? body)
  | _ => none

end SecurityLevel

structure Settings where
  startOnLoad : Bool
  securityLevel : SecurityLevel
  /-- The padding around the diagram, in pixels. -/
  diagramPadding : UInt32
  deriving DecidableEq

namespace Settings

instance : Inhabited Settings := ⟨⟨false, default, 20⟩⟩

def toJson (s : Settings) : Json :=
  .object
    [Json.member "startOnLoad" (.bool s.startOnLoad),
     Json.member "securityLevel" s.securityLevel.toJson,
     Json.member "er" (.object [Json.member "diagramPadding" (.ofNat s.diagramPadding.toNat)])]

def text (s : Settings) : Text := s.toJson.compact

/-- A padding is a plain natural number of 32 bits. -/
def paddingOfJson? : Json → Option UInt32
  | .number literal => do
    let n ← Text.natural? literal
    if n < UInt32.size then some n.toUInt32 else none
  | _ => none

def ofJson? (v : Json) : Option Settings := do
  match ← v.fields? ["startOnLoad", "securityLevel", "er"] with
  | [.bool start, level, er] =>
    match ← er.fields? ["diagramPadding"] with
    | [padding] => return ⟨start, ← SecurityLevel.ofJson? level, ← paddingOfJson? padding⟩
    | _ => none
  | _ => none

def ofText? (t : Text) : Option Settings := do ofJson? (← Json.read? t)

end Settings
end EntitySieve
