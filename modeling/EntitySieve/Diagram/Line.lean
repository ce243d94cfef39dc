import EntitySieve.Text.Blank

/-! What one line of an entity-relationship diagram says. A line is read on its own, whatever stands
around it. -/
namespace EntitySieve

structure Relationship where
  first : Option Text
  second : Option Text
  deriving DecidableEq

/-- The entities that a relationship names. -/
def Relationship.endpoints (r : Relationship) : List Text := r.first.toList ++ r.second.toList

inductive Line where
  | header
  | relationship (r : Relationship)
  | opening (entity : Text)
  | closing
  | body
  deriving DecidableEq

namespace Line

def headerText : Text := "erDiagram"

/-- Each relationship arrow holds one of these. -/
def markers : List Text := ["||", "--|", "--o", "o--"]

/-- An arrow may hold a brace of its own, so markers are looked for before braces. -/
def read (line : Text) : Line :=
  let t := Text.trim line
  let words := Text.words t
  if t = headerText then .header
  else if markers.any (Text.contains · t) then .relationship ⟨words[0]?, words[2]?⟩
  else if '{' ∈ t then .opening (words.headD t)
  else if '}' ∈ t then .closing
  else .body

def relationship? : Line → Option Relationship
  | .relationship r => some r
  | _ => none

def entity? : Line → Option Text
  | .opening e => some e
  | _ => none

end Line

/-- The relationships of a text's lines, in order and with repeats. -/
def relationshipsOf (ls : List Text) : List Relationship :=
  ls.filterMap fun l => (Line.read l).relationship?

/-- The entities whose blocks the lines open, in order and with repeats. -/
def entitiesOf (ls : List Text) : List Text := ls.filterMap fun l => (Line.read l).entity?

end EntitySieve
