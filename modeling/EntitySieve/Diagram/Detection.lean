import EntitySieve.Diagram.Line

/-! Whether a text is an entity-relationship diagram at all, and how sure that is. -/
namespace EntitySieve

inductive Confidence where
  | absent
  | fragment
  | header
  deriving DecidableEq, Repr

namespace Confidence

def tenths : Confidence → Nat
  | absent => 0
  | fragment => 6
  | header => 10

def text : Confidence → Text
  | absent => "0.0"
  | fragment => "0.6"
  | header => "1.0"

/-- A line that is empty or a comment says nothing about the kind of a diagram. -/
def isSignificant (line : Text) : Bool := !line.isEmpty && !(['%', '%'].isPrefixOf line)

/-- A header on the first significant line settles it; without one, arrows and blocks together make
a fragment of a diagram. -/
def ofText (t : Text) : Confidence :=
  if ((Text.endedLines t).map Text.trim).find? isSignificant = some Line.headerText then header
  else if Line.markers.any (Text.contains · t) && decide ('{' ∈ t) && decide ('}' ∈ t) then fragment
  else absent

def detects (c : Confidence) : Bool := 5 < c.tenths

end Confidence

def diagramType : Text := "er"

/-- The texts that mark a diagram of this type. -/
def diagramPatterns : List Text := Line.headerText :: Line.markers

end EntitySieve
