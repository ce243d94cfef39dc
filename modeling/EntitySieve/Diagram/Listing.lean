import EntitySieve.Diagram.Summary
import EntitySieve.Json.Quoted

/-! The summary of a diagram as JSON and as plain text. -/
namespace EntitySieve

/-- An endpoint that is missing is written as null. -/
def Relationship.toJson (r : Relationship) : Json :=
  .object [Json.member "first" (.ofText? r.first), Json.member "second" (.ofText? r.second)]

namespace Summary

def toJson (s : Summary) : Json :=
  .object
    [Json.member "entities" (.array (s.entities.map .ofText)),
     Json.member "relationships" (.array (s.relationships.map Relationship.toJson))]

/-- The lines of the plain listing. -/
def listing (s : Summary) : List Text :=
  let entities := s.entities.map fun e => ("  " ++ e : Text)
  let relationships := s.relationships.map fun r =>
    ("  " ++ r.first.getD "?" ++ " -- " ++ r.second.getD "?" : Text)
  let orphans : List Text :=
    if s.orphans.isEmpty then [] else ["", "Without relationships: " ++ Text.listed s.orphans]
  let heading (t : Text) : List Text := [t]
  heading "Entities:" ++ entities ++
    heading "" ++ heading "Relationships:" ++ relationships ++ orphans

end Summary
end EntitySieve
