import EntitySieve.Diagram.Line

/-! What a diagram declares. The lines are read as they are when entities are removed, so the names
listed here are the names that an exclusion matches. -/
namespace EntitySieve

structure Summary where
  /-- The entities with a block, each once, in the order of their first block. -/
  entities : List Text
  relationships : List Relationship
  deriving DecidableEq

namespace Summary

def ofText (t : Text) : Summary :=
  ⟨(entitiesOf (Text.lines t)).eraseDups, relationshipsOf (Text.lines t)⟩

/-- The entities that no relationship names. -/
def orphans (s : Summary) : List Text :=
  s.entities.filter fun e => s.relationships.all fun r => decide (e ∉ r.endpoints)

end Summary
end EntitySieve
