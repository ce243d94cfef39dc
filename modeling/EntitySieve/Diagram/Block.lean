import EntitySieve.Diagram.Line

/-! The block that is open between two lines. Blocks do not nest: an opening line ends the block
before it, and a closing line leaves none. -/
namespace EntitySieve

structure Block where
  entity : Text
  skipped : Bool
  deriving DecidableEq

/-- The block that is open, if one is. -/
abbrev OpenBlock := Option Block

namespace OpenBlock

/-- Opens a block and says whether its opening line is kept. -/
def enter (entity : Text) (skipped : Bool) : OpenBlock × Bool := (some ⟨entity, skipped⟩, !skipped)

def isSkipped (b : OpenBlock) : Bool := b.any (·.skipped)

/-- Closes what is open and says whether the closing line is kept: with no block open it is. -/
def leave (b : OpenBlock) : OpenBlock × Bool := (none, !b.isSkipped)

/-- A body line is kept inside a block that is not skipped, and nowhere else. -/
def keepsBody (b : OpenBlock) : Bool := b.any fun x => !x.skipped

def entity? (b : OpenBlock) : Option Text := b.map (·.entity)

end OpenBlock
end EntitySieve
