import EntitySieve.Diagram.Pass
import EntitySieve.NameSet

/-! Removing entities from a diagram. The exclusion pass drops the blocks of the excluded entities
and every relationship that names one; the orphan pass then drops the blocks of entities that no
kept relationship names. Kept lines are unchanged, and excluding nothing changes nothing. -/
namespace EntitySieve

inductive Mode where
  | exclusionOnly
  | pruneOrphans
  deriving DecidableEq, Repr

namespace Mode

instance : Inhabited Mode := ⟨pruneOrphans⟩

def name : Mode → Text
  | exclusionOnly => "exclusion-only"
  | pruneOrphans => "prune-orphans"

def prunesOrphans (m : Mode) : Bool := m = pruneOrphans

end Mode

/-- A relationship stays unless one of its endpoints is excluded; an absent endpoint never is. -/
def Policy.excluding (s : NameSet) : Policy where
  keeps r := r.endpoints.all fun e => decide (e ∉ s)
  skips e := decide (e ∈ s)

/-- Drops the blocks of the entities that are not named, and no relationship. -/
def Policy.onlyNamed (names : List Text) : Policy where
  keeps _ := true
  skips e := !names.any fun n => decide (n = e)

/-- The endpoints of the relationships in the lines, with repeats. -/
def namedIn (ls : List Text) : List Text := (relationshipsOf ls).flatMap (·.endpoints)

def exclusionPass (s : NameSet) (t : Text) : List Verdict :=
  (Policy.excluding s).scan none (Text.lines (Text.trim t))

def orphanPass (ls : List Text) : List Verdict := (Policy.onlyNamed (namedIn ls)).scan none ls

structure Stats where
  inputLines : Nat
  outputLines : Nat
  relationshipsRemoved : Nat := 0
  excludedEntities : List Text := []
  orphanedEntities : List Text := []
  deriving DecidableEq

def Stats.linesRemoved (s : Stats) : Nat := s.inputLines - s.outputLines

structure Sieved where
  text : Text
  stats : Stats
  deriving DecidableEq

/-- The verdicts of the passes: on every line, and on the lines kept so far if orphans go too. -/
structure Passes where
  exclusion : List Verdict
  orphan : Option (List Verdict)

namespace Passes

def run (m : Mode) (s : NameSet) (t : Text) : Passes :=
  let first := exclusionPass s t
  match m with
  | .exclusionOnly => ⟨first, none⟩
  | .pruneOrphans => ⟨first, some (orphanPass (Verdict.keptTexts first))⟩

def keptTexts (p : Passes) : List Text := Verdict.keptTexts (p.orphan.getD p.exclusion)

def stats (p : Passes) : Stats where
  inputLines := p.exclusion.length
  outputLines := p.keptTexts.length
  relationshipsRemoved := (Verdict.droppedRelationships p.exclusion).length
  excludedEntities := Verdict.droppedEntities p.exclusion
  orphanedEntities := (p.orphan.map Verdict.droppedEntities).getD []

def result (p : Passes) : Sieved := ⟨Text.ofLines p.keptTexts, p.stats⟩

end Passes

/-- The outcome of excluding nothing. -/
def untouched (t : Text) : Sieved :=
  let n := (Text.lines t).length
  ⟨t, { inputLines := n, outputLines := n }⟩

def sieve (m : Mode) (s : NameSet) (t : Text) : Sieved :=
  if s.isEmpty then untouched t else (Passes.run m s t).result

end EntitySieve
