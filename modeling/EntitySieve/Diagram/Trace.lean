import EntitySieve.Diagram.Sieve
import EntitySieve.Log.Record

/-! The log of removing entities: one record for each verdict, in order, and a summary of each pass.
It is read off the same verdicts as the outcome. -/
namespace EntitySieve

/-- The field that names the entity of an open block; with no block open there is none. -/
def OpenBlock.fields (b : OpenBlock) : Fields :=
  match b.entity? with
  | some e => [("entity", .text e)]
  | none => []

/-- The record of one line, with the entity of the block that is open after it. -/
def Verdict.event (index : Nat) (v : Verdict) : Event :=
  ⟨"Scanned line", .trace, ("line", .count index) :: ("keep", .flag v.kept) :: v.block.fields⟩

def Verdict.events (vs : List Verdict) : List Record :=
  vs.zipIdx.map fun x => .event (x.1.event x.2)

/-- The last event of the exclusion pass. -/
def Verdict.exclusionEnding (vs : List Verdict) : Event :=
  ⟨"Exclusion pass completed", .debug,
    [("kept", .count (keptTexts vs).length),
     ("relationships_removed", .count (droppedRelationships vs).length),
     ("blocks_removed", .count (droppedEntities vs).length)]⟩

/-- The last event of the orphan pass. -/
def Verdict.orphanEnding (vs : List Verdict) : Event :=
  ⟨"Orphan pass completed", .debug,
    [("kept", .count (keptTexts vs).length), ("orphans", .count (droppedEntities vs).length)]⟩

def exclusionRecord (vs : List Verdict) : Record :=
  .span ⟨"exclusion_pass", .debug, []⟩ <|
    Verdict.events vs ++ [.event (Verdict.exclusionEnding vs)]

/-- The orphan pass first reports how many entities the kept lines name. -/
def orphanRecord (named : List Text) (vs : List Verdict) : Record :=
  .span ⟨"orphan_pass", .debug, []⟩ <|
    .event ⟨"Collected related entities", .debug,
        [("referenced", .count named.eraseDups.length)]⟩ ::
      (Verdict.events vs ++ [.event (Verdict.orphanEnding vs)])

def Passes.records (p : Passes) : List Record :=
  exclusionRecord p.exclusion ::
    ((p.orphan.map (orphanRecord (namedIn (Verdict.keptTexts p.exclusion)))).toList ++
      [.event ⟨"Diagram filtered", .info,
        [("lines_removed", .count p.stats.linesRemoved),
         ("relationships_removed", .count p.stats.relationshipsRemoved)]⟩])

def sieveSpan (m : Mode) (s : NameSet) (t : Text) : Span :=
  ⟨"filter_diagram", .debug,
    [("mode", .text m.name), ("excluded", .count s.size),
     ("input_len", .count (Text.byteLength t))]⟩

def sieveRecords (m : Mode) (s : NameSet) (t : Text) : List Record :=
  if s.isEmpty then [.event ⟨"Empty exclusion set, diagram unchanged", .debug, []⟩]
  else (Passes.run m s t).records

/-- Removes entities and logs the removal. -/
def sieveLogged (m : Mode) (s : NameSet) (t : Text) : Logged Sieved :=
  Logged.within (sieveSpan m s t) ⟨sieve m s t, sieveRecords m s t⟩

@[simp] theorem sieveLogged_value (m : Mode) (s : NameSet) (t : Text) :
    (sieveLogged m s t).value = sieve m s t := rfl

end EntitySieve
