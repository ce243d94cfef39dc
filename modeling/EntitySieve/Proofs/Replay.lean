import EntitySieve.Proofs.LogRecords
import EntitySieve.Proofs.Survival

/-! The log of a run retells the run. The notes of a pass number the lines that it scans, and the
lines that they flag are the lines that the next pass scans, or the outcome. A flagged body line
stands in a block, and its note names the entity that the block was opened for. -/
namespace EntitySieve

/-- The lines that notes flag, found by their numbers. -/
def LineNote.flagged (ns : List LineNote) (ls : List Text) : List Text :=
  (ns.filter (·.keep)).filterMap fun n => ls[n.line]?

/-- The entity of the nearest opening line before a position. -/
def lastOpened? (ls : List Text) (i : Nat) : Option Text := (entitiesOf (ls.take i)).getLast?

/-- Whether a log tells of a pass over the lines: its notes number them, each flag stands for a
line, and the pass ends with the number of flags. A body line is flagged only in the block of the
nearest opening line before it. -/
structure TracedPass.TellsOf (p : TracedPass) (log : List Entry) (ls : List Text) : Prop where
  numbered : (p.notes log).map (·.line) = List.range ls.length
  found : (LineNote.flagged (p.notes log) ls).length = (p.notes log).countP (·.keep)
  counted : (eventsOf p.ending log).map (fun x => (x.2, x.1.field? "kept")) =
    [(p.spans, some (.count ((p.notes log).countP (·.keep))))]
  body_kept : ∀ n ∈ p.notes log, ls[n.line]?.map Line.read = some .body → n.keep = true →
    ∃ e, n.entity = some e ∧ lastOpened? ls n.line = some e

/-- The passes that a mode makes, in order. -/
def Mode.tracedPasses : Mode → List TracedPass
  | .exclusionOnly => [.exclusion]
  | .pruneOrphans => [.exclusion, .orphan]

/-- What the flags leave of the lines, pass by pass. -/
def replay (m : Mode) (log : List Entry) (ls : List Text) : List Text :=
  m.tracedPasses.foldl (fun left p => LineNote.flagged (p.notes log) left) ls

/-- Whether a log retells how the lines become the outcome. All its notes can be read, and they are
those of the passes that the mode makes. -/
structure Replays (m : Mode) (ls : List Text) (outcome : Text) (log : List Entry) : Prop where
  noted : lineNotes log =
    m.tracedPasses.flatMap fun p => (p.notes log).map fun n => (p.spans, some n)
  exclusion : TracedPass.exclusion.TellsOf log ls
  orphan : m = .pruneOrphans →
    TracedPass.orphan.TellsOf log (LineNote.flagged (TracedPass.exclusion.notes log) ls)
  outcome_eq : outcome = Text.ofLines (replay m log ls)

namespace Verdict

theorem mem_notes {vs : List Verdict} {n : LineNote} :
    n ∈ notes vs ↔ ∃ v, vs[n.line]? = some v ∧ n.keep = v.kept ∧ n.entity = v.block.entity? := by
  simp only [notes, List.mem_map, List.mem_zipIdx_iff_getElem?]
  constructor
  · rintro ⟨x, hx, rfl⟩
    exact ⟨x.1, hx, rfl, rfl⟩
  · rintro ⟨v, hv, hkeep, hentity⟩
    exact ⟨(v, n.line), hv, by rw [← hkeep, ← hentity]⟩

theorem map_line_notes (vs : List Verdict) : (notes vs).map (·.line) = List.range vs.length := by
  rw [notes, List.map_map, List.range_eq_range', ← List.zipIdx_map_snd 0 vs]
  rfl

theorem map_keep_notes (vs : List Verdict) : (notes vs).map (·.keep) = vs.map (·.kept) := by
  have hkept : (notes vs).map (·.keep) = (vs.zipIdx.map Prod.fst).map (·.kept) := by
    rw [notes, List.map_map, List.map_map]
    rfl
  rw [hkept, List.zipIdx_map_fst]

theorem countP_notes (vs : List Verdict) : (notes vs).countP (·.keep) = (keptTexts vs).length := by
  calc (notes vs).countP (·.keep)
      = ((notes vs).map (·.keep)).countP id := by rw [List.countP_map]; rfl
    _ = vs.countP (·.kept) := by rw [map_keep_notes, List.countP_map]; rfl
    _ = (keptTexts vs).length := by rw [keptTexts, List.length_map, List.countP_eq_length_filter]

/-- The lines that the notes flag are the lines that the pass keeps. -/
theorem flagged_notes (vs : List Verdict) :
    LineNote.flagged (notes vs) (vs.map (·.text)) = keptTexts vs := by
  have hkeep : ∀ n ∈ notes vs, n.keep = keptAt vs n.line := by
    intro n hn
    obtain ⟨v, hv, hkept, -⟩ := mem_notes.mp hn
    rw [keptAt, hv, hkept]
    rfl
  rw [keptTexts_eq_linesAt, linesAt, ← map_line_notes, List.filter_map, List.filterMap_map,
    LineNote.flagged, List.filter_congr hkeep]
  rfl

end Verdict

namespace Policy
variable {p : Policy}

theorem entity?_step (p : Policy) (b : OpenBlock) (l : Line) :
    (p.step b l).1.entity? = l.ownerAfter b.entity? := by
  cases l <;> rfl

/-- The entity of an open block is the last one that an opening line names, if there is any. -/
theorem getLast?_entitiesOf_of_after {b : OpenBlock} {x : Block} {ls : List Text}
    (h : p.after b ls = some x) : (entitiesOf ls).getLast?.or b.entity? = some x.entity := by
  induction ls generalizing b with
  | nil =>
    rw [after_nil] at h
    simp [h, entitiesOf, OpenBlock.entity?]
  | cons l ls ih =>
    have hrest : (entitiesOf ls).getLast?.or ((Line.read l).ownerAfter b.entity?) =
        some x.entity := by
      rw [← p.entity?_step]
      exact ih h
    rw [entitiesOf_cons, List.getLast?_append, Option.or_assoc]
    cases hl : Line.read l with
    | header | relationship | body | opening =>
      simpa [hl, Line.ownerAfter, Line.entity?] using hrest
    | closing =>
      -- No block is open after this line, so it is a later line that opens one.
      have hlast : (entitiesOf ls).getLast? = some x.entity := by
        simpa [hl, Line.ownerAfter] using hrest
      rw [hlast, Option.some_or]

theorem flagged_notes_scan (p : Policy) (ls : List Text) :
    LineNote.flagged (Verdict.notes (p.scan none ls)) ls = Verdict.keptTexts (p.scan none ls) := by
  have h := Verdict.flagged_notes (p.scan none ls)
  rwa [scan_texts] at h

/-- A body line is kept only in an open block, and the note on it names the block's entity. -/
theorem entity_of_body_kept {ls : List Text} {n : LineNote}
    (hn : n ∈ Verdict.notes (p.scan none ls)) (hbody : ls[n.line]?.map Line.read = some .body)
    (hkeep : n.keep = true) :
    ∃ e, n.entity = some e ∧ lastOpened? ls n.line = some e := by
  obtain ⟨v, hv, hkept, hentity⟩ := Verdict.mem_notes.mp hn
  rw [scan_getElem?, Option.map_eq_some_iff] at hv
  obtain ⟨l, hl, rfl⟩ := hv
  have hread : Line.read l = .body := by simpa [hl] using hbody
  have hopen : (p.after none (ls.take n.line)).keepsBody = true := by
    rw [← hkeep, hkept, judge, hread]
    rfl
  obtain ⟨x, hx, -⟩ := (Option.any_eq_true _ _).mp hopen
  have hlast : lastOpened? ls n.line = some x.entity := by
    simpa [lastOpened?, OpenBlock.entity?] using getLast?_entitiesOf_of_after hx
  refine ⟨x.entity, ?_, hlast⟩
  rw [hentity, judge, hread, hx]
  rfl

end Policy

/-- Whatever a pass decides by, a log with its notes and its number of kept lines tells of it. -/
theorem TracedPass.tellsOf_scan {p : TracedPass} {log : List Entry} {q : Policy} {ls : List Text}
    (hnotes : p.notes log = Verdict.notes (q.scan none ls))
    (hcounted : (eventsOf p.ending log).map (fun x => (x.2, x.1.field? "kept")) =
      [(p.spans, some (.count (Verdict.keptTexts (q.scan none ls)).length))]) :
    p.TellsOf log ls where
  numbered := by rw [hnotes, Verdict.map_line_notes, Policy.length_scan]
  found := by rw [hnotes, Policy.flagged_notes_scan, Verdict.countP_notes]
  counted := by rw [hcounted, hnotes, Verdict.countP_notes]
  body_kept n hn hbody hkeep := Policy.entity_of_body_kept (hnotes ▸ hn) hbody hkeep

section Run
variable {m : Mode} {s : NameSet} {t : Text}

theorem exclusion_notes_sieveTrace (hs : s.isEmpty = false) :
    TracedPass.exclusion.notes (sieveTrace m s t) = Verdict.notes (exclusionPass s t) := by
  rw [(notes_sieveTrace hs).1, Passes.exclusion_run]

theorem orphan_notes_sieveTrace (hs : s.isEmpty = false) :
    TracedPass.orphan.notes (sieveTrace .pruneOrphans s t) =
      Verdict.notes (orphanPass (Verdict.keptTexts (exclusionPass s t))) :=
  (notes_sieveTrace hs).2.trans (List.append_nil _)

theorem flagged_exclusion_notes (hs : s.isEmpty = false) :
    LineNote.flagged (TracedPass.exclusion.notes (sieveTrace m s t)) (Text.lines (Text.trim t)) =
      Verdict.keptTexts (exclusionPass s t) := by
  rw [exclusion_notes_sieveTrace hs]
  exact Policy.flagged_notes_scan _ _

theorem exclusion_tellsOf (hs : s.isEmpty = false) :
    TracedPass.exclusion.TellsOf (sieveTrace m s t) (Text.lines (Text.trim t)) := by
  refine TracedPass.tellsOf_scan (exclusion_notes_sieveTrace hs) ?_
  rw [exclusion_ending_sieveTrace hs, Passes.exclusion_run]
  rfl

theorem orphan_tellsOf (hs : s.isEmpty = false) :
    TracedPass.orphan.TellsOf (sieveTrace .pruneOrphans s t)
      (Verdict.keptTexts (exclusionPass s t)) := by
  refine TracedPass.tellsOf_scan (orphan_notes_sieveTrace hs) ?_
  rw [orphan_ending_sieveTrace hs]
  rfl

theorem lineNotes_eq_flatMap (hs : s.isEmpty = false) :
    lineNotes (sieveTrace m s t) = m.tracedPasses.flatMap fun p =>
      (p.notes (sieveTrace m s t)).map fun n => (p.spans, some n) := by
  have hall := lineNotes_sieveTrace (m := m) (t := t) hs
  rw [← (notes_sieveTrace hs).1, ← (notes_sieveTrace hs).2] at hall
  cases m with
  | exclusionOnly =>
    have hnone : TracedPass.orphan.notes (sieveTrace .exclusionOnly s t) = [] :=
      (notes_sieveTrace hs).2
    rw [hall, hnone, Mode.tracedPasses, List.flatMap_singleton]
    exact List.append_nil _
  | pruneOrphans =>
    rw [hall, Mode.tracedPasses, List.flatMap_cons, List.flatMap_singleton]

theorem replay_sieveTrace (hs : s.isEmpty = false) :
    replay m (sieveTrace m s t) (Text.lines (Text.trim t)) = (Passes.run m s t).keptTexts := by
  cases m with
  | exclusionOnly => exact flagged_exclusion_notes hs
  | pruneOrphans =>
    rw [replay, Mode.tracedPasses, List.foldl_cons, flagged_exclusion_notes hs, List.foldl_cons,
      orphan_notes_sieveTrace hs]
    exact Policy.flagged_notes_scan _ _

end Run

/-- The log of a run retells how the scanned lines become its outcome. -/
theorem log_replays_sieve (m : Mode) {s : NameSet} (hs : s.isEmpty = false) (t : Text) :
    Replays m (Text.lines (Text.trim t)) (sieveLogged m s t).value.text (sieveTrace m s t) where
  noted := lineNotes_eq_flatMap hs
  exclusion := exclusion_tellsOf hs
  orphan hm := by
    subst hm
    rw [flagged_exclusion_notes hs]
    exact orphan_tellsOf hs
  outcome_eq := by rw [sieveLogged_value, sieve_text m hs, replay_sieveTrace hs]

/-- The block of B replaces the block of A, whose last line then stands in no block, and C is an
orphan. -/
def tracedBlocks : Text :=
  Text.ofLines ["", "erDiagram", "A \x7b", " x", "B \x7b", " y", "\x7d", " z", "C \x7b", " w",
    "\x7d", "A || D", " "]

theorem log_replays_sieve_tracedBlocks :
    (NameSet.ofList ["B"]).isEmpty = false ∧
      Replays .pruneOrphans (Text.lines (Text.trim tracedBlocks))
        (Text.ofLines ["erDiagram", "A \x7b", " x", "A || D"])
        (sieveTrace .pruneOrphans (.ofList ["B"]) tracedBlocks) ∧
      TracedPass.orphan.notes (sieveTrace .pruneOrphans (.ofList ["B"]) tracedBlocks) =
        [⟨0, true, none⟩, ⟨1, true, some "A"⟩, ⟨2, true, some "A"⟩, ⟨3, false, some "C"⟩,
          ⟨4, false, some "C"⟩, ⟨5, false, none⟩, ⟨6, true, none⟩] := by
  have hs : (NameSet.ofList ["B"]).isEmpty = false := by decide
  have houtcome : (sieveLogged .pruneOrphans (.ofList ["B"]) tracedBlocks).value.text =
      Text.ofLines ["erDiagram", "A \x7b", " x", "A || D"] := by decide +kernel
  have h := log_replays_sieve .pruneOrphans hs tracedBlocks
  rw [houtcome] at h
  exact ⟨hs, h, by decide +kernel⟩

end EntitySieve
