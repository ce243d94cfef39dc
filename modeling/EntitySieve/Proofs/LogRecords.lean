import EntitySieve.Diagram.Trace
import EntitySieve.Log.Entry

/-! Reading the log of a run. A reader knows the names of spans, messages and fields, and nothing of
verdicts. What it finds is a group of notes on lines for each pass, and the event that each pass ends
with. -/
namespace EntitySieve

/-- The event of an entry, with the names of the spans around it. -/
def Entry.event? : Entry → Option (Event × List Text)
  | .event e outer => some (e, outer)
  | _ => none

/-- The events of a log that have a message, in order. -/
def eventsOf (message : Text) (log : List Entry) : List (Event × List Text) :=
  (log.filterMap Entry.event?).filter fun x => message = x.1.message

namespace FieldValue

def count? : FieldValue → Option Nat
  | count n => some n
  | _ => none

def flag? : FieldValue → Option Bool
  | flag b => some b
  | _ => none

def text? : FieldValue → Option Text
  | text t => some t
  | _ => none

end FieldValue

def Event.field? (e : Event) (name : Text) : Option FieldValue := e.fields.lookup name

/-- What the record of a scanned line tells. -/
structure LineNote where
  line : Nat
  keep : Bool
  entity : Option Text
  deriving DecidableEq

/-- Reads the fields of a record; only the entity may be missing. -/
def LineNote.ofEvent? (e : Event) : Option LineNote := do
  let line ← (e.field? "line").bind FieldValue.count?
  let keep ← (e.field? "keep").bind FieldValue.flag?
  return ⟨line, keep, (e.field? "entity").bind FieldValue.text?⟩

/-- The notes on all scanned lines, each with the spans around its record; a record that cannot be
read gives none. -/
def lineNotes (log : List Entry) : List (List Text × Option LineNote) :=
  (eventsOf "Scanned line" log).map fun x => (x.2, LineNote.ofEvent? x.1)

/-- How a pass shows in a log: the name of its span, and the message that it ends with. -/
structure TracedPass where
  span : Text
  ending : Text

namespace TracedPass

def exclusion : TracedPass := ⟨"exclusion_pass", "Exclusion pass completed"⟩

def orphan : TracedPass := ⟨"orphan_pass", "Orphan pass completed"⟩

/-- The spans around the records of the pass. -/
def spans (p : TracedPass) : List Text := ["filter_diagram", p.span]

/-- The notes from inside the span of the pass. -/
def notes (p : TracedPass) (log : List Entry) : List LineNote :=
  (lineNotes log).filterMap fun x => if x.1 = p.spans then x.2 else none

section Notes
variable {p q : TracedPass}

theorem filterMap_own_notes (p : TracedPass) (ns : List LineNote) :
    (ns.map fun n => (p.spans, some n)).filterMap
      (fun x => if x.1 = p.spans then x.2 else none) = ns := by
  rw [List.filterMap_map]
  exact (congrArg (List.filterMap · ns) (funext fun _ => if_pos rfl)).trans List.filterMap_some

theorem filterMap_other_notes (h : q.spans ≠ p.spans) (ns : List LineNote) :
    (ns.map fun n => (q.spans, some n)).filterMap
      (fun x => if x.1 = p.spans then x.2 else none) = [] := by
  rw [List.filterMap_map]
  exact List.filterMap_eq_nil_iff.mpr fun _ _ => if_neg h

/-- Groups of records that stand in different spans are told apart. -/
theorem notes_of_lineNotes {log : List Entry} {first second : List LineNote}
    (hspans : p.spans ≠ q.spans)
    (h : lineNotes log = first.map (fun n => (p.spans, some n)) ++
      second.map fun n => (q.spans, some n)) :
    p.notes log = first ∧ q.notes log = second := by
  constructor
  · rw [notes, h, List.filterMap_append, filterMap_own_notes, filterMap_other_notes hspans.symm,
      List.append_nil]
  · rw [notes, h, List.filterMap_append, filterMap_own_notes, filterMap_other_notes hspans,
      List.nil_append]

end Notes
end TracedPass

theorem Level.shownAt_trace (l : Level) : l.shownAt (some .trace) = true := by
  cases l <;> rfl

theorem Record.listEntries_append (least : Option Level) (outer : List Text)
    (rs rs' : List Record) :
    listEntries least outer (rs ++ rs') =
      listEntries least outer rs ++ listEntries least outer rs' := by
  induction rs with
  | nil => rfl
  | cons r rs ih => simp [listEntries, ih]

theorem eventsOf_append (message : Text) (log rest : List Entry) :
    eventsOf message (log ++ rest) = eventsOf message log ++ eventsOf message rest := by
  rw [eventsOf, List.filterMap_append, List.filter_append]
  rfl

/-- The events with a message in the log of some records, at the level that hides none. -/
def tracedEvents (message : Text) (outer : List Text) (rs : List Record) :
    List (Event × List Text) :=
  eventsOf message (Record.listEntries (some .trace) outer rs)

section TracedEvents
variable (message : Text) (outer : List Text)

theorem tracedEvents_nil : tracedEvents message outer [] = [] := rfl

theorem tracedEvents_append (rs rs' : List Record) :
    tracedEvents message outer (rs ++ rs') =
      tracedEvents message outer rs ++ tracedEvents message outer rs' := by
  rw [tracedEvents, Record.listEntries_append, eventsOf_append]
  rfl

theorem tracedEvents_event (e : Event) (rs : List Record) :
    tracedEvents message outer (.event e :: rs) =
      (if message = e.message then [(e, outer)] else []) ++ tracedEvents message outer rs := by
  have hentries : Record.entries (some .trace) outer (.event e) = [.event e outer] := by
    rw [Record.entries, Level.shownAt_trace, if_pos rfl]
  rw [tracedEvents, Record.listEntries, hentries, eventsOf_append]
  congr 1
  simp [eventsOf, Entry.event?, List.filter_cons]

theorem tracedEvents_event_of_ne {message : Text} {e : Event} (h : message ≠ e.message)
    (rs : List Record) :
    tracedEvents message outer (.event e :: rs) = tracedEvents message outer rs := by
  rw [tracedEvents_event, if_neg h, List.nil_append]

/-- That a span is entered and left is no event. -/
theorem tracedEvents_span (s : Span) (inside rs : List Record) :
    tracedEvents message outer (.span s inside :: rs) =
      tracedEvents message (outer ++ [s.name]) inside ++ tracedEvents message outer rs := by
  have hclosed : eventsOf message [.closed s outer] = [] := rfl
  rw [tracedEvents, Record.listEntries, Record.entries, Level.shownAt_trace, if_pos rfl,
    eventsOf_append, ← List.singleton_append, eventsOf_append, eventsOf_append, hclosed,
    List.append_nil]
  rfl

theorem tracedEvents_verdicts (vs : List Verdict) :
    tracedEvents message outer (Verdict.events vs) =
      if message = "Scanned line" then vs.zipIdx.map fun x => (x.1.event x.2, outer) else [] := by
  rw [Verdict.events]
  induction vs.zipIdx with
  | nil => rw [List.map_nil, List.map_nil, ite_self, tracedEvents_nil]
  | cons x xs ih =>
    have hmessage : (x.1.event x.2).message = "Scanned line" := rfl
    rw [List.map_cons, tracedEvents_event, ih, hmessage]
    split <;> rfl

end TracedEvents

namespace Verdict

/-- The notes that a pass with these verdicts leaves. -/
def notes (vs : List Verdict) : List LineNote :=
  vs.zipIdx.map fun x => ⟨x.2, x.1.kept, x.1.block.entity?⟩

theorem ofEvent?_event (v : Verdict) (i : Nat) :
    LineNote.ofEvent? (v.event i) = some ⟨i, v.kept, v.block.entity?⟩ := by
  obtain ⟨text, line, block, kept⟩ := v
  cases block <;> rfl

theorem map_ofEvent?_events (spans : List Text) (vs : List Verdict) :
    (vs.zipIdx.map fun x => (x.1.event x.2, spans)).map (fun x => (x.2, LineNote.ofEvent? x.1)) =
      (notes vs).map fun n => (spans, some n) := by
  simp only [notes, List.map_map, Function.comp_def, ofEvent?_event]

end Verdict

namespace TracedPass

/-- The events with a message among the records of the lines of a pass and its last event. -/
def recorded (p : TracedPass) (ending : List Verdict → Event) (message : Text)
    (vs : List Verdict) : List (Event × List Text) :=
  (if message = "Scanned line" then vs.zipIdx.map fun x => (x.1.event x.2, p.spans) else []) ++
    if message = p.ending then [(ending vs, p.spans)] else []

section Recorded
variable {p : TracedPass} {ending : List Verdict → Event} {message : Text} (vs : List Verdict)

theorem recorded_scanned (h : p.ending ≠ "Scanned line") :
    p.recorded ending "Scanned line" vs = vs.zipIdx.map fun x => (x.1.event x.2, p.spans) := by
  rw [recorded, if_pos rfl, if_neg h.symm, List.append_nil]

theorem recorded_ending (h : p.ending ≠ "Scanned line") :
    p.recorded ending p.ending vs = [(ending vs, p.spans)] := by
  rw [recorded, if_neg h, if_pos rfl, List.nil_append]

theorem recorded_of_ne (hscanned : message ≠ "Scanned line") (hending : message ≠ p.ending) :
    p.recorded ending message vs = [] := by
  rw [recorded, if_neg hscanned, if_neg hending, List.append_nil]

end Recorded
end TracedPass

section Records
variable {message : Text} (vs : List Verdict) (rs : List Record)

theorem tracedEvents_exclusionRecord :
    tracedEvents message ["filter_diagram"] (exclusionRecord vs :: rs) =
      TracedPass.exclusion.recorded Verdict.exclusionEnding message vs ++
        tracedEvents message ["filter_diagram"] rs := by
  rw [exclusionRecord, tracedEvents_span, tracedEvents_append, tracedEvents_verdicts,
    tracedEvents_event, tracedEvents_nil, List.append_nil]
  rfl

theorem tracedEvents_orphanRecord (hcollected : message ≠ "Collected related entities")
    (named : List Text) :
    tracedEvents message ["filter_diagram"] (orphanRecord named vs :: rs) =
      TracedPass.orphan.recorded Verdict.orphanEnding message vs ++
        tracedEvents message ["filter_diagram"] rs := by
  rw [orphanRecord, tracedEvents_span, tracedEvents_event_of_ne _ (by exact hcollected),
    tracedEvents_append, tracedEvents_verdicts, tracedEvents_event, tracedEvents_nil,
    List.append_nil]
  rfl

/-- A message that only tells of lines or ends a pass is found in the records of the passes. -/
theorem tracedEvents_records (p : Passes) (hcollected : message ≠ "Collected related entities")
    (hfiltered : message ≠ "Diagram filtered") :
    tracedEvents message ["filter_diagram"] p.records =
      TracedPass.exclusion.recorded Verdict.exclusionEnding message p.exclusion ++
        p.orphan.toList.flatMap (TracedPass.orphan.recorded Verdict.orphanEnding message) := by
  rw [Passes.records, tracedEvents_exclusionRecord, tracedEvents_append,
    tracedEvents_event_of_ne _ (by exact hfiltered), tracedEvents_nil, List.append_nil]
  congr 1
  cases p.orphan with
  | none => rfl
  | some second => exact tracedEvents_orphanRecord second [] hcollected _

end Records

/-- The log of one run, at the level that hides nothing. -/
def sieveTrace (m : Mode) (s : NameSet) (t : Text) : List Entry :=
  logEntries (some .trace) (sieveLogged m s t).log

section Trace
variable {m : Mode} {s : NameSet} {t : Text}

theorem eventsOf_sieveTrace (hs : s.isEmpty = false) (message : Text) :
    eventsOf message (sieveTrace m s t) =
      tracedEvents message ["filter_diagram"] (Passes.run m s t).records := by
  have hlog : (sieveLogged m s t).log =
      [.span (sieveSpan m s t) (Passes.run m s t).records] := by
    rw [sieveLogged, Logged.within_log, sieveRecords, hs]
    rfl
  change tracedEvents message [] (sieveLogged m s t).log = _
  rw [hlog, tracedEvents_span, tracedEvents_nil, List.append_nil]
  rfl

theorem lineNotes_sieveTrace (hs : s.isEmpty = false) :
    lineNotes (sieveTrace m s t) =
      (Verdict.notes (Passes.run m s t).exclusion).map
          (fun n => (TracedPass.exclusion.spans, some n)) ++
        ((Passes.run m s t).orphan.toList.flatMap Verdict.notes).map
          fun n => (TracedPass.orphan.spans, some n) := by
  have hexclusion : TracedPass.exclusion.ending ≠ "Scanned line" := by decide
  have horphan : TracedPass.orphan.ending ≠ "Scanned line" := by decide
  rw [lineNotes, eventsOf_sieveTrace hs, tracedEvents_records _ (by decide) (by decide),
    List.map_append, TracedPass.recorded_scanned _ hexclusion, Verdict.map_ofEvent?_events,
    List.map_flatMap, List.map_flatMap]
  simp only [TracedPass.recorded_scanned _ horphan, Verdict.map_ofEvent?_events]

theorem notes_sieveTrace (hs : s.isEmpty = false) :
    TracedPass.exclusion.notes (sieveTrace m s t) = Verdict.notes (Passes.run m s t).exclusion ∧
      TracedPass.orphan.notes (sieveTrace m s t) =
        (Passes.run m s t).orphan.toList.flatMap Verdict.notes :=
  TracedPass.notes_of_lineNotes (by decide) (lineNotes_sieveTrace hs)

theorem exclusion_ending_sieveTrace (hs : s.isEmpty = false) :
    eventsOf TracedPass.exclusion.ending (sieveTrace m s t) =
      [(Verdict.exclusionEnding (Passes.run m s t).exclusion, TracedPass.exclusion.spans)] := by
  have hscanned : TracedPass.exclusion.ending ≠ "Scanned line" := by decide
  have hother : TracedPass.exclusion.ending ≠ TracedPass.orphan.ending := by decide
  rw [eventsOf_sieveTrace hs, tracedEvents_records _ (by decide) (by decide),
    TracedPass.recorded_ending _ hscanned,
    List.flatMap_eq_nil_iff.mpr fun _ _ => TracedPass.recorded_of_ne _ hscanned hother,
    List.append_nil]

theorem orphan_ending_sieveTrace (hs : s.isEmpty = false) :
    eventsOf TracedPass.orphan.ending (sieveTrace m s t) =
      (Passes.run m s t).orphan.toList.map fun vs =>
        (Verdict.orphanEnding vs, TracedPass.orphan.spans) := by
  have hscanned : TracedPass.orphan.ending ≠ "Scanned line" := by decide
  have hother : TracedPass.orphan.ending ≠ TracedPass.exclusion.ending := by decide
  rw [eventsOf_sieveTrace hs, tracedEvents_records _ (by decide) (by decide),
    TracedPass.recorded_of_ne _ hscanned hother, List.nil_append]
  cases (Passes.run m s t).orphan with
  | none => rfl
  | some second => exact TracedPass.recorded_ending second hscanned

end Trace
end EntitySieve
