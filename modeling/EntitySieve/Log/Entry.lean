import EntitySieve.Log.Record

/-! A log as a list of entries in the order of time. A record that the level hides leaves no entry,
and a span that it hides does not appear among the spans of an entry either. -/
namespace EntitySieve

inductive Entry where
  | opened (s : Span) (outer : List Text)
  | closed (s : Span) (outer : List Text)
  | event (e : Event) (outer : List Text)
  deriving DecidableEq

mutual

def Record.entries (least : Option Level) (outer : List Text) : Record → List Entry
  | .event e => if e.level.shownAt least then [.event e outer] else []
  | .span s inside =>
    if s.level.shownAt least then
      .opened s outer :: (Record.listEntries least (outer ++ [s.name]) inside ++ [.closed s outer])
    else Record.listEntries least outer inside

def Record.listEntries (least : Option Level) (outer : List Text) : List Record → List Entry
  | [] => []
  | r :: rs => Record.entries least outer r ++ Record.listEntries least outer rs

end

/-- The entries of a whole log. -/
def logEntries (least : Option Level) (log : List Record) : List Entry :=
  Record.listEntries least [] log

namespace Entry

/-- What a console shows: entering and leaving a span are events of the span's own level, and a span
that is being entered counts among the spans of that event. -/
def shown : Entry → Event × List Text
  | opened s outer => (⟨"enter", s.level, []⟩, outer ++ [s.name])
  | closed s outer => (⟨"exit", s.level, []⟩, outer)
  | event e outer => (e, outer)

end Entry
end EntitySieve
