import EntitySieve.Diagram.Block

/-! One pass over the lines of a diagram. It gives a verdict on every line; what is kept, what is
dropped and what is logged are read off the verdicts. -/
namespace EntitySieve

/-- What a pass decides by: which relationships stay and which entities lose their blocks. -/
structure Policy where
  keeps : Relationship → Bool
  skips : Text → Bool

structure Verdict where
  text : Text
  line : Line
  /-- The block that is open after the line. -/
  block : OpenBlock
  kept : Bool
  deriving DecidableEq

namespace Policy

/-- The open block after a line, and whether the line is kept. -/
def step (p : Policy) (b : OpenBlock) : Line → OpenBlock × Bool
  | .header => (b, true)
  | .relationship r => (b, p.keeps r)
  | .opening e => OpenBlock.enter e (p.skips e)
  | .closing => b.leave
  | .body => (b, b.keepsBody)

def judge (p : Policy) (b : OpenBlock) (text : Text) : Verdict :=
  let line := Line.read text
  let s := p.step b line
  ⟨text, line, s.1, s.2⟩

def scan (p : Policy) : OpenBlock → List Text → List Verdict
  | _, [] => []
  | b, l :: ls => p.judge b l :: scan p (p.judge b l).block ls

@[simp] theorem scan_texts (p : Policy) (b : OpenBlock) (ls : List Text) :
    (p.scan b ls).map (·.text) = ls := by
  induction ls generalizing b with
  | nil => rfl
  | cons l ls ih => simp [scan, judge, ih]

@[simp] theorem length_scan (p : Policy) (b : OpenBlock) (ls : List Text) :
    (p.scan b ls).length = ls.length := by
  rw [← List.length_map (·.text), scan_texts]

end Policy

namespace Verdict

def keptTexts (vs : List Verdict) : List Text := (vs.filter (·.kept)).map (·.text)

/-- The entities whose opening lines were dropped, with repeats. -/
def droppedEntities (vs : List Verdict) : List Text :=
  (vs.filter fun v => !v.kept).filterMap fun v => v.line.entity?

def droppedRelationships (vs : List Verdict) : List Relationship :=
  (vs.filter fun v => !v.kept).filterMap fun v => v.line.relationship?

theorem keptTexts_sublist (p : Policy) (b : OpenBlock) (ls : List Text) :
    (keptTexts (p.scan b ls)).Sublist ls := by
  simpa [keptTexts] using (List.filter_sublist (p := (·.kept)) (l := p.scan b ls)).map (·.text)

end Verdict
end EntitySieve
