import EntitySieve.Proofs.Indentation

/-! What a text looks like, read off the kinds of its lines. A header that comes first among the
lines that are neither blank nor a comment settles it; else it takes a relationship and braces. No
marker reaches over the end of a line, so looking for markers in the whole text finds the
relationships. A pass drops no header, and what stands before the first one stays blank or a
comment, so an outcome still begins with its header. -/
namespace EntitySieve

namespace Confidence
variable {t : Text}

/-- The lines that are neither blank nor a comment. -/
def significantLines (t : Text) : List Text :=
  (Text.lines t).filter fun l => decide (Text.trim l ≠ [] ∧ ¬ ['%', '%'] <+: Text.trim l)

theorem isSignificant_iff {l : Text} :
    isSignificant l = true ↔ l ≠ [] ∧ ¬ ['%', '%'] <+: l := by
  rw [isSignificant, Bool.and_eq_true, Bool.not_eq_true', Bool.not_eq_true',
    List.isEmpty_eq_false_iff, ← Bool.not_eq_true (List.isPrefixOf _ _), List.isPrefixOf_iff_prefix]

theorem ofText_eq_header_iff :
    ofText t = .header ↔ (Text.bareLines t).find? isSignificant = some Line.headerText := by
  rw [ofText, find?_endedLines]
  split
  · rename_i h
    exact iff_of_true rfl h
  · rename_i h
    refine iff_of_false ?_ h
    split <;> simp

theorem head?_significantLines :
    (Text.bareLines t).find? isSignificant = (significantLines t).head?.map Text.trim := by
  rw [Text.bareLines, List.find?_map, significantLines, List.head?_filter]
  congr 2
  funext l
  rw [Function.comp_apply, Bool.eq_iff_iff, isSignificant_iff, decide_eq_true_iff]

/-- A text looks like a diagram for sure if its first significant line is a header. -/
theorem ofText_eq_header_iff_exists :
    ofText t = .header ↔ ∃ l, (significantLines t).head? = some l ∧ Line.read l = .header := by
  rw [ofText_eq_header_iff, head?_significantLines, Option.map_eq_some_iff]
  simp only [Line.read_eq_header_iff]

/-- A marker stands in a text exactly if one of the lines is a relationship. -/
theorem hasMarker_iff_exists_relationship :
    Line.HasMarker t ↔ ∃ l ∈ Text.lines t, ∃ r, Line.read l = .relationship r := by
  have hread (l : Text) :
      (∃ r, Line.read l = .relationship r) ↔ Line.HasMarker (Text.trim l) := by
    simp only [Line.read_eq_relationship_iff, exists_and_left, exists_eq, and_true]
  rw [hasMarker_iff_exists_bareLine, Text.bareLines]
  simp only [List.mem_map, exists_exists_and_eq_and, hread]

/-- Without a header in front, markers and braces anywhere in the text decide. -/
theorem ofText_of_ne_header (h : ofText t ≠ .header) :
    ofText t = if Line.HasMarker t ∧ '{' ∈ t ∧ '}' ∈ t then .fragment else .absent := by
  unfold ofText at h ⊢
  split at h
  · contradiction
  · rename_i hfirst
    rw [if_neg hfirst]
    simp only [Bool.and_eq_true, decide_eq_true_eq, Line.any_contains_iff, and_assoc]

theorem ofText_eq_fragment_iff :
    ofText t = .fragment ↔ ofText t ≠ .header ∧ Line.HasMarker t ∧ '{' ∈ t ∧ '}' ∈ t := by
  by_cases hheader : ofText t = .header
  · simp [hheader]
  · rw [ofText_of_ne_header hheader]
    split <;> simp_all

theorem ofText_eq_absent_iff :
    ofText t = .absent ↔ ofText t ≠ .header ∧ ofText t ≠ .fragment := by
  cases ofText t <;> simp

theorem tenths_inj {c d : Confidence} : c.tenths = d.tenths ↔ c = d := by
  cases c <;> cases d <;> decide

theorem detects_iff {c : Confidence} : c.detects = true ↔ c = .header ∨ c = .fragment := by
  cases c <;> decide

/-- The confidence in a text is one of three, by the kinds of its lines: ten tenths if the first
line that is neither blank nor a comment is a header; else six if a line is a relationship and both
braces stand in the text; else none. Above one half, a text is taken for a diagram. -/
theorem confidence_reads_lines (t : Text) :
    ((ofText t).tenths = 10 ↔
        ∃ l, (significantLines t).head? = some l ∧ Line.read l = .header) ∧
      ((ofText t).tenths = 6 ↔ (ofText t).tenths ≠ 10 ∧
        (∃ l ∈ Text.lines t, ∃ r, Line.read l = .relationship r) ∧ '{' ∈ t ∧ '}' ∈ t) ∧
      ((ofText t).tenths = 0 ↔ (ofText t).tenths ≠ 10 ∧ (ofText t).tenths ≠ 6) ∧
      ((ofText t).detects = true ↔ (ofText t).tenths = 10 ∨ (ofText t).tenths = 6) := by
  have hheader : (ofText t).tenths = 10 ↔ ofText t = .header := tenths_inj (d := header)
  have hfragment : (ofText t).tenths = 6 ↔ ofText t = .fragment := tenths_inj (d := fragment)
  have habsent : (ofText t).tenths = 0 ↔ ofText t = .absent := tenths_inj (d := absent)
  rw [ne_eq, ne_eq, hheader, hfragment, habsent, ← hasMarker_iff_exists_relationship]
  exact ⟨ofText_eq_header_iff_exists, ofText_eq_fragment_iff, ofText_eq_absent_iff, detects_iff⟩

end Confidence

namespace Policy
variable {p : Policy} {b : OpenBlock} {t : Text} {ls : List Text}

/-- What is read of the bare lines of an outcome is read of the bare lines that a pass keeps. -/
theorem apply_bareLines_pass {β : Sort _} {f : List Text → β} (hf : f [[]] = f []) (p : Policy)
    (t : Text) :
    f (Text.bareLines (p.pass t)) = f (Verdict.keptTexts (p.scan none (Text.bareLines t))) := by
  rw [pass, Text.bareLines_ofLines fun l => newline_not_mem_of_mem_keptTexts_scan, Text.bareLines,
    scan_map_trim, Verdict.keptTexts_map_bare]
  split
  · rename_i hnil
    rw [hnil, hf]
  · rfl

/-- A pass keeps every header. -/
theorem count_header_keptTexts (p : Policy) (b : OpenBlock) (ls : List Text) :
    ((Verdict.keptTexts (p.scan b ls)).map Line.read).count .header =
      (ls.map Line.read).count .header := by
  induction ls generalizing b with
  | nil => rfl
  | cons l ls ih =>
    rw [Verdict.keptTexts_scan_cons, List.map_append, List.count_append, ih, List.map_cons,
      List.count_cons]
    cases hl : Line.read l with
    | header => simp [step, hl, Nat.add_comm]
    | relationship | opening | closing | body => split <;> simp [hl]

/-- If the first significant line is a header, the first one that a pass keeps is that header. -/
theorem find?_keptTexts (h : ls.find? Confidence.isSignificant = some Line.headerText) :
    (Verdict.keptTexts (p.scan b ls)).find? Confidence.isSignificant = some Line.headerText := by
  induction ls generalizing b with
  | nil => contradiction
  | cons l ls ih =>
    rw [Verdict.keptTexts_scan_cons]
    cases hl : Confidence.isSignificant l with
    | true =>
      rw [List.find?_cons_of_pos hl] at h
      obtain rfl := Option.some.inj h
      have hread : Line.read Line.headerText = .header := by decide
      simp [hread, step, hl]
    | false =>
      -- The line is blank or a comment, so it does not matter whether it is kept.
      rw [List.find?_cons_of_neg (by simp [hl])] at h
      have hrest := ih (b := (p.step b (Line.read l)).1) h
      split <;> simpa [hl] using hrest

theorem count_header_pass (p : Policy) (t : Text) :
    (Text.kinds (p.pass t)).count .header = (Text.kinds t).count .header := by
  rw [pass, Text.apply_kinds_ofLines (f := List.count .header) rfl
    fun l => newline_not_mem_of_mem_keptTexts_scan]
  exact count_header_keptTexts p none _

theorem ofText_pass_eq_header (p : Policy) (h : Confidence.ofText t = .header) :
    Confidence.ofText (p.pass t) = .header := by
  rw [Confidence.ofText_eq_header_iff] at h ⊢
  rw [apply_bareLines_pass (f := List.find? Confidence.isSignificant) rfl]
  exact find?_keptTexts h

end Policy

theorem Text.count_header_trim (t : Text) :
    (kinds (trim t)).count .header = (kinds t).count .header :=
  apply_kinds_trim (f := List.count .header) (fun ls => by simp) (fun ls => by simp) t

theorem Confidence.ofText_trim_eq_header {t : Text} (h : ofText t = .header) :
    ofText (Text.trim t) = .header := by
  rw [ofText_eq_header_iff] at h ⊢
  have hempty : isSignificant [] = false := rfl
  rw [Text.apply_bareLines_trim (f := List.find? isSignificant) (fun ls => by simp [hempty])
    (fun ls => by simp [hempty]), h]

/-- Sieving drops no header, and a text that begins with a header for sure still does after it. -/
theorem sieve_keeps_headers (m : Mode) (s : NameSet) (t : Text) :
    (Text.kinds (sieve m s t).text).count .header = (Text.kinds t).count .header ∧
      (Confidence.ofText t = .header → Confidence.ofText (sieve m s t).text = .header) := by
  constructor
  · apply sieve_text_keeps (P := fun u => (Text.kinds u).count .header = _)
    · intro u hu
      rw [Text.count_header_trim, hu]
    · intro p u hu
      rw [Policy.count_header_pass, hu]
    · rfl
  · apply sieve_text_keeps (P := fun u => Confidence.ofText u = .header)
    · intro u hu
      exact Confidence.ofText_trim_eq_header hu
    · intro p u hu
      exact p.ofText_pass_eq_header hu

/-- Comments before the header that read as relationships and as an opening line, one after it that
reads as a closing line, and a second header inside a block. -/
def commentedText : Text :=
  Text.ofLines ["", "  %%A || B", "%%C || D", "%% A \x7b", "%% x", "erDiagram", "%% \x7d", "A \x7b",
    "erDiagram", "\x7d", "C || D"]

theorem sieve_keeps_headers_commentedText :
    Confidence.ofText commentedText = .header ∧
      (sieve .pruneOrphans (.ofList ["A", "B"]) commentedText).text =
        Text.ofLines ["%%C || D", "erDiagram", "erDiagram", "C || D"] ∧
      Confidence.ofText (sieve .pruneOrphans (.ofList ["A", "B"]) commentedText).text =
        .header := by
  have h : Confidence.ofText commentedText = .header := by decide +kernel
  exact ⟨h, by decide +kernel, (sieve_keeps_headers .pruneOrphans (.ofList ["A", "B"]) _).2 h⟩

end EntitySieve
