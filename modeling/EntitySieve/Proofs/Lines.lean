import EntitySieve.Proofs.Survival

/-! Joining lines and reading them back. No lines at all join to the empty text, which has one blank
line; a pass learns nothing from that line and drops it. -/
namespace EntitySieve

/-- No piece of a split holds what was split at. -/
theorem not_of_mem_splitOnP {α : Type _} {p : α → Bool} {xs piece : List α}
    (h : piece ∈ xs.splitOnP p) : ∀ x ∈ piece, p x = false := by
  induction xs generalizing piece with
  | nil =>
    rw [List.splitOnP_nil, List.mem_singleton] at h
    simp [h]
  | cons x xs ih =>
    obtain ⟨k, ks, hsplit⟩ := List.exists_cons_of_ne_nil (List.splitOnP_ne_nil p xs)
    rw [hsplit] at ih
    rw [List.splitOnP_cons_eq_if_modifyHead, hsplit] at h
    split at h
    · rcases List.mem_cons.mp h with rfl | hmem
      · simp
      · exact ih hmem
    · rename_i hx
      rcases List.mem_cons.mp h with rfl | hmem
      · have hk : ∀ x ∈ k, p x = false := ih List.mem_cons_self
        simpa [hx] using hk
      · exact ih (List.mem_cons_of_mem k hmem)

theorem not_mem_of_mem_splitOn {t piece : Text} {c : Char} (h : piece ∈ t.splitOn c) :
    c ∉ piece := by
  rw [List.splitOn_eq_splitOnP] at h
  intro hmem
  simpa using not_of_mem_splitOnP h c hmem

theorem newline_not_mem_of_mem_lines {t l : Text} (h : l ∈ Text.lines t) : '\n' ∉ l :=
  not_mem_of_mem_splitOn h

namespace Text

theorem length_lines (t : Text) : (lines t).length = 1 + t.count '\n' := by
  unfold lines
  induction t with
  | nil => rfl
  | cons c t ih =>
    rw [List.splitOn_cons_eq_if_modifyHead, List.count_cons]
    split
    · simp [*]
      omega
    · simp [*]

theorem ofLines_eq_nil_iff {ls : List Text} : ofLines ls = [] ↔ ls = [] ∨ ls = [[]] := by
  cases ls with
  | nil => simp [ofLines]
  | cons l ls =>
    cases ls with
    | nil => simp [ofLines]
    | cons k ks => simp [ofLines, List.intercalate_cons_cons]

/-- The lines of a text, where the empty text has none. -/
def filledLines (t : Text) : List Text := if t = [] then [] else lines t

theorem filledLines_ofLines {ls : List Text} (h : ∀ l ∈ ls, '\n' ∉ l) (hne : ls ≠ [[]]) :
    filledLines (ofLines ls) = ls := by
  by_cases hnil : ls = []
  · subst ls
    rfl
  · have hfull : ofLines ls ≠ [] := by
      rw [ne_eq, ofLines_eq_nil_iff, not_or]
      exact ⟨hnil, hne⟩
    rw [filledLines, if_neg hfull, lines_ofLines h hnil]

end Text

@[simp] theorem read_nil : Line.read [] = .body := by decide

namespace Policy

theorem after_lines_ofLines (p : Policy) {ls : List Text} (h : ∀ l ∈ ls, '\n' ∉ l) :
    p.after none (Text.lines (Text.ofLines ls)) = p.after none ls := by
  cases ls with
  | nil => simp [Text.lines, Text.ofLines, after, step]
  | cons l ls => rw [Text.lines_ofLines h (List.cons_ne_nil l ls)]

theorem keptTexts_scan_lines_ofLines (p : Policy) {ls : List Text} (h : ∀ l ∈ ls, '\n' ∉ l) :
    Verdict.keptTexts (p.scan none (Text.lines (Text.ofLines ls))) =
      Verdict.keptTexts (p.scan none ls) := by
  cases ls with
  | nil =>
    simp [Text.lines, Text.ofLines, scan, judge, step, Verdict.keptTexts, OpenBlock.keepsBody]
  | cons l ls => rw [Text.lines_ofLines h (List.cons_ne_nil l ls)]

end Policy

theorem newline_not_mem_of_mem_keptTexts {m : Mode} {s : NameSet} {t l : Text}
    (h : l ∈ (Passes.run m s t).keptTexts) : '\n' ∉ l := by
  rw [Passes.keptTexts_run, linesAt, List.mem_filterMap] at h
  obtain ⟨i, -, hi⟩ := h
  exact newline_not_mem_of_mem_lines (List.mem_of_getElem? hi)

end EntitySieve
