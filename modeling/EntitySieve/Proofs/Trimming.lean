import Mathlib.Data.List.Induction
import EntitySieve.Proofs.Lines

/-! Blank ends. A line is read the same whatever blanks stand at its ends. Blanks at the ends of a
text extend its outer lines or add body lines before and after them, and nothing else. -/
namespace EntitySieve

namespace Text

theorem trim_cons {c : Char} (h : isBlank c = true) (t : Text) : trim (c :: t) = trim t := by
  simp [trim, trimStart, h]

theorem trimEnd_append_singleton {c : Char} (h : isBlank c = true) (t : Text) :
    trimEnd (t ++ [c]) = trimEnd t := by
  simp [trimEnd, h]

theorem trim_append_singleton {c : Char} (h : isBlank c = true) (t : Text) :
    trim (t ++ [c]) = trim t := by
  unfold trim trimStart
  rw [List.dropWhile_append]
  split
  · rename_i hblank
    rw [List.isEmpty_iff.mp hblank]
    simp [h]
  · exact trimEnd_append_singleton h _

/-- What ignores a blank character at either end of a text ignores all blanks there. -/
theorem apply_trim {β : Sort _} {f : Text → β}
    (start : ∀ c t, isBlank c = true → f (c :: t) = f t)
    (stop : ∀ c t, isBlank c = true → f (t ++ [c]) = f t) (t : Text) : f (trim t) = f t := by
  have hstart (t : Text) : f (trimStart t) = f t := by
    induction t with
    | nil => rfl
    | cons c t ih =>
      by_cases hc : isBlank c = true
      · rw [start c t hc, ← ih, trimStart, List.dropWhile_cons_of_pos hc, trimStart]
      · rw [trimStart, List.dropWhile_cons_of_neg hc]
  have hstop (t : Text) : f (trimEnd t) = f t := by
    induction t using List.reverseRecOn with
    | nil => rfl
    | append_singleton t c ih =>
      by_cases hc : isBlank c = true
      · rw [stop c t hc, ← ih, trimEnd_append_singleton hc]
      · simp [trimEnd, hc]
  exact (hstop _).trans (hstart t)

@[simp] theorem trim_trim (t : Text) : trim (trim t) = trim t :=
  apply_trim (f := trim) (fun _ t h => trim_cons h t) (fun _ t h => trim_append_singleton h t) t

theorem trim_sublist (t : Text) : (trim t).Sublist t := by
  have hstop : (trim t).Sublist (trimStart t) := by
    simpa [trim, trimEnd] using
      (List.dropWhile_sublist (l := (trimStart t).reverse) isBlank).reverse
  exact hstop.trans (List.dropWhile_sublist isBlank)

/-- Whether a text has no blank character at either end. -/
def IsTight (t : Text) : Prop :=
  (∀ c ∈ t.head?, isBlank c = false) ∧ ∀ c ∈ t.getLast?, isBlank c = false

theorem isTight_of_trim_eq {t : Text} (h : trim t = t) : t.IsTight := by
  have hlength := congrArg List.length h
  constructor
  · intro c hc
    by_contra hblank
    obtain ⟨u, rfl⟩ := List.head?_eq_some_iff.mp hc
    rw [trim_cons (by simpa using hblank)] at hlength
    have := (trim_sublist u).length_le
    simp only [List.length_cons] at hlength
    omega
  · intro c hc
    by_contra hblank
    obtain ⟨u, rfl⟩ := List.getLast?_eq_some_iff.mp hc
    rw [trim_append_singleton (by simpa using hblank)] at hlength
    have := (trim_sublist u).length_le
    simp only [List.length_append, List.length_singleton] at hlength
    omega

theorem trim_eq_of_isTight {t : Text} (h : t.IsTight) : trim t = t := by
  have hstart : trimStart t = t := by
    cases t with
    | nil => rfl
    | cons c t => exact List.dropWhile_cons_of_neg (by simp [h.1 c rfl])
  have hstop : trimEnd t = t := by
    induction t using List.reverseRecOn with
    | nil => rfl
    | append_singleton t c => simp [trimEnd, h.2 c (by simp)]
  rw [trim, hstart, hstop]

theorem trim_eq_self_iff {t : Text} : trim t = t ↔ t.IsTight :=
  ⟨isTight_of_trim_eq, trim_eq_of_isTight⟩

theorem isTight_trim (t : Text) : (trim t).IsTight := isTight_of_trim_eq (trim_trim t)

theorem ofLines_append {ks ls : List Text} (hk : ks ≠ []) (hl : ls ≠ []) :
    ofLines (ks ++ ls) = ofLines ks ++ '\n' :: ofLines ls := by
  obtain ⟨l, ls, rfl⟩ := List.exists_cons_of_ne_nil hl
  induction ks with
  | nil => contradiction
  | cons k ks ih =>
    cases ks with
    | nil => simp [ofLines, List.intercalate_cons_cons]
    | cons k' ks =>
      have hk' := ih (List.cons_ne_nil k' ks)
      simp only [ofLines, List.cons_append, List.intercalate_cons_cons] at hk' ⊢
      rw [hk']
      simp

theorem ofLines_cons_cons (c : Char) (l : Text) (ls : List Text) :
    ofLines ((c :: l) :: ls) = c :: ofLines (l :: ls) := by
  cases ls <;> simp [ofLines, List.intercalate_cons_cons]

theorem ofLines_append_append (ls : List Text) (l : Text) (c : Char) :
    ofLines (ls ++ [l ++ [c]]) = ofLines (ls ++ [l]) ++ [c] := by
  cases ls with
  | nil => simp [ofLines]
  | cons k ks =>
    have hk : k :: ks ≠ [] := List.cons_ne_nil k ks
    rw [ofLines_append hk (by simp), ofLines_append hk (by simp)]
    simp [ofLines]

theorem trim_ofLines_append_nil (ls : List Text) :
    trim (ofLines (ls ++ [[]])) = trim (ofLines ls) := by
  cases ls with
  | nil => rfl
  | cons k ks =>
    rw [ofLines_append (List.cons_ne_nil k ks) (List.cons_ne_nil [] [])]
    exact trim_append_singleton (by decide) _

theorem lines_ne_nil (t : Text) : lines t ≠ [] := List.splitOn_ne_nil '\n' t

theorem lines_append_newline (t u : Text) : lines (t ++ '\n' :: u) = lines t ++ lines u :=
  List.splitOn_append_cons_self t u

theorem lines_cons_of_ne {c : Char} (hc : c ≠ '\n') (t : Text) :
    ∃ l ls, lines t = l :: ls ∧ lines (c :: t) = (c :: l) :: ls := by
  obtain ⟨l, ls, hl⟩ := List.exists_cons_of_ne_nil (lines_ne_nil t)
  refine ⟨l, ls, hl, ?_⟩
  rw [lines, List.splitOn_cons_eq_if_modifyHead, ← lines, hl]
  simp [hc]

/-- A character in front starts a line of its own or extends the first line. -/
theorem lines_cons (c : Char) (t : Text) :
    lines (c :: t) = [] :: lines t ∨
      ∃ l ls, lines t = l :: ls ∧ lines (c :: t) = (c :: l) :: ls := by
  by_cases hc : c = '\n'
  · subst c
    exact Or.inl (lines_append_newline [] t)
  · exact Or.inr (lines_cons_of_ne hc t)

theorem lines_append_singleton_of_ne {c : Char} (hc : c ≠ '\n') (t : Text) :
    ∃ ls l, lines t = ls ++ [l] ∧ lines (t ++ [c]) = ls ++ [l ++ [c]] := by
  obtain ⟨ls, l, hl⟩ : ∃ ls l, lines t = ls ++ [l] :=
    ⟨_, _, (List.dropLast_concat_getLast (lines_ne_nil t)).symm⟩
  refine ⟨ls, l, hl, ?_⟩
  have htext : t ++ [c] = ofLines (ls ++ [l ++ [c]]) := by
    rw [ofLines_append_append, ← hl, ofLines_lines]
  rw [htext, lines_ofLines _ (by simp)]
  intro k hk
  rcases List.mem_append.mp hk with hk | hk
  · exact newline_not_mem_of_mem_lines (hl ▸ List.mem_append_left _ hk)
  · have hlast : '\n' ∉ l := newline_not_mem_of_mem_lines (t := t) (by simp [hl])
    obtain rfl := List.mem_singleton.mp hk
    simp [hlast, Ne.symm hc]

/-- A character at the end starts a line of its own or extends the last line. -/
theorem lines_append_singleton (c : Char) (t : Text) :
    lines (t ++ [c]) = lines t ++ [[]] ∨
      ∃ ls l, lines t = ls ++ [l] ∧ lines (t ++ [c]) = ls ++ [l ++ [c]] := by
  by_cases hc : c = '\n'
  · subst c
    exact Or.inl (lines_append_newline t [])
  · exact Or.inr (lines_append_singleton_of_ne hc t)

/-- The kinds of the lines of a text. -/
def kinds (t : Text) : List Line := (lines t).map Line.read

end Text

namespace Line

theorem read_cons {c : Char} (h : Text.isBlank c = true) (l : Text) : read (c :: l) = read l := by
  simp only [read, Text.trim_cons h]

theorem read_append_singleton {c : Char} (h : Text.isBlank c = true) (l : Text) :
    read (l ++ [c]) = read l := by
  simp only [read, Text.trim_append_singleton h]

end Line

namespace Text

/-- What ignores body lines at either end of a text ignores trimming. -/
theorem apply_kinds_trim {β : Sort _} {f : List Line → β} (start : ∀ ls, f (.body :: ls) = f ls)
    (stop : ∀ ls, f (ls ++ [.body]) = f ls) (t : Text) : f (kinds (trim t)) = f (kinds t) := by
  refine apply_trim (f := fun t => f (kinds t)) (fun c t hc => ?_) (fun c t hc => ?_) t
  · obtain hl | ⟨l, ls, ht, hl⟩ := lines_cons c t
    · simp only [kinds, hl, List.map_cons, read_nil, start]
    · simp only [kinds, hl, ht, List.map_cons, Line.read_cons hc]
  · obtain hl | ⟨ls, l, ht, hl⟩ := lines_append_singleton c t
    · simp only [kinds, hl, List.map_append, List.map_singleton, read_nil, stop]
    · simp only [kinds, hl, ht, List.map_append, List.map_singleton, Line.read_append_singleton hc]

theorem filterMap_kinds_trim {α : Type _} {g : Line → Option α} (hg : g .body = none) (t : Text) :
    (kinds (trim t)).filterMap g = (kinds t).filterMap g :=
  apply_kinds_trim (f := fun ls => ls.filterMap g) (fun ls => by simp [hg])
    (fun ls => by simp [hg]) t

/-- Lines that are joined are read back as they were, no lines at all as a body line. -/
theorem apply_kinds_ofLines {β : Sort _} {f : List Line → β} (hf : f [.body] = f [])
    {ls : List Text} (h : ∀ l ∈ ls, '\n' ∉ l) : f (kinds (ofLines ls)) = f (ls.map Line.read) := by
  cases ls with
  | nil => simpa [kinds, lines, ofLines] using hf
  | cons l ls => rw [kinds, lines_ofLines h (List.cons_ne_nil l ls)]

end Text

end EntitySieve
