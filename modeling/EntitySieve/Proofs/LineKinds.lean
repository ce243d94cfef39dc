import EntitySieve.Proofs.Lines

/-! When a line is of which kind, and what its names are. A line is a header by its whole trimmed
text, a relationship by the markers in it, and else by its braces. No header holds a marker, so the
order of the first two questions does not matter. Names are words of the trimmed line. -/
namespace EntitySieve

namespace Text

/-- Whether a text is a single word. -/
def IsWord (t : Text) : Prop := t ≠ [] ∧ ∀ c ∈ t, isBlank c = false

instance : DecidablePred IsWord := fun t =>
  decidable_of_iff (!t.isEmpty && t.all (!isBlank ·)) (by simp [IsWord])

section Words
variable {c : Char} {t w : Text}

theorem isWord_of_mem_words (h : w ∈ words t) : w.IsWord := by
  obtain ⟨hw, hne⟩ := List.mem_filter.mp h
  exact ⟨by simpa using hne, not_of_mem_splitOnP hw⟩

theorem words_cons (hc : isBlank c = true) (t : Text) : words (c :: t) = words t := by
  rw [words, List.splitOnP_cons_eq_if_modifyHead, if_pos hc]
  rfl

theorem words_cons_ne_nil (hc : isBlank c = false) (t : Text) : words (c :: t) ≠ [] := by
  obtain ⟨k, ks, hsplit⟩ := List.exists_cons_of_ne_nil (List.splitOnP_ne_nil isBlank t)
  rw [words, List.splitOnP_cons_eq_if_modifyHead, hsplit]
  simp [hc]

/-- A text has a word unless all of it is blank. -/
theorem words_ne_nil (hc : isBlank c = false) (h : c ∈ t) : words t ≠ [] := by
  induction t with
  | nil => contradiction
  | cons d t ih =>
    cases hd : isBlank d with
    | false => exact words_cons_ne_nil hd t
    | true =>
      rw [words_cons hd]
      apply ih
      rcases List.mem_cons.mp h with rfl | h
      · simp [hc] at hd
      · exact h

end Words
end Text

namespace Line
variable {l e : Text} {r : Relationship}

/-- Whether an arrow stands in a text. -/
def HasMarker (t : Text) : Prop := ∃ m ∈ markers, m <:+: t

theorem any_contains_iff {t : Text} : markers.any (Text.contains · t) = true ↔ HasMarker t := by
  simp only [List.any_eq_true, Text.contains_iff, HasMarker]

instance : DecidablePred HasMarker := fun _ => decidable_of_iff _ any_contains_iff

theorem not_hasMarker_headerText : ¬ HasMarker headerText := by
  rw [← any_contains_iff]
  decide

theorem not_isBlank_of_mem_markers {m : Text} (hm : m ∈ markers) {c : Char} (hc : c ∈ m) :
    Text.isBlank c = false := by
  have hmarkers : (markers.all fun m => m.all fun c => !Text.isBlank c) = true := by decide
  simpa using List.all_eq_true.mp (List.all_eq_true.mp hmarkers m hm) c hc

theorem exists_not_isBlank {t : Text} (h : HasMarker t) : ∃ c ∈ t, Text.isBlank c = false := by
  obtain ⟨m, hm, hin⟩ := h
  have hmarkers : ∀ m ∈ markers, m ≠ [] := by decide
  obtain ⟨c, hc⟩ := List.exists_mem_of_ne_nil m (hmarkers m hm)
  exact ⟨c, hin.subset hc, not_isBlank_of_mem_markers hm hc⟩

theorem read_eq_header_iff : read l = .header ↔ Text.trim l = headerText := by
  constructor
  · intro h
    rw [read] at h
    split at h
    · rename_i hheader
      exact hheader
    split at h
    · contradiction
    split at h
    · contradiction
    split at h <;> contradiction
  · intro h
    simp only [read, if_pos h]

theorem read_eq_relationship_iff :
    read l = .relationship r ↔ HasMarker (Text.trim l) ∧
      r = ⟨(Text.words (Text.trim l))[0]?, (Text.words (Text.trim l))[2]?⟩ := by
  rw [← any_contains_iff]
  constructor
  · intro h
    rw [read] at h
    split at h
    · contradiction
    split at h
    · rename_i hm
      exact ⟨hm, (Line.relationship.inj h).symm⟩
    split at h
    · contradiction
    split at h <;> contradiction
  · rintro ⟨hm, rfl⟩
    have hne : Text.trim l ≠ headerText := by
      intro h
      rw [any_contains_iff, h] at hm
      exact not_hasMarker_headerText hm
    simp only [read, if_neg hne, if_pos hm]

theorem mem_trim_of_read_eq_opening (h : read l = .opening e) :
    '{' ∈ Text.trim l ∧ e = (Text.words (Text.trim l)).headD (Text.trim l) := by
  rw [read] at h
  split at h
  · contradiction
  split at h
  · contradiction
  split at h
  · rename_i hbrace
    exact ⟨hbrace, (Line.opening.inj h).symm⟩
  split at h <;> contradiction

/-- The names on a line: the endpoints of its relationship, or the entity whose block it opens. -/
def names : Line → List Text
  | .relationship r => r.endpoints
  | .opening e => [e]
  | _ => []

/-- A line with an arrow has a first word, and that is the first endpoint. -/
theorem isSome_first (h : read l = .relationship r) : r.first.isSome = true := by
  obtain ⟨hm, rfl⟩ := read_eq_relationship_iff.mp h
  obtain ⟨c, hc, hblank⟩ := exists_not_isBlank hm
  obtain ⟨w, ws, hwords⟩ := List.exists_cons_of_ne_nil (Text.words_ne_nil hblank hc)
  simp [hwords]

theorem isWord_of_mem_names (h : e ∈ (read l).names) : e.IsWord := by
  cases hl : read l with
  | header | closing | body => simp [hl, names] at h
  | relationship r =>
    obtain ⟨-, rfl⟩ := read_eq_relationship_iff.mp hl
    simp only [hl, names, Relationship.endpoints, List.mem_append, Option.mem_toList] at h
    rcases h with h | h <;> exact Text.isWord_of_mem_words (List.mem_of_getElem? h)
  | opening e' =>
    obtain ⟨hbrace, rfl⟩ := mem_trim_of_read_eq_opening hl
    -- A line with a brace has a first word, so the whole line never stands in for it.
    have hblank : Text.isBlank '{' = false := by decide
    obtain ⟨w, ws, hwords⟩ := List.exists_cons_of_ne_nil (Text.words_ne_nil hblank hbrace)
    obtain rfl : e = w := by simpa [hl, names, hwords] using h
    exact Text.isWord_of_mem_words (hwords ▸ List.mem_cons_self)

end Line
end EntitySieve
