import Mathlib.Data.List.DropRight
import Mathlib.Data.List.Infix
import EntitySieve.Diagram.Detection
import EntitySieve.Proofs.Inspection
import EntitySieve.Proofs.LineKinds
import EntitySieve.Proofs.Occurrence

/-! Indentation and line ends. All that is read of a text is read of its bare lines, which are its
lines without their blank ends: what trimming leaves of them, the verdicts of each pass, what is
declared, and whether the text looks like a diagram. Blanks at the ends of lines are passed through
and say nothing. -/
namespace EntitySieve

namespace Text

/-- The lines of a text without their blank ends. -/
def bareLines (t : Text) : List Text := (lines t).map trim

/-- Lines without the empty ones that come first and last. -/
def dropEmptyEnds (ls : List Text) : List Text :=
  (ls.dropWhile (·.isEmpty)).rdropWhile (·.isEmpty)

section EmptyEnds
variable {l : Text} {ls : List Text}

theorem dropEmptyEnds_cons_nil (ls : List Text) : dropEmptyEnds ([] :: ls) = dropEmptyEnds ls := rfl

theorem dropEmptyEnds_append_nil (ls : List Text) :
    dropEmptyEnds (ls ++ [[]]) = dropEmptyEnds ls := by
  unfold dropEmptyEnds
  rw [List.dropWhile_append]
  split
  · rename_i h
    rw [List.isEmpty_iff.mp h]
    rfl
  · exact List.rdropWhile_concat_pos _ _ _ rfl

theorem dropEmptyEnds_eq_self (hhead : ∀ l ∈ ls.head?, l ≠ []) (hlast : ∀ l ∈ ls.getLast?, l ≠ []) :
    dropEmptyEnds ls = ls := by
  have hstart : ls.dropWhile (·.isEmpty) = ls := by
    cases ls with
    | nil => rfl
    | cons l ls => exact List.dropWhile_cons_of_neg (by simpa using hhead l rfl)
  rw [dropEmptyEnds, hstart, List.rdropWhile_eq_self_iff]
  intro hne
  simpa using hlast _ (List.getLast?_eq_some_getLast hne)

end EmptyEnds

section Blank
variable {c : Char} {m : Text}

/-- A word without blanks stands in a text exactly if it stands in the trimmed text. -/
theorem infix_trim_iff (hm : ∀ c ∈ m, isBlank c = false) (t : Text) : m <:+: trim t ↔ m <:+: t := by
  have hnot {c : Char} (hc : isBlank c = true) : c ∉ m := fun h => by simp [hm c h] at hc
  have hnil (t : Text) (h : m <:+: []) : m <:+: t := h.trans List.nil_infix
  refine iff_of_eq (apply_trim (f := (m <:+: ·)) (fun c t hc => ?_) (fun c t hc => ?_) t)
  · have h := infix_append_cons_iff (hnot hc) [] t
    rw [or_iff_right_of_imp (hnil t)] at h
    exact propext h
  · have h := infix_append_cons_iff (hnot hc) t []
    rw [or_iff_left_of_imp (hnil t)] at h
    exact propext h

theorem trim_ne_nil_of_mem (hc : isBlank c = false) {t : Text} (h : c ∈ t) : trim t ≠ [] := by
  have hinfix : [c] <:+: trim t :=
    (infix_trim_iff (by simpa using hc) t).mpr ((List.singleton_infix_iff c t).mpr h)
  intro htrim
  simp [htrim] at hinfix

theorem bareLines_cons (hc : isBlank c = true) (t : Text) :
    bareLines (c :: t) = [] :: bareLines t ∨ bareLines (c :: t) = bareLines t := by
  obtain hl | ⟨l, ls, ht, hl⟩ := lines_cons c t
  · exact Or.inl (by simp only [bareLines, hl, List.map_cons]; rfl)
  · exact Or.inr (by simp only [bareLines, hl, ht, List.map_cons, trim_cons hc])

theorem bareLines_append_singleton (hc : isBlank c = true) (t : Text) :
    bareLines (t ++ [c]) = bareLines t ++ [[]] ∨ bareLines (t ++ [c]) = bareLines t := by
  obtain hl | ⟨ls, l, ht, hl⟩ := lines_append_singleton c t
  · exact Or.inl (by simp only [bareLines, hl, List.map_append, List.map_singleton]; rfl)
  · exact Or.inr (by
      simp only [bareLines, hl, ht, List.map_append, List.map_singleton, trim_append_singleton hc])

theorem ne_newline_of_isBlank (hc : isBlank c = false) : c ≠ '\n' := by
  rintro rfl
  exact absurd hc (by decide)

theorem head?_bareLines_ne_nil (hc : isBlank c = false) (t : Text) :
    ∀ l ∈ (bareLines (c :: t)).head?, l ≠ [] := by
  obtain ⟨l, ls, -, hl⟩ := lines_cons_of_ne (ne_newline_of_isBlank hc) t
  rw [bareLines, hl]
  simpa using trim_ne_nil_of_mem hc (List.mem_cons_self (l := l))

theorem getLast?_bareLines_ne_nil (hc : isBlank c = false) (t : Text) :
    ∀ l ∈ (bareLines (t ++ [c])).getLast?, l ≠ [] := by
  obtain ⟨ls, l, -, hl⟩ := lines_append_singleton_of_ne (ne_newline_of_isBlank hc) t
  rw [bareLines, hl]
  simpa using trim_ne_nil_of_mem hc (List.mem_append_right l List.mem_cons_self)

end Blank

/-- What ignores empty lines at either end of the bare lines of a text ignores trimming. -/
theorem apply_bareLines_trim {β : Sort _} {f : List Text → β} (start : ∀ ls, f ([] :: ls) = f ls)
    (stop : ∀ ls, f (ls ++ [[]]) = f ls) (t : Text) : f (bareLines (trim t)) = f (bareLines t) := by
  refine apply_trim (f := fun t => f (bareLines t)) (fun c t hc => ?_) (fun c t hc => ?_) t
  · rcases bareLines_cons hc t with h | h <;> simp only [h, start]
  · rcases bareLines_append_singleton hc t with h | h <;> simp only [h, stop]

theorem dropEmptyEnds_bareLines_trim (t : Text) :
    dropEmptyEnds (bareLines (trim t)) = dropEmptyEnds (bareLines t) :=
  apply_bareLines_trim dropEmptyEnds_cons_nil dropEmptyEnds_append_nil t

/-- A tight text has empty lines at its ends only if it is empty. -/
theorem dropEmptyEnds_bareLines_of_isTight {t : Text} (h : t.IsTight) (hne : t ≠ []) :
    dropEmptyEnds (bareLines t) = bareLines t := by
  apply dropEmptyEnds_eq_self
  · obtain ⟨c, u, rfl⟩ := List.exists_cons_of_ne_nil hne
    exact head?_bareLines_ne_nil (h.1 c rfl) u
  · obtain ⟨u, c, rfl⟩ : ∃ u c, t = u ++ [c] :=
      ⟨_, _, (List.dropLast_concat_getLast hne).symm⟩
    exact getLast?_bareLines_ne_nil (h.2 c (by simp)) u

/-- Trimming a text takes the empty lines at the ends of its bare lines; if no line is left, an
empty one takes their place. -/
theorem bareLines_trim (t : Text) :
    bareLines (trim t) =
      if dropEmptyEnds (bareLines t) = [] then [[]] else dropEmptyEnds (bareLines t) := by
  rw [← dropEmptyEnds_bareLines_trim]
  by_cases hne : trim t = []
  · rw [hne]
    rfl
  · rw [dropEmptyEnds_bareLines_of_isTight (isTight_trim t) hne, if_neg]
    simp [bareLines, lines_ne_nil]

theorem bareLines_trim_congr {t u : Text} (h : bareLines t = bareLines u) :
    bareLines (trim t) = bareLines (trim u) := by
  rw [bareLines_trim, h, bareLines_trim]

theorem bareLines_ofLines {ls : List Text} (h : ∀ l ∈ ls, '\n' ∉ l) :
    bareLines (ofLines ls) = if ls.map trim = [] then [[]] else ls.map trim := by
  by_cases hne : ls = []
  · subst ls
    rfl
  · rw [bareLines, lines_ofLines h hne, if_neg (by simpa using hne)]

/-- A word without a line feed stands in a text exactly if it stands in one of the lines. -/
theorem infix_iff_exists_line {m : Text} (hm : '\n' ∉ m) (t : Text) :
    m <:+: t ↔ ∃ l ∈ lines t, m <:+: l := by
  have hjoined (ls : List Text) (hne : ls ≠ []) : m <:+: ofLines ls ↔ ∃ l ∈ ls, m <:+: l := by
    induction ls with
    | nil => contradiction
    | cons l ls ih =>
      cases ls with
      | nil => simp [ofLines]
      | cons k ks =>
        rw [← List.singleton_append (l := k :: ks), ofLines_append (List.cons_ne_nil l [])
          (List.cons_ne_nil k ks), infix_append_cons_iff hm, ih (List.cons_ne_nil k ks)]
        simp [ofLines]
  rw [← hjoined _ (lines_ne_nil t), ofLines_lines]

theorem infix_iff_exists_bareLine {m : Text} (hm : ∀ c ∈ m, isBlank c = false) (t : Text) :
    m <:+: t ↔ ∃ l ∈ bareLines t, m <:+: l := by
  have hnewline : '\n' ∉ m := fun h => ne_newline_of_isBlank (hm _ h) rfl
  rw [infix_iff_exists_line hnewline, bareLines]
  simp only [List.mem_map, exists_exists_and_eq_and, infix_trim_iff hm]

end Text

theorem Line.read_trim (l : Text) : read (Text.trim l) = read l := by
  simp only [read, Text.trim_trim]

theorem kinds_eq_map_bareLines (t : Text) : Text.kinds t = (Text.bareLines t).map Line.read := by
  simp only [Text.kinds, Text.bareLines, List.map_map, Function.comp_def, Line.read_trim]

theorem relationshipsOf_map_trim (ls : List Text) :
    relationshipsOf (ls.map Text.trim) = relationshipsOf ls := by
  simp only [relationshipsOf, List.filterMap_map, Function.comp_def, Line.read_trim]

theorem Summary.ofText_congr {t u : Text} (h : Text.bareLines t = Text.bareLines u) :
    ofText t = ofText u := by
  simp only [ofText, relationshipsOf_lines, entitiesOf_lines, kinds_eq_map_bareLines, h]

/-- A verdict on a line without its blank ends. -/
def Verdict.bare (v : Verdict) : Verdict := { v with text := Text.trim v.text }

/-- A pass gives the same verdicts on bare lines. -/
theorem Policy.scan_map_trim (p : Policy) (b : OpenBlock) (ls : List Text) :
    p.scan b (ls.map Text.trim) = (p.scan b ls).map Verdict.bare := by
  induction ls generalizing b with
  | nil => rfl
  | cons l ls ih => simp [scan, judge, Verdict.bare, Line.read_trim, ih]

namespace Verdict

theorem keptTexts_map_bare (vs : List Verdict) :
    keptTexts (vs.map bare) = (keptTexts vs).map Text.trim := by
  simp only [keptTexts, List.filter_map, List.map_map]
  rfl

theorem droppedEntities_map_bare (vs : List Verdict) :
    droppedEntities (vs.map bare) = droppedEntities vs := by
  simp only [droppedEntities, List.filter_map, List.filterMap_map]
  rfl

theorem droppedRelationships_map_bare (vs : List Verdict) :
    droppedRelationships (vs.map bare) = droppedRelationships vs := by
  simp only [droppedRelationships, List.filter_map, List.filterMap_map]
  rfl

end Verdict

theorem exclusionPass_map_bare (s : NameSet) (t : Text) :
    (exclusionPass s t).map Verdict.bare =
      (Policy.excluding s).scan none (Text.bareLines (Text.trim t)) :=
  (Policy.scan_map_trim _ _ _).symm

theorem orphanPass_map_bare (ls : List Text) :
    (orphanPass ls).map Verdict.bare = orphanPass (ls.map Text.trim) := by
  rw [orphanPass, orphanPass, Policy.scan_map_trim, namedIn, namedIn, relationshipsOf_map_trim]

namespace Passes

/-- The verdicts of the passes on bare lines. -/
def bare (p : Passes) : Passes := ⟨p.exclusion.map Verdict.bare, p.orphan.map (·.map Verdict.bare)⟩

theorem keptTexts_bare (p : Passes) : p.bare.keptTexts = p.keptTexts.map Text.trim := by
  obtain ⟨first, second⟩ := p
  cases second <;> exact Verdict.keptTexts_map_bare _

theorem stats_bare (p : Passes) : p.bare.stats = p.stats := by
  simp only [stats, keptTexts_bare, List.length_map]
  obtain ⟨first, second⟩ := p
  cases second <;> simp [bare, Verdict.droppedEntities_map_bare,
    Verdict.droppedRelationships_map_bare]

theorem bare_run_congr (m : Mode) (s : NameSet) {t u : Text}
    (h : Text.bareLines t = Text.bareLines u) : (run m s t).bare = (run m s u).bare := by
  have hfirst : (exclusionPass s t).map Verdict.bare = (exclusionPass s u).map Verdict.bare := by
    rw [exclusionPass_map_bare, Text.bareLines_trim_congr h, exclusionPass_map_bare]
  cases m with
  | exclusionOnly => simp only [run, bare, hfirst, Option.map_none]
  | pruneOrphans =>
    simp only [run, bare, Option.map_some, orphanPass_map_bare, ← Verdict.keptTexts_map_bare,
      hfirst]

end Passes

theorem sieve_congr (m : Mode) (s : NameSet) {t u : Text}
    (h : Text.bareLines t = Text.bareLines u) :
    Text.bareLines (sieve m s t).text = Text.bareLines (sieve m s u).text ∧
      (sieve m s t).stats = (sieve m s u).stats := by
  cases hs : s.isEmpty with
  | true =>
    have hlength : (Text.lines t).length = (Text.lines u).length := by
      simpa [Text.bareLines] using congrArg List.length h
    simp only [sieve, hs, if_true, untouched, hlength, h, and_self]
  | false =>
    have hbare := Passes.bare_run_congr m s h
    have hkept : (Passes.run m s t).keptTexts.map Text.trim =
        (Passes.run m s u).keptTexts.map Text.trim := by
      rw [← Passes.keptTexts_bare, hbare, Passes.keptTexts_bare]
    constructor
    · rw [sieve_text m hs, sieve_text m hs,
        Text.bareLines_ofLines fun l => newline_not_mem_of_mem_keptTexts, hkept,
        Text.bareLines_ofLines fun l => newline_not_mem_of_mem_keptTexts]
    · simp only [sieve, hs, Bool.false_eq_true, if_false, Passes.result]
      rw [← Passes.stats_bare, hbare, Passes.stats_bare]

namespace Confidence

/-- Where lines end makes no difference to the first significant one. -/
theorem find?_endedLines (t : Text) :
    ((Text.endedLines t).map Text.trim).find? isSignificant =
      (Text.bareLines t).find? isSignificant := by
  have hreturn (l : Text) :
      Text.trim (if l.getLast? = some '\r' then l.dropLast else l) = Text.trim l := by
    split
    · rename_i hl
      obtain ⟨u, rfl⟩ := List.getLast?_eq_some_iff.mp hl
      rw [List.dropLast_concat, Text.trim_append_singleton (by decide)]
    · rfl
  obtain ⟨ls, l, hl⟩ : ∃ ls l, Text.lines t = ls ++ [l] :=
    ⟨_, _, (List.dropLast_concat_getLast (Text.lines_ne_nil t)).symm⟩
  have hwhole : ((ls.map fun l => if l.getLast? = some '\r' then l.dropLast else l).map Text.trim) =
      ls.map Text.trim := by
    simp only [List.map_map, Function.comp_def, hreturn]
  rw [Text.endedLines, Text.bareLines, hl]
  cases l with
  | nil =>
    -- A final line feed starts no further line; the empty line after it is not significant.
    simp [hwhole, Text.trim, Text.trimStart, Text.trimEnd, isSignificant]
  | cons c l => simp [hwhole]

/-- A marker holds no blank, so it stands in a text exactly if it stands in a bare line. -/
theorem hasMarker_iff_exists_bareLine (t : Text) :
    Line.HasMarker t ↔ ∃ l ∈ Text.bareLines t, Line.HasMarker l := by
  have hstands {m : Text} (hm : m ∈ Line.markers) :
      m <:+: t ↔ ∃ l ∈ Text.bareLines t, m <:+: l :=
    Text.infix_iff_exists_bareLine (fun _ => Line.not_isBlank_of_mem_markers hm) t
  constructor
  · rintro ⟨m, hm, hin⟩
    obtain ⟨l, hl, hlm⟩ := (hstands hm).mp hin
    exact ⟨l, hl, m, hm, hlm⟩
  · rintro ⟨l, hl, m, hm, hlm⟩
    exact ⟨m, hm, (hstands hm).mpr ⟨l, hl, hlm⟩⟩

theorem mem_iff_exists_bareLine {c : Char} (hc : Text.isBlank c = false) (t : Text) :
    c ∈ t ↔ ∃ l ∈ Text.bareLines t, c ∈ l := by
  have hinfix := Text.infix_iff_exists_bareLine (m := [c]) (by simpa using hc) t
  simpa only [List.singleton_infix_iff] using hinfix

theorem ofText_congr {t u : Text} (h : Text.bareLines t = Text.bareLines u) :
    ofText t = ofText u := by
  have hmarkers : Line.markers.any (Text.contains · t) = Line.markers.any (Text.contains · u) := by
    rw [Bool.eq_iff_iff, Line.any_contains_iff, Line.any_contains_iff,
      hasMarker_iff_exists_bareLine, h, hasMarker_iff_exists_bareLine]
  have hbrace {c : Char} (hc : Text.isBlank c = false) : c ∈ t ↔ c ∈ u := by
    rw [mem_iff_exists_bareLine hc, h, mem_iff_exists_bareLine hc]
  have hopen : '{' ∈ t ↔ '{' ∈ u := hbrace (by decide)
  have hclose : '}' ∈ t ↔ '}' ∈ u := hbrace (by decide)
  simp only [ofText, find?_endedLines, h, hmarkers, hopen, hclose]

end Confidence

/-- Texts that differ in the blanks at the ends of their lines have outcomes that differ in no more
than that, with the same figures, and the same is read of both. -/
theorem indentation_does_not_matter (m : Mode) (s : NameSet) {t u : Text}
    (h : Text.bareLines t = Text.bareLines u) :
    Text.bareLines (sieve m s t).text = Text.bareLines (sieve m s u).text ∧
      (sieve m s t).stats = (sieve m s u).stats ∧
      Summary.ofText t = Summary.ofText u ∧ Confidence.ofText t = Confidence.ofText u := by
  obtain ⟨htext, hstats⟩ := sieve_congr m s h
  exact ⟨htext, hstats, Summary.ofText_congr h, Confidence.ofText_congr h⟩

/-- Blank edges, a comment before the header, and a block that is never closed and ends in blank
lines once the last relationship is gone. -/
def evenText : Text :=
  Text.ofLines ["", "%% a", "erDiagram", "A \x7b", " x", "\x7d", "B || C", "B \x7b", " y", "",
    "A || B", ""]

/-- The same lines with other indentation and line ends, and with blanks beyond ASCII. -/
def respacedText : Text :=
  Text.ofLines ["\t\r", " %% a\r", "\terDiagram\u00a0\r", "    A \x7b\r", "x\r", "\x7d \r",
    "\u3000B || C\r", "B \x7b\r", "\ty\r", "  \r", "  A || B\r", "\u2028"]

theorem indentation_does_not_matter_respacedText :
    Text.bareLines evenText = Text.bareLines respacedText ∧
      (sieve .pruneOrphans (.ofList ["A"]) evenText).stats =
        (sieve .pruneOrphans (.ofList ["A"]) respacedText).stats ∧
      Text.bareLines (sieve .pruneOrphans (.ofList ["A"]) respacedText).text =
        (["erDiagram", "B || C", "B \x7b", "y", ""] : List Text) ∧
      Confidence.ofText respacedText = .header := by
  have hlines : Text.bareLines evenText = Text.bareLines respacedText := by decide +kernel
  obtain ⟨htext, hstats, -, hconfidence⟩ :=
    indentation_does_not_matter .pruneOrphans (.ofList ["A"]) hlines
  exact ⟨hlines, hstats, htext.symm.trans (by decide +kernel),
    hconfidence.symm.trans (by decide +kernel)⟩

end EntitySieve
