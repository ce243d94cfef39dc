import EntitySieve.Proofs.LineRule
import EntitySieve.Proofs.Trimming

/-! A pass as a map from texts to texts. Blank lines at the start of a text stand outside all blocks
and blank lines at its end come after everything else, so up to blank ends a pass leaves the same of
a text as of the trimmed text. What is declared in its outcome are the relationships and the
entities that its policy lets stay. -/
namespace EntitySieve

namespace Policy

theorem scan_append (p : Policy) (b : OpenBlock) (ks ls : List Text) :
    p.scan b (ks ++ ls) = p.scan b ks ++ p.scan (p.after b ks) ls := by
  induction ks generalizing b with
  | nil => rfl
  | cons k ks ih => simp [scan, ih]

end Policy

theorem Verdict.keptTexts_scan_singleton (p : Policy) (b : OpenBlock) (l : Text) :
    keptTexts (p.scan b [l]) = if (p.step b (Line.read l)).2 then [l] else [] :=
  (keptTexts_scan_cons p b l []).trans (List.append_nil _)

namespace Policy

/-- What a pass leaves of a text. -/
def pass (p : Policy) (t : Text) : Text :=
  Text.ofLines (Verdict.keptTexts (p.scan none (Text.lines t)))

theorem excluding_keeps (s : NameSet) (r : Relationship) :
    (excluding s).keeps r = decide (s.Spares r) := by
  rw [Bool.eq_iff_iff, decide_eq_true_iff]
  simp [excluding, NameSet.Spares]

theorem excluding_skips (s : NameSet) (e : Text) : (excluding s).skips e = decide (e ∈ s) := rfl

theorem trim_pass_cons (p : Policy) {c : Char} (hc : Text.isBlank c = true) (t : Text) :
    Text.trim (p.pass (c :: t)) = Text.trim (p.pass t) := by
  unfold pass
  obtain hl | ⟨l, ls, ht, hl⟩ := Text.lines_cons c t
  · -- The blank line in front stands in no block.
    rw [hl, Verdict.keptTexts_scan_cons, read_nil]
    rfl
  · rw [hl, ht, Verdict.keptTexts_scan_cons, Verdict.keptTexts_scan_cons, Line.read_cons hc]
    split
    · rw [List.singleton_append, List.singleton_append, Text.ofLines_cons_cons, Text.trim_cons hc]
    · rfl

theorem trim_pass_append_singleton (p : Policy) {c : Char} (hc : Text.isBlank c = true)
    (t : Text) : Text.trim (p.pass (t ++ [c])) = Text.trim (p.pass t) := by
  unfold pass
  obtain hl | ⟨ls, l, ht, hl⟩ := Text.lines_append_singleton c t
  · -- The blank line at the end comes last among the kept lines, if it stands in a block.
    rw [hl, scan_append, Verdict.keptTexts_append, Verdict.keptTexts_scan_singleton]
    split
    · exact Text.trim_ofLines_append_nil _
    · rw [List.append_nil]
  · rw [hl, ht, scan_append, scan_append, Verdict.keptTexts_append, Verdict.keptTexts_append,
      Verdict.keptTexts_scan_singleton, Verdict.keptTexts_scan_singleton,
      Line.read_append_singleton hc]
    split
    · rw [Text.ofLines_append_append, Text.trim_append_singleton hc]
    · rfl

/-- Up to blank ends, a pass leaves the same of a text as of the trimmed text. -/
theorem trim_pass_trim (p : Policy) (t : Text) :
    Text.trim (p.pass (Text.trim t)) = Text.trim (p.pass t) :=
  Text.apply_trim (f := fun t => Text.trim (p.pass t)) (fun _ t h => p.trim_pass_cons h t)
    (fun _ t h => p.trim_pass_append_singleton h t) t

theorem trim_pass_congr (p : Policy) {t u : Text} (h : Text.trim t = Text.trim u) :
    Text.trim (p.pass t) = Text.trim (p.pass u) := by
  rw [← p.trim_pass_trim t, h, p.trim_pass_trim]

theorem newline_not_mem_of_mem_keptTexts_scan {p : Policy} {b : OpenBlock} {t l : Text}
    (h : l ∈ Verdict.keptTexts (p.scan b (Text.lines t))) : '\n' ∉ l :=
  newline_not_mem_of_mem_lines ((Verdict.keptTexts_sublist p b _).subset h)

end Policy

section Declared
variable (p : Policy) (t : Text)

theorem relationshipsOf_lines :
    relationshipsOf (Text.lines t) = (Text.kinds t).filterMap Line.relationship? := by
  rw [Text.kinds, List.filterMap_map]
  rfl

theorem entitiesOf_lines :
    entitiesOf (Text.lines t) = (Text.kinds t).filterMap Line.entity? := by
  rw [Text.kinds, List.filterMap_map]
  rfl

theorem relationshipsOf_lines_trim :
    relationshipsOf (Text.lines (Text.trim t)) = relationshipsOf (Text.lines t) := by
  rw [relationshipsOf_lines, relationshipsOf_lines, Text.filterMap_kinds_trim rfl]

theorem entitiesOf_lines_trim :
    entitiesOf (Text.lines (Text.trim t)) = entitiesOf (Text.lines t) := by
  rw [entitiesOf_lines, entitiesOf_lines, Text.filterMap_kinds_trim rfl]

/-- What is read in an outcome is read in the kept lines. -/
theorem filterMap_kinds_pass {α : Type _} {g : Line → Option α} (hg : g .body = none) :
    (Text.kinds (p.pass t)).filterMap g =
      (Verdict.keptTexts (p.scan none (Text.lines t))).filterMap fun l => g (Line.read l) := by
  have hbody : [Line.body].filterMap g = [].filterMap g := by simp [hg]
  rw [Policy.pass, Text.apply_kinds_ofLines (f := fun ls => ls.filterMap g) hbody
    fun l => Policy.newline_not_mem_of_mem_keptTexts_scan]
  exact List.filterMap_map

theorem relationshipsOf_lines_pass :
    relationshipsOf (Text.lines (p.pass t)) = (relationshipsOf (Text.lines t)).filter p.keeps := by
  rw [relationshipsOf_lines, filterMap_kinds_pass p t rfl]
  exact Verdict.relationshipsOf_keptTexts p none _

theorem entitiesOf_lines_pass :
    entitiesOf (Text.lines (p.pass t)) =
      (entitiesOf (Text.lines t)).filter fun e => !p.skips e := by
  rw [entitiesOf_lines, filterMap_kinds_pass p t rfl]
  exact Verdict.entitiesOf_keptTexts p none _

/-- An outcome names what the kept lines name. -/
theorem namedIn_lines_pass :
    namedIn (Text.lines (p.pass t)) =
      namedIn (Verdict.keptTexts (p.scan none (Text.lines t))) := by
  rw [namedIn, namedIn, relationshipsOf_lines_pass, Verdict.relationshipsOf_keptTexts]

end Declared

/-- What is left of the outcome of the exclusion pass. -/
def Mode.finish : Mode → Text → Text
  | .exclusionOnly, t => t
  | .pruneOrphans, t => (Policy.onlyNamed (namedIn (Text.lines t))).pass t

theorem sieve_text_eq_finish (m : Mode) {s : NameSet} (hs : s.isEmpty = false) (t : Text) :
    (sieve m s t).text = m.finish ((Policy.excluding s).pass (Text.trim t)) := by
  rw [sieve_text m hs]
  cases m with
  | exclusionOnly => rfl
  | pruneOrphans =>
    have hnewline : ∀ l ∈ Verdict.keptTexts (exclusionPass s t), '\n' ∉ l :=
      fun l => Policy.newline_not_mem_of_mem_keptTexts_scan
    rw [Mode.finish, namedIn_lines_pass, Policy.pass]
    exact congrArg _ (Policy.keptTexts_scan_lines_ofLines _ hnewline).symm

/-- What trimming and every pass keep, sieving keeps. -/
theorem sieve_text_keeps {P : Text → Prop} (htrim : ∀ t, P t → P (Text.trim t))
    (hpass : ∀ (p : Policy) t, P t → P (p.pass t)) (m : Mode) (s : NameSet) {t : Text} (h : P t) :
    P (sieve m s t).text := by
  cases hs : s.isEmpty with
  | true => rwa [sieve, if_pos hs]
  | false =>
    rw [sieve_text_eq_finish m hs]
    have hfirst := hpass (Policy.excluding s) _ (htrim t h)
    cases m with
    | exclusionOnly => exact hfirst
    | pruneOrphans => exact hpass _ _ hfirst

/-- No relationship goes once the excluded entities are gone. -/
theorem relationshipsOf_lines_finish (m : Mode) (t : Text) :
    relationshipsOf (Text.lines (m.finish t)) = relationshipsOf (Text.lines t) := by
  cases m with
  | exclusionOnly => rfl
  | pruneOrphans =>
    rw [Mode.finish, relationshipsOf_lines_pass]
    exact List.filter_eq_self.mpr fun _ _ => rfl

theorem Mode.trim_finish_congr (m : Mode) {t u : Text} (h : Text.trim t = Text.trim u) :
    Text.trim (m.finish t) = Text.trim (m.finish u) := by
  cases m with
  | exclusionOnly => exact h
  | pruneOrphans =>
    have hnamed : namedIn (Text.lines t) = namedIn (Text.lines u) := by
      rw [namedIn, namedIn, ← relationshipsOf_lines_trim t, h, relationshipsOf_lines_trim]
    rw [Mode.finish, Mode.finish, hnamed]
    exact Policy.trim_pass_congr _ h

/-- Up to blank ends, an outcome depends on no more than what the exclusion pass leaves. -/
theorem trim_sieve_text (m : Mode) {s : NameSet} (hs : s.isEmpty = false) (t : Text) :
    Text.trim (sieve m s t).text = Text.trim (m.finish ((Policy.excluding s).pass t)) := by
  rw [sieve_text_eq_finish m hs]
  exact m.trim_finish_congr (Policy.trim_pass_trim _ t)

end EntitySieve
