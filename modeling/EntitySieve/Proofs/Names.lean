import EntitySieve.Proofs.Accounts
import EntitySieve.Proofs.LineKinds

/-! The names of a text. What a summary shows is all that sieving asks a set about, so a set acts on
a text by the names that it shares with the summary. These are words: a name in a set that is empty
or holds a blank removes nothing. -/
namespace EntitySieve

/-- The names that a summary shows, with repeats. -/
def Summary.names (x : Summary) : List Text := x.entities ++ x.relationships.flatMap (·.endpoints)

section Shown
variable {t e : Text}

theorem mem_names_ofText :
    e ∈ (Summary.ofText t).names ↔
      e ∈ entitiesOf (Text.lines t) ∨ ∃ r ∈ relationshipsOf (Text.lines t), e ∈ r.endpoints := by
  simp [Summary.names, Summary.ofText]

theorem isWord_of_mem_names_ofText (h : e ∈ (Summary.ofText t).names) : e.IsWord := by
  rcases mem_names_ofText.mp h with he | ⟨r, hr, he⟩
  · obtain ⟨l, -, hl⟩ := mem_entitiesOf.mp he
    apply Line.isWord_of_mem_names (l := l)
    simp [hl, Line.names]
  · obtain ⟨l, -, hl⟩ := mem_relationshipsOf.mp hr
    apply Line.isWord_of_mem_names (l := l)
    simpa [hl, Line.names] using he

end Shown

section Shared
variable {m : Mode} {s s' : NameSet} {t : Text}

/-- The exclusion pass asks about no other names than those that the summary shows. -/
theorem exclusionPass_congr (h : ∀ e ∈ (Summary.ofText t).names, e ∈ s ↔ e ∈ s') :
    exclusionPass s t = exclusionPass s' t := by
  apply Policy.scan_congr
  · intro r hr
    rw [relationshipsOf_lines_trim] at hr
    rw [Policy.excluding_keeps, Policy.excluding_keeps, decide_eq_decide]
    refine forall₂_congr fun e he => not_congr ?_
    exact h e (mem_names_ofText.mpr (Or.inr ⟨r, hr, he⟩))
  · intro e he
    rw [entitiesOf_lines_trim] at he
    rw [Policy.excluding_skips, Policy.excluding_skips, decide_eq_decide]
    exact h e (mem_names_ofText.mpr (Or.inl he))

theorem Passes.run_congr (h : ∀ e ∈ (Summary.ofText t).names, e ∈ s ↔ e ∈ s') :
    run m s t = run m s' t := by
  cases m <;> simp only [run, exclusionPass_congr h]

/-- Sets that are not empty and share the same names with the summary have the same outcome. -/
theorem sieve_eq_of_shared (hs : s.isEmpty = false) (hs' : s'.isEmpty = false)
    (h : ∀ e ∈ (Summary.ofText t).names, e ∈ s ↔ e ∈ s') : sieve m s t = sieve m s' t := by
  rw [sieve_eq_result m hs, sieve_eq_result m hs', Passes.run_congr h]

theorem relationshipsRemoved_pos_iff :
    0 < (Passes.run m s t).stats.relationshipsRemoved ↔
      ∃ r ∈ relationshipsOf (Text.lines t), ∃ e ∈ r.endpoints, e ∈ s := by
  rw [Passes.relationshipsRemoved_run, List.length_pos_iff_exists_mem]
  simp only [List.mem_filter, Bool.not_eq_true', decide_eq_false_iff_not]
  simp only [NameSet.Spares, not_forall, not_not, exists_prop]

theorem excludedEntities_ne_nil_iff :
    (Passes.run m s t).stats.excludedEntities ≠ [] ↔ ∃ e ∈ entitiesOf (Text.lines t), e ∈ s := by
  rw [Passes.excludedEntities_run, entitiesOf_lines_trim, ne_eq, List.filter_eq_nil_iff]
  simp

/-- The figures show a removal exactly if the set shares a name with the summary. -/
theorem removes_iff (hs : s.isEmpty = false) :
    0 < (sieve m s t).stats.relationshipsRemoved ∨ (sieve m s t).stats.excludedEntities ≠ [] ↔
      ∃ e ∈ (Summary.ofText t).names, e ∈ s := by
  have hstats : (sieve m s t).stats = (Passes.run m s t).stats := by
    rw [sieve_eq_result m hs]
    rfl
  rw [hstats, relationshipsRemoved_pos_iff, excludedEntities_ne_nil_iff]
  constructor
  · rintro (⟨r, hr, e, he, hes⟩ | ⟨e, he, hes⟩)
    · exact ⟨e, mem_names_ofText.mpr (Or.inr ⟨r, hr, he⟩), hes⟩
    · exact ⟨e, mem_names_ofText.mpr (Or.inl he), hes⟩
  · rintro ⟨e, he, hes⟩
    rcases mem_names_ofText.mp he with he | ⟨r, hr, he⟩
    · exact Or.inr ⟨e, he, hes⟩
    · exact Or.inl ⟨r, hr, e, he, hes⟩

end Shared

/-- A set removes something exactly if it shares a name with the summary of the text, and what
sieving does with it depends on the shared names alone. The names of a summary are words and the
first endpoint of a relationship is never absent, so names in a set that are no words remove
nothing, by themselves or along with others. -/
theorem sieve_matches_shown_names (m : Mode) {s : NameSet} (hs : s.isEmpty = false) (t : Text) :
    (0 < (sieve m s t).stats.relationshipsRemoved ∨ (sieve m s t).stats.excludedEntities ≠ [] ↔
        ∃ e ∈ (Summary.ofText t).names, e ∈ s) ∧
      (∀ s' : NameSet, s'.isEmpty = false →
        (∀ e ∈ (Summary.ofText t).names, e ∈ s ↔ e ∈ s') → sieve m s t = sieve m s' t) ∧
      (∀ e ∈ (Summary.ofText t).names, e.IsWord) ∧
      (∀ l r, Line.read l = .relationship r → r.first.isSome = true) ∧
      ((∀ e ∈ s, ¬ e.IsWord) →
        (sieve m s t).stats.relationshipsRemoved = 0 ∧
          (sieve m s t).stats.excludedEntities = []) ∧
      ∀ u : NameSet, (∀ e ∈ u, ¬ e.IsWord) → sieve m (s ∪ u) t = sieve m s t := by
  refine ⟨removes_iff hs, fun s' hs' h => sieve_eq_of_shared hs hs' h,
    fun e he => isWord_of_mem_names_ofText he, fun l r hl => Line.isSome_first hl, ?_, ?_⟩
  · intro hwords
    have hnone : ¬ ∃ e ∈ (Summary.ofText t).names, e ∈ s := by
      rintro ⟨e, he, hes⟩
      exact hwords e hes (isWord_of_mem_names_ofText he)
    simpa only [← removes_iff hs (m := m), not_or, Nat.not_lt, Nat.le_zero, not_not] using hnone
  · intro u hwords
    apply sieve_eq_of_shared (NameSet.isEmpty_union_left hs u) hs
    intro e he
    rw [NameSet.mem_union, or_iff_left]
    exact fun hu => hwords e hu (isWord_of_mem_names_ofText he)

/-- Blocks of A and B, and a relationship of C with each of them. -/
def listedText : Text :=
  Text.ofLines ["A \x7b", "\x7d", "B \x7b", "\x7d", "C || A", "C o-- B"]

/-- The second name of the list A, B begins with a space. -/
theorem sieve_matches_shown_names_spacedList :
    (NameSet.ofCommaList "A").isEmpty = false ∧
      (∀ e ∈ NameSet.ofList [" B"], ¬ e.IsWord) ∧
      (0 < (sieve .pruneOrphans (.ofCommaList "A") listedText).stats.relationshipsRemoved ∨
        (sieve .pruneOrphans (.ofCommaList "A") listedText).stats.excludedEntities ≠ []) ∧
      sieve .pruneOrphans (.ofCommaList "A, B") listedText =
        sieve .pruneOrphans (.ofCommaList "A") listedText := by
  have hs : (NameSet.ofCommaList "A").isEmpty = false := by decide
  have hblank : ∀ e ∈ NameSet.ofList [" B"], ¬ e.IsWord := by
    intro e he
    obtain rfl : e = " B" := by simpa using he
    decide
  have hlist : NameSet.ofCommaList "A, B" = .ofCommaList "A" ∪ .ofList [" B"] := by decide
  obtain ⟨hremoves, -, -, -, -, hunion⟩ := sieve_matches_shown_names .pruneOrphans hs listedText
  rw [hlist]
  exact ⟨hs, hblank, hremoves.mpr ⟨"A", by decide +kernel, by decide⟩, hunion _ hblank⟩

end EntitySieve
