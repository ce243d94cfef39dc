import Mathlib.Data.List.Basic
import EntitySieve.Proofs.Accounts

/-! Excluding more. Every rule for a single line asks more of the line when the set is larger, and
pruning asks more than excluding, so the lines that survive stand among those that survived before.
Only the rule by which pruning judges a closing line looks at other lines that survive; if every
closing line closes a block, it too comes down to an entity. -/
namespace EntitySieve

theorem linesAt_sublist {α : Type} {chosen chosen' : Nat → Bool}
    (h : ∀ i, chosen i = true → chosen' i = true) (ls : List α) (i : Nat) :
    (linesAt chosen ls i).Sublist (linesAt chosen' ls i) :=
  (List.monotone_filter_right (List.range i) h).filterMap _

section Larger
variable {m : Mode} {s s' : NameSet} {ls : List Line} {i : Nat} (hsub : ∀ e ∈ s, e ∈ s')
include hsub

theorem NameSet.Spares.of_larger {r : Relationship} (h : s'.Spares r) : s.Spares r :=
  fun e he hes => h e he (hsub e hes)

theorem Referenced.of_larger {e : Text} (h : Referenced s' ls e) : Referenced s ls e := by
  obtain ⟨r, hr, hspares, he⟩ := h
  exact ⟨r, hr, hspares.of_larger hsub, he⟩

theorem Mode.KeepsEntity.of_larger {e : Text} (h : m.KeepsEntity s' ls e) : m.KeepsEntity s ls e :=
  ⟨fun hes => h.1 (hsub e hes), fun hm => (h.2 hm).of_larger hsub⟩

/-- What excluding asks of a line it asks all the more with a larger set, in any text. -/
theorem ExcludingKeeps.of_larger (h : ExcludingKeeps s' ls i) : ExcludingKeeps s ls i := by
  unfold ExcludingKeeps at h ⊢
  cases hl : ls[i]? with
  | none => simp [hl] at h
  | some l =>
    rw [hl] at h
    cases l with
    | header => trivial
    | relationship r => exact NameSet.Spares.of_larger hsub h
    | opening e => exact fun hes => h (hsub e hes)
    | closing => exact fun e he hes => h e he (hsub e hes)
    | body =>
      obtain ⟨e, he, hes⟩ := h
      exact ⟨e, he, fun hmem => hes (hsub e hmem)⟩

/-- In either mode a line goes by its entity, or is judged on its own. -/
theorem Mode.Keeps.of_larger (hc : ClosesBlocks ls) (h : m.Keeps s' ls i) : m.Keeps s ls i := by
  cases hl : ls[i]? with
  | none => simp [Mode.Keeps, ExcludingKeeps, hl] at h
  | some l =>
    cases l with
    | header => exact keeps_header hl
    | relationship r =>
      rw [keeps_relationship_iff hl] at h ⊢
      exact h.of_larger hsub
    | opening e =>
      rw [keeps_opening_iff hl] at h ⊢
      exact h.of_larger hsub
    | closing =>
      obtain ⟨e, ho⟩ := hc i hl
      rw [keeps_closing_iff hl ho] at h ⊢
      exact h.of_larger hsub
    | body =>
      have hexcluding := h.1
      rw [ExcludingKeeps, hl] at hexcluding
      obtain ⟨e, ho, -⟩ := hexcluding
      rw [keeps_body_iff hl ho] at h ⊢
      exact h.of_larger hsub

theorem Passes.survives_of_larger {t : Text}
    (hc : m = .pruneOrphans → ClosesBlocks (Text.kinds t))
    (h : (Passes.run m s' t).survives i = true) : (Passes.run m s t).survives i = true := by
  cases m with
  | exclusionOnly =>
    rw [survives_iff_excludingKeeps] at h ⊢
    exact h.of_larger hsub
  | pruneOrphans =>
    rw [survives_iff_keeps] at h ⊢
    exact h.of_larger hsub ((closesBlocks_trim t).mpr (hc rfl))

theorem NameSet.isEmpty_of_larger (hs : s.isEmpty = false) : s'.isEmpty = false := by
  rw [← Bool.not_eq_true, isEmpty_iff] at hs ⊢
  exact fun hnone => hs fun e he => hnone e (hsub e he)

end Larger

section Outcomes
variable {m m' : Mode} {s s' : NameSet} {t : Text}

theorem filledLines_sublist_of_survives (hs : s.isEmpty = false) (hs' : s'.isEmpty = false)
    (h : ∀ i, (Passes.run m' s' t).survives i = true → (Passes.run m s t).survives i = true) :
    (Text.filledLines (sieve m' s' t).text).Sublist (Text.filledLines (sieve m s t).text) := by
  rw [filledLines_sieve m s t hs, filledLines_sieve m' s' t hs', Passes.keptTexts_run,
    Passes.keptTexts_run]
  exact linesAt_sublist h _ _

theorem filledLines_sieve_sublist (hs : s.isEmpty = false) :
    (Text.filledLines (sieve m s t).text).Sublist (Text.lines (Text.trim t)) := by
  have hall : (linesAt (Passes.run m s t).survives (Text.lines (Text.trim t))
      (Text.lines (Text.trim t)).length).Sublist
        (linesAt everywhere (Text.lines (Text.trim t)) (Text.lines (Text.trim t)).length) :=
    linesAt_sublist (fun _ _ => rfl) _ _
  rwa [linesAt_everywhere, List.take_length, ← Passes.keptTexts_run,
    ← filledLines_sieve m s t hs] at hall

theorem survives_exclusionOnly_of_pruneOrphans {i : Nat}
    (h : (Passes.run .pruneOrphans s t).survives i = true) :
    (Passes.run .exclusionOnly s t).survives i = true := by
  rw [pruneOrphans_admits, Bool.and_eq_true] at h
  exact h.1

end Outcomes

/-- Neither pruning nor excluding more brings a line back: what is left are lines of what was left
before, and each survives where it stood. Pruning with a larger set needs that every closing line
closes a block. -/
theorem excluding_more_leaves_less {s : NameSet} (hs : s.isEmpty = false) (t : Text) :
    (Text.filledLines (sieve .pruneOrphans s t).text).Sublist
        (Text.filledLines (sieve .exclusionOnly s t).text) ∧
      (Text.filledLines (sieve .exclusionOnly s t).text).Sublist (Text.lines (Text.trim t)) ∧
      ∀ (m : Mode) (s' : NameSet), (∀ e ∈ s, e ∈ s') →
        (m = .pruneOrphans → ClosesBlocks (Text.kinds t)) →
          (Text.filledLines (sieve m s' t).text).Sublist (Text.filledLines (sieve m s t).text) ∧
            ∀ i, (Passes.run m s' t).survives i = true → (Passes.run m s t).survives i = true := by
  refine ⟨?_, filledLines_sieve_sublist hs, fun m s' hsub hc => ?_⟩
  · apply filledLines_sublist_of_survives hs hs
    exact fun i => survives_exclusionOnly_of_pruneOrphans
  · have hsurvives : ∀ i, (Passes.run m s' t).survives i = true →
        (Passes.run m s t).survives i = true := fun i => Passes.survives_of_larger hsub hc
    have hs' := NameSet.isEmpty_of_larger hsub hs
    exact ⟨filledLines_sublist_of_survives hs hs' hsurvives, hsurvives⟩

/-- Without B, the block of A that B's block replaces has no relationship left. -/
def sharedEntity : Text :=
  Text.ofLines ["A \x7b", " x", "B \x7b", "", "\x7d", "C \x7b", "\x7d", "D \x7b", " y", "\x7d",
    "A || B", "D o--o E", "C || D"]

theorem excluding_more_leaves_less_sharedEntity :
    (NameSet.ofList ["C"]).isEmpty = false ∧
      (∀ e ∈ NameSet.ofList ["C"], e ∈ NameSet.ofList ["B", "C"]) ∧
      ClosesBlocks (Text.kinds sharedEntity) ∧
      (["D \x7b", " y", "\x7d", "D o--o E"] : List Text).Sublist
        (Text.filledLines (sieve .pruneOrphans (.ofList ["C"]) sharedEntity).text) := by
  have hs : (NameSet.ofList ["C"]).isEmpty = false := by decide
  have hsub : ∀ e ∈ NameSet.ofList ["C"], e ∈ NameSet.ofList ["B", "C"] := by
    intro e he
    obtain rfl : e = "C" := by simpa using he
    decide
  have hc : ClosesBlocks (Text.kinds sharedEntity) := by decide +kernel
  have hleft : Text.filledLines (sieve .pruneOrphans (.ofList ["B", "C"]) sharedEntity).text =
      (["D \x7b", " y", "\x7d", "D o--o E"] : List Text) := by decide +kernel
  obtain ⟨-, -, hlarger⟩ := excluding_more_leaves_less hs sharedEntity
  exact ⟨hs, hsub, hc, hleft ▸ (hlarger .pruneOrphans _ hsub fun _ => hc).1⟩

/-- Two closing lines for the block of B. Pruning takes the second one along with the opening line
of A, which is the last boundary before it that excluding B keeps. -/
def strayClosing : Text := Text.ofLines ["A \x7b", "B \x7b", "\x7d", "\x7d"]

example : ¬ (Text.filledLines (sieve .pruneOrphans (.ofList ["A", "B"]) strayClosing).text).Sublist
    (Text.filledLines (sieve .pruneOrphans (.ofList ["B"]) strayClosing).text) := by
  decide +kernel

end EntitySieve
