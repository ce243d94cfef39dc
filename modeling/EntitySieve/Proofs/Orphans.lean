import EntitySieve.Proofs.Composition
import EntitySieve.Proofs.Inspection

/-! Pruning as excluding. The entities that excluding leaves without a relationship can be listed and
excluded as well; no relationship is lost by that, since each one keeps its endpoints from being
orphans. -/
namespace EntitySieve

theorem mem_orphans {x : Summary} {e : Text} :
    e ∈ x.orphans ↔ e ∈ x.entities ∧ ∀ r ∈ x.relationships, e ∉ r.endpoints := by
  simp [Summary.orphans]

/-- The entities that are orphans once a set is excluded. -/
def NameSet.orphaned (s : NameSet) (t : Text) : List Text :=
  (Summary.ofText (sieve .exclusionOnly s t).text).orphans

section Orphaned
variable {s : NameSet} {t : Text}

theorem mem_orphaned {e : Text} :
    e ∈ s.orphaned t ↔
      e ∈ entitiesOf (Text.lines t) ∧ e ∉ s ∧ ¬ Referenced s (Text.kinds t) e := by
  rw [NameSet.orphaned, mem_orphans, Summary.ofText_sieve_exclusionOnly, Summary.excluding,
    referenced_iff]
  simp [Summary.ofText, and_assoc]

/-- A relationship that is spared keeps its endpoints from being orphans. -/
theorem spares_union_orphaned {r : Relationship} (hr : r ∈ relationshipsOf (Text.lines t)) :
    (s ∪ .ofList (s.orphaned t)).Spares r ↔ s.Spares r := by
  constructor
  · intro h e he hes
    exact h e he (NameSet.mem_union.mpr (Or.inl hes))
  · intro h e he hmem
    rcases NameSet.mem_union.mp hmem with hes | horphan
    · exact h e he hes
    · rw [NameSet.mem_ofList, mem_orphaned] at horphan
      exact horphan.2.2 (referenced_iff.mpr ⟨r, hr, h, he⟩)

theorem keepsEntity_orphaned_iff {e : Text} (he : e ∈ entitiesOf (Text.lines t)) :
    Mode.exclusionOnly.KeepsEntity (s ∪ .ofList (s.orphaned t)) (Text.kinds t) e ↔
      Mode.pruneOrphans.KeepsEntity s (Text.kinds t) e := by
  rw [Mode.KeepsEntity, Mode.KeepsEntity, NameSet.mem_union, NameSet.mem_ofList, mem_orphaned]
  constructor
  · rintro ⟨hout, -⟩
    have hes : e ∉ s := fun hes => hout (Or.inl hes)
    refine ⟨hes, fun _ => ?_⟩
    by_contra href
    exact hout (Or.inr ⟨he, hes, href⟩)
  · rintro ⟨hes, href⟩
    refine ⟨?_, fun hm => by contradiction⟩
    rintro (hmem | ⟨-, -, hnot⟩)
    · exact hes hmem
    · exact hnot (href rfl)

end Orphaned

/-- If all closing lines close blocks, pruning a text is excluding the orphans along with the set. -/
theorem prune_eq_exclude_orphans {s : NameSet} (hs : s.isEmpty = false) {t : Text}
    (h : ClosesBlocks (Text.kinds t)) :
    (sieve .pruneOrphans s t).text =
      (sieve .exclusionOnly (s ∪ .ofList (s.orphaned t)) t).text := by
  rw [sieve_text_eq_pass _ hs h, sieve_text_eq_pass _ (NameSet.isEmpty_union_left hs _) h]
  apply Policy.pass_congr
  · intro r hr
    rw [relationshipsOf_lines_trim] at hr
    exact (decide_eq_decide.mpr (spares_union_orphaned hr)).symm
  · intro e he
    rw [entitiesOf_lines_trim] at he
    exact congrArg (!·) (decide_eq_decide.mpr (keepsEntity_orphaned_iff he)).symm

/-- Two blocks of A, one of them replaced, an orphan between them and a blank start. -/
def orphanBetween : Text :=
  Text.ofLines ["", "  A \x7b", " x", "C \x7b", " y", "\x7d", "A \x7b", "\x7d", "A || D", "C || B"]

theorem prune_eq_exclude_orphans_orphanBetween :
    (NameSet.ofList ["B"]).isEmpty = false ∧ ClosesBlocks (Text.kinds orphanBetween) ∧
      (sieve .exclusionOnly (NameSet.ofList ["B"] ∪ .ofList ["C"]) orphanBetween).text =
        (sieve .pruneOrphans (NameSet.ofList ["B"]) orphanBetween).text := by
  have hs : (NameSet.ofList ["B"]).isEmpty = false := by decide
  have hc : ClosesBlocks (Text.kinds orphanBetween) := by decide +kernel
  have horphaned : (NameSet.ofList ["B"]).orphaned orphanBetween =
      (["C"] : List Text) := by decide +kernel
  have h := prune_eq_exclude_orphans hs hc
  rw [horphaned] at h
  exact ⟨hs, hc, h.symm⟩

end EntitySieve
