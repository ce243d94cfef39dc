import EntitySieve.Diagram.Summary
import EntitySieve.Proofs.TextPass

/-! What an outcome declares, read off what the text declares. Excluding takes away the excluded
entities and the relationships that name one. Pruning then takes away the entities that are left
without a relationship and no relationship, so no orphan remains. -/
namespace EntitySieve

/-- A choice among names that come once each is the same as one made before the repeats went. -/
theorem eraseDups_filter {α : Type _} [BEq α] [LawfulBEq α] (p : α → Bool) :
    ∀ xs : List α, (xs.filter p).eraseDups = xs.eraseDups.filter p
  | [] => by simp
  | x :: xs => by
    have ih := eraseDups_filter p (xs.filter fun y => !y == x)
    rw [List.filter_filter] at ih
    rw [List.eraseDups_cons, List.filter_cons, List.filter_cons]
    split
    · rw [List.eraseDups_cons, List.filter_filter, ← ih]
      simp only [Bool.and_comm]
    · rename_i hx
      -- The name is left out, so leaving out its repeats changes nothing.
      rw [← ih]
      congr 1
      apply List.filter_congr
      intro y hy
      by_cases hyx : y = x <;> simp_all
termination_by xs => xs.length
decreasing_by exact Nat.lt_succ_of_le (List.length_filter_le _ _)

theorem eraseDups_eraseDups {α : Type _} [BEq α] [LawfulBEq α] :
    ∀ xs : List α, xs.eraseDups.eraseDups = xs.eraseDups
  | [] => rfl
  | x :: xs => by
    have hothers : ((xs.filter fun y => !y == x).eraseDups.filter fun y => !y == x) =
        (xs.filter fun y => !y == x).eraseDups := by
      rw [← eraseDups_filter, List.filter_filter]
      simp only [Bool.and_self]
    rw [List.eraseDups_cons, List.eraseDups_cons, hothers, eraseDups_eraseDups]
termination_by xs => xs.length
decreasing_by exact Nat.lt_succ_of_le (List.length_filter_le _ _)

/-- Of two lists in a row the repeats may go from each list first. -/
theorem eraseDups_append_congr {α : Type _} [BEq α] [LawfulBEq α] {xs xs' ys ys' : List α}
    (hx : xs.eraseDups = xs'.eraseDups) (hy : ys.eraseDups = ys'.eraseDups) :
    (xs ++ ys).eraseDups = (xs' ++ ys').eraseDups := by
  have hmem (x : α) : x ∈ xs ↔ x ∈ xs' := by rw [← List.mem_eraseDups, hx, List.mem_eraseDups]
  rw [List.eraseDups_append, List.eraseDups_append, hx]
  unfold List.removeAll
  rw [eraseDups_filter, eraseDups_filter, hy]
  simp only [List.elem_eq_contains, List.contains_eq_mem, hmem]

theorem eraseDups_flatMap {α β : Type _} [BEq β] [LawfulBEq β] (f : α → List β) (xs : List α) :
    (xs.flatMap fun x => (f x).eraseDups).eraseDups = (xs.flatMap f).eraseDups := by
  induction xs with
  | nil => rfl
  | cons x xs ih =>
    rw [List.flatMap_cons, List.flatMap_cons]
    exact eraseDups_append_congr (eraseDups_eraseDups (f x)) ih

namespace Summary

/-- What is left of a summary without the names of a set. -/
def excluding (x : Summary) (s : NameSet) : Summary where
  entities := x.entities.filter fun e => decide (e ∉ s)
  relationships := x.relationships.filter fun r => decide (s.Spares r)

/-- The relationships of a summary and the entities that one of them names. -/
def connected (x : Summary) : Summary where
  entities := x.entities.filter fun e => x.relationships.any (·.endpoints.contains e)
  relationships := x.relationships

theorem orphans_connected (x : Summary) : x.connected.orphans = [] := by
  unfold orphans connected
  rw [List.filter_filter, List.filter_eq_nil_iff]
  intro e _
  simp

theorem ofText_trim (t : Text) : ofText (Text.trim t) = ofText t := by
  rw [ofText, ofText, relationshipsOf_lines_trim, entitiesOf_lines_trim]

/-- A pass takes from the summary what its policy takes from the text. -/
theorem ofText_pass (p : Policy) (t : Text) :
    ofText (p.pass t) =
      ⟨(ofText t).entities.filter fun e => !p.skips e, (ofText t).relationships.filter p.keeps⟩ := by
  rw [ofText, relationshipsOf_lines_pass, entitiesOf_lines_pass, eraseDups_filter]
  rfl

theorem ofText_pass_excluding (s : NameSet) (t : Text) :
    ofText ((Policy.excluding s).pass t) = (ofText t).excluding s := by
  rw [ofText_pass, excluding, funext (Policy.excluding_keeps s)]
  simp only [Policy.excluding_skips, decide_not]

theorem ofText_finish_pruneOrphans (t : Text) :
    ofText (Mode.pruneOrphans.finish t) = (ofText t).connected := by
  rw [Mode.finish, ofText_pass, connected]
  congr 1
  · apply List.filter_congr
    intro e _
    rw [Bool.eq_iff_iff]
    simp [Policy.onlyNamed, namedIn, ofText]
  · simp [Policy.onlyNamed]

theorem excluding_of_isEmpty (x : Summary) {s : NameSet} (hs : s.isEmpty = true) :
    x.excluding s = x := by
  have hnone : ∀ e, e ∉ s := NameSet.isEmpty_iff.mp hs
  have he : ∀ e ∈ x.entities, decide (e ∉ s) = true := fun e _ => decide_eq_true (hnone e)
  have hr : ∀ r ∈ x.relationships, decide (s.Spares r) = true :=
    fun r _ => decide_eq_true fun e _ => hnone e
  rw [excluding, List.filter_eq_self.mpr he, List.filter_eq_self.mpr hr]

theorem ofText_sieve_exclusionOnly (s : NameSet) (t : Text) :
    ofText (sieve .exclusionOnly s t).text = (ofText t).excluding s := by
  cases hs : s.isEmpty with
  | true =>
    rw [sieve, if_pos hs, excluding_of_isEmpty _ hs]
    rfl
  | false =>
    rw [sieve_text_eq_finish _ hs, Mode.finish, ofText_pass_excluding, ofText_trim]

theorem ofText_sieve_pruneOrphans {s : NameSet} (hs : s.isEmpty = false) (t : Text) :
    ofText (sieve .pruneOrphans s t).text = ((ofText t).excluding s).connected := by
  rw [sieve_text_eq_finish _ hs, ofText_finish_pruneOrphans, ofText_pass_excluding, ofText_trim]

end Summary

/-- The summary of an outcome is what excluding, and then pruning, leaves of the summary of the
text; after pruning nothing is an orphan. -/
theorem summary_of_sieve (s : NameSet) (t : Text) :
    Summary.ofText (sieve .exclusionOnly s t).text = (Summary.ofText t).excluding s ∧
      (s.isEmpty = false →
        Summary.ofText (sieve .pruneOrphans s t).text =
            ((Summary.ofText t).excluding s).connected ∧
          (Summary.ofText (sieve .pruneOrphans s t).text).orphans = []) := by
  refine ⟨Summary.ofText_sieve_exclusionOnly s t, fun hs => ?_⟩
  have hpruned := Summary.ofText_sieve_pruneOrphans hs t
  exact ⟨hpruned, by rw [hpruned, Summary.orphans_connected]⟩

/-- Blank ends, a block opened twice, one that is never closed, and a relationship without its
second endpoint. -/
def unevenBlocks : Text :=
  Text.ofLines ["", " C \x7b", "A \x7b", " x", "\x7d", "B \x7b", "A \x7b", "A || B", "A ||",
    "C -- o-- D", " "]

theorem summary_of_sieve_unevenBlocks :
    (NameSet.ofList ["B"]).isEmpty = false ∧
      Summary.ofText (sieve .pruneOrphans (NameSet.ofList ["B"]) unevenBlocks).text =
        ⟨["C", "A"], [⟨some "A", none⟩, ⟨some "C", some "o--"⟩]⟩ := by
  have hs : (NameSet.ofList ["B"]).isEmpty = false := by decide
  have h := (summary_of_sieve (NameSet.ofList ["B"]) unevenBlocks).2 hs
  exact ⟨hs, h.1.trans (by decide +kernel)⟩

end EntitySieve
