import Mathlib.Logic.Relation
import EntitySieve.Proofs.Document
import EntitySieve.Proofs.TextPass

/-! What an outcome cannot show. Relationships that name an excluded entity, the body lines of its
blocks and whole blocks of it may come and go: the exclusion pass drops them and is left in the same
block as without them, so the outcome is the same up to its blank ends. -/
namespace EntitySieve

/-- Whether lines that follow the given ones belong to the excluded entities. -/
inductive Hidden (s : NameSet) (before : List Text) : List Text → Prop where
  | relationship {l : Text} {r : Relationship} (hl : Line.read l = .relationship r)
      (hr : ∃ e ∈ r.endpoints, e ∈ s) : Hidden s before [l]
  | body {l e : Text} (hl : Line.read l = .body)
      (ho : owner? (before.map Line.read) everywhere before.length = some e) (he : e ∈ s) :
      Hidden s before [l]
  | block (b : EntityBlock)
      (ho : owner? (before.map Line.read) everywhere before.length = none) (he : b.entity ∈ s) :
      Hidden s before b.lines

/-- Whether the second text is the first one with hidden lines put in at some place. -/
def Inserts (s : NameSet) (t u : Text) : Prop :=
  ∃ before added rest, (∀ l ∈ before ++ added ++ rest, '\n' ∉ l) ∧ Hidden s before added ∧
    t = Text.ofLines (before ++ rest) ∧ u = Text.ofLines (before ++ added ++ rest)

section Hidden
variable {s : NameSet} {before added : List Text}

/-- The exclusion pass drops hidden lines and goes on as if they were not there. -/
theorem Hidden.keptTexts_scan (h : Hidden s before added) (rest : List Text) :
    Verdict.keptTexts ((Policy.excluding s).scan ((Policy.excluding s).after none before)
        (added ++ rest)) =
      Verdict.keptTexts ((Policy.excluding s).scan ((Policy.excluding s).after none before)
        rest) := by
  rw [Policy.after_eq_owner?]
  cases h with
  | @relationship l r hl hr =>
    have hdrop : (Policy.excluding s).keeps r = false := by
      simpa [Policy.excluding] using hr
    rw [List.singleton_append, Verdict.keptTexts_scan_cons, hl]
    simp [Policy.step, hdrop]
  | body hl ho he =>
    rw [List.singleton_append, Verdict.keptTexts_scan_cons, hl, ho]
    simp [Policy.step, OpenBlock.keepsBody, Policy.blockOf, Policy.excluding, he]
  | block b ho he =>
    have hitem := Verdict.keptTexts_scan_item (Policy.excluding s) (.block b) rest
    rw [ho]
    simpa [Item.keptBy, Item.lines, Policy.excluding, he] using hitem

theorem Inserts.pass_eq {t u : Text} (h : Inserts s t u) :
    (Policy.excluding s).pass t = (Policy.excluding s).pass u := by
  obtain ⟨before, added, rest, hnewline, hhidden, rfl, rfl⟩ := h
  have hrest : ∀ l ∈ before ++ rest, '\n' ∉ l := by
    intro l hl
    apply hnewline
    simp only [List.mem_append] at hl ⊢
    tauto
  rw [Policy.pass, Policy.pass, Policy.keptTexts_scan_lines_ofLines _ hrest,
    Policy.keptTexts_scan_lines_ofLines _ hnewline, List.append_assoc, Policy.scan_append,
    Policy.scan_append, Verdict.keptTexts_append, Verdict.keptTexts_append,
    hhidden.keptTexts_scan]

end Hidden

/-- Texts that differ by hidden lines, put in or taken out in any number of steps, have the same
outcome up to blank ends. -/
theorem hidden_lines_do_not_show (m : Mode) {s : NameSet} (hs : s.isEmpty = false) {t u : Text}
    (h : Relation.EqvGen (Inserts s) t u) :
    Text.trim (sieve m s t).text = Text.trim (sieve m s u).text := by
  have hpass : (Policy.excluding s).pass t = (Policy.excluding s).pass u := by
    induction h with
    | rel t u h => exact h.pass_eq
    | refl t => rfl
    | symm t u _ ih => exact ih.symm
    | trans t u v _ _ ihtu ihuv => exact ihtu.trans ihuv
  rw [trim_sieve_text m hs, trim_sieve_text m hs, hpass]

/-- A block of A, and a relationship with B inside it. -/
def relatedBlock : Text := Text.ofLines ["A \x7b", " x", "B o--o A", "\x7d", "C || A"]

/-- The same block after one of B that has two lines. -/
def followingBlock : Text :=
  Text.ofLines ["B \x7b", " y", " z", "\x7d", "A \x7b", " x", "\x7d", "C || A"]

theorem relatedBlock_eqvGen_followingBlock :
    Relation.EqvGen (Inserts (.ofList ["B"])) relatedBlock followingBlock := by
  have hrelationship : Inserts (.ofList ["B"])
      (Text.ofLines ["A \x7b", " x", "\x7d", "C || A"]) relatedBlock :=
    ⟨["A \x7b", " x"], ["B o--o A"], ["\x7d", "C || A"], by decide,
      .relationship (r := ⟨some "B", some "A"⟩) (by decide +kernel) ⟨"B", by decide, by decide⟩,
      rfl, rfl⟩
  have hblock : Inserts (.ofList ["B"]) (Text.ofLines ["A \x7b", " x", "\x7d", "C || A"])
      (Text.ofLines ["B \x7b", " y", "\x7d", "A \x7b", " x", "\x7d", "C || A"]) :=
    ⟨[], ["B \x7b", " y", "\x7d"], ["A \x7b", " x", "\x7d", "C || A"], by decide,
      .block ⟨"B", "B \x7b", [" y"], "\x7d", by decide +kernel, by decide +kernel,
        by decide +kernel⟩ rfl (by decide), rfl, rfl⟩
  have hbody : Inserts (.ofList ["B"])
      (Text.ofLines ["B \x7b", " y", "\x7d", "A \x7b", " x", "\x7d", "C || A"]) followingBlock :=
    ⟨["B \x7b", " y"], [" z"], ["\x7d", "A \x7b", " x", "\x7d", "C || A"], by decide,
      .body (e := "B") (by decide +kernel) (by decide +kernel) (by decide), rfl, rfl⟩
  exact .trans _ _ _ (.symm _ _ (.rel _ _ hrelationship))
    (.trans _ _ _ (.rel _ _ hblock) (.rel _ _ hbody))

theorem hidden_lines_do_not_show_followingBlock :
    (NameSet.ofList ["B"]).isEmpty = false ∧
      Relation.EqvGen (Inserts (.ofList ["B"])) relatedBlock followingBlock ∧
      Text.trim (sieve .pruneOrphans (.ofList ["B"]) relatedBlock).text =
        Text.trim (sieve .pruneOrphans (.ofList ["B"]) followingBlock).text := by
  have hs : (NameSet.ofList ["B"]).isEmpty = false := by decide
  exact ⟨hs, relatedBlock_eqvGen_followingBlock,
    hidden_lines_do_not_show .pruneOrphans hs relatedBlock_eqvGen_followingBlock⟩

end EntitySieve
