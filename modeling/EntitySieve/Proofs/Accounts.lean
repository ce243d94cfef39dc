import Mathlib.Data.List.Basic
import EntitySieve.Proofs.Composition
import EntitySieve.Proofs.Inspection

/-! What the figures of an outcome say. Each pass drops as many lines as it counts and lists among
other lines, and every opening line of the text is kept or listed by one of the passes. A pass keeps
no body line before the first opening line, so an outcome is never a single empty line, and its line
count tells whether it is empty. -/
namespace EntitySieve

namespace Policy
variable {p : Policy}

/-- Outside the blocks that it keeps, a pass keeps no body line. -/
theorem read_ne_body_of_head? {owner : Option Text} {ls : List Text}
    (ho : ∀ e ∈ owner, p.skips e = true) : ∀ l ∈ (p.kept owner ls).head?, Line.read l ≠ .body := by
  induction ls generalizing owner with
  | nil => simp
  | cons l ls ih =>
    rw [kept_cons]
    cases ha : p.admits owner (Line.read l) with
    | true =>
      intro k hk hbody
      obtain rfl : l = k := by simpa using hk
      rw [hbody] at ha
      obtain ⟨e, he, hskips⟩ := (p.admits_body_iff owner).mp ha
      simp [ho e he] at hskips
    | false =>
      apply ih
      cases hl : Line.read l with
      | header | relationship | body => exact ho
      | opening e =>
        intro x hx
        obtain rfl := Option.some.inj hx
        simpa [hl, admits] using ha
      | closing =>
        intro x hx
        contradiction

theorem kept_ne_blank (ls : List Text) : p.kept none ls ≠ [[]] := by
  intro h
  have hnone : ∀ e ∈ (none : Option Text), p.skips e = true := by simp
  exact read_ne_body_of_head? hnone [] (by rw [h]; rfl) read_nil

end Policy

namespace Verdict

/-- What is read in the lines that a pass drops, if a pass decides by that alone. -/
theorem filterMap_dropped_scan {α : Type} {g : Line → Option α} {p : Policy} {stays : α → Bool}
    (hg : ∀ b l x, g l = some x → (p.step b l).2 = stays x) (b : OpenBlock) (ls : List Text) :
    ((p.scan b ls).filter fun v => !v.kept).filterMap (fun v => g v.line) =
      (ls.filterMap fun l => g (Line.read l)).filter fun x => !stays x := by
  induction ls generalizing b with
  | nil => rfl
  | cons l ls ih =>
    rw [Policy.scan, List.filter_cons]
    cases hx : g (Line.read l) with
    | none => split <;> simp [Policy.judge, hx, ih]
    | some x =>
      have hkept : (p.judge b l).kept = stays x := hg b _ x hx
      rw [hkept]
      split <;> simp_all [Policy.judge]

theorem droppedRelationships_scan (p : Policy) (b : OpenBlock) (ls : List Text) :
    droppedRelationships (p.scan b ls) = (relationshipsOf ls).filter fun r => !p.keeps r :=
  filterMap_dropped_scan (fun b _ _ h => p.step_of_relationship? b h) b ls

theorem droppedEntities_scan (p : Policy) (b : OpenBlock) (ls : List Text) :
    droppedEntities (p.scan b ls) = (entitiesOf ls).filter fun e => p.skips e := by
  rw [droppedEntities, filterMap_dropped_scan fun b _ _ h => p.step_of_entity? b h, entitiesOf]
  simp only [Bool.not_not]

/-- A line declares one thing at most. -/
theorem length_declared_le (vs : List Verdict) :
    (vs.filterMap fun v => v.line.relationship?).length +
        (vs.filterMap fun v => v.line.entity?).length ≤ vs.length := by
  induction vs with
  | nil => simp
  | cons v vs ih =>
    have hone : v.line.relationship? = none ∨ v.line.entity? = none := by
      cases v.line <;> simp [Line.relationship?, Line.entity?]
    cases hr : v.line.relationship? <;> cases he : v.line.entity? <;> simp [hr, he] at hone ⊢ <;>
      omega

theorem length_dropped_add_le (vs : List Verdict) :
    (droppedRelationships vs).length + (droppedEntities vs).length + (keptTexts vs).length ≤
      vs.length := by
  have hdropped := length_declared_le (vs.filter fun v => !v.kept)
  have hall := List.length_eq_length_filter_add (l := vs) (·.kept)
  rw [keptTexts, List.length_map]
  unfold droppedRelationships droppedEntities
  omega

/-- Every opening line is kept or listed as dropped. -/
theorem entities_perm (p : Policy) (b : OpenBlock) (ls : List Text) :
    (entitiesOf (keptTexts (p.scan b ls)) ++ droppedEntities (p.scan b ls)).Perm
      (entitiesOf ls) := by
  rw [entitiesOf_keptTexts, droppedEntities_scan]
  simpa using List.filter_append_perm (fun e => !p.skips e) (entitiesOf ls)

end Verdict

/-- Whether one of the relationships names the entity. -/
def isNamedBy (rs : List Relationship) (e : Text) : Bool := rs.any (·.endpoints.contains e)

theorem not_isNamedBy (rs : List Relationship) (e : Text) :
    (!isNamedBy rs e) = rs.all fun r => decide (e ∉ r.endpoints) := by
  rw [isNamedBy, List.not_any_eq_all_not]
  simp

theorem skips_onlyNamed_namedIn (ls : List Text) (e : Text) :
    (Policy.onlyNamed (namedIn ls)).skips e = !isNamedBy (relationshipsOf ls) e := by
  rw [skips_onlyNamed, isNamedBy, Bool.eq_iff_iff]
  simp [namedIn]

/-- What the figures of an outcome say about the text and about what is left of it. -/
structure Sieved.Accounts (x : Sieved) (m : Mode) (s : NameSet) (t : Text) : Prop where
  inputLines : x.stats.inputLines = (Text.lines (Text.trim t)).length
  outputLines_eq_zero_iff : x.stats.outputLines = 0 ↔ x.text = []
  outputLines : x.text ≠ [] → x.stats.outputLines = 1 + x.text.count '\n'
  outputLines_le : x.stats.outputLines ≤ x.stats.inputLines
  relationshipsRemoved :
    x.stats.relationshipsRemoved + (Summary.ofText x.text).relationships.length =
      (Summary.ofText t).relationships.length
  excludedEntities :
    x.stats.excludedEntities =
      (entitiesOf (Text.lines (Text.trim t))).filter fun e => decide (e ∈ s)
  orphanedEntities :
    x.stats.orphanedEntities =
      match m with
      | .exclusionOnly => []
      | .pruneOrphans =>
        (entitiesOf (Text.lines (Text.trim t))).filter fun e =>
          decide (e ∉ s) && !isNamedBy (Summary.ofText x.text).relationships e
  orphans :
    m = .pruneOrphans →
      x.stats.orphanedEntities.eraseDups =
        (Summary.ofText (sieve .exclusionOnly s t).text).orphans
  /-- Every opening line of the text counts in one of three places. -/
  entities :
    (entitiesOf (Text.lines x.text) ++ x.stats.excludedEntities ++ x.stats.orphanedEntities).Perm
      (entitiesOf (Text.lines (Text.trim t)))
  /-- The opening lines of an entity all count in the same place. -/
  disjoint :
    [entitiesOf (Text.lines x.text), x.stats.excludedEntities,
      x.stats.orphanedEntities].Pairwise List.Disjoint
  le_linesRemoved :
    x.stats.relationshipsRemoved + x.stats.excludedEntities.length +
        x.stats.orphanedEntities.length ≤ x.stats.linesRemoved

theorem sieve_eq_result (m : Mode) {s : NameSet} (hs : s.isEmpty = false) (t : Text) :
    sieve m s t = (Passes.run m s t).result := by
  rw [sieve, if_neg (by simp [hs])]

section Passes
variable (m : Mode) (s : NameSet) (t : Text)

theorem Passes.keptTexts_ne_blank : (Passes.run m s t).keptTexts ≠ [[]] := by
  cases m <;> exact Policy.kept_ne_blank _

theorem Passes.ofLines_keptTexts_eq_nil_iff :
    Text.ofLines (Passes.run m s t).keptTexts = [] ↔ (Passes.run m s t).keptTexts = [] := by
  rw [Text.ofLines_eq_nil_iff, or_iff_left (keptTexts_ne_blank m s t)]

/-- The lines of an outcome are the lines that are kept. -/
theorem filledLines_sieve (hs : s.isEmpty = false) :
    Text.filledLines (sieve m s t).text = (Passes.run m s t).keptTexts := by
  rw [sieve_text m hs]
  exact Text.filledLines_ofLines (fun l => newline_not_mem_of_mem_keptTexts)
    (Passes.keptTexts_ne_blank m s t)

theorem Passes.length_keptTexts (hne : (Passes.run m s t).keptTexts ≠ []) :
    (Passes.run m s t).keptTexts.length =
      1 + (Text.ofLines (Passes.run m s t).keptTexts).count '\n' := by
  rw [← Text.length_lines, Text.lines_ofLines (fun l => newline_not_mem_of_mem_keptTexts) hne]

theorem Passes.inputLines_run :
    (Passes.run m s t).stats.inputLines = (Text.lines (Text.trim t)).length := by
  rw [Passes.stats, Passes.exclusion_run]
  exact Policy.length_scan ..

theorem Passes.relationshipsRemoved_run :
    (Passes.run m s t).stats.relationshipsRemoved =
      ((relationshipsOf (Text.lines t)).filter fun r => !decide (s.Spares r)).length := by
  rw [Passes.stats, Passes.exclusion_run, exclusionPass, Verdict.droppedRelationships_scan,
    relationshipsOf_lines_trim]
  simp only [Policy.excluding_keeps]

theorem Passes.excludedEntities_run :
    (Passes.run m s t).stats.excludedEntities =
      (entitiesOf (Text.lines (Text.trim t))).filter fun e => decide (e ∈ s) := by
  rw [Passes.stats, Passes.exclusion_run]
  exact Verdict.droppedEntities_scan ..

/-- What each pass drops it counts once at most, and it drops no line twice. -/
theorem Passes.dropped_add_le :
    (Passes.run m s t).stats.relationshipsRemoved +
        (Passes.run m s t).stats.excludedEntities.length +
        (Passes.run m s t).stats.orphanedEntities.length + (Passes.run m s t).keptTexts.length ≤
      (Passes.run m s t).stats.inputLines := by
  have hfirst := Verdict.length_dropped_add_le (exclusionPass s t)
  cases m with
  | exclusionOnly => exact hfirst
  | pruneOrphans =>
    have hsecond :=
      Verdict.length_dropped_add_le (orphanPass (Verdict.keptTexts (exclusionPass s t)))
    rw [orphanPass, Policy.length_scan] at hsecond
    simp only [Passes.run, Passes.stats, Passes.keptTexts, Option.map_some, Option.getD_some,
      orphanPass]
    omega

end Passes

section Outcome
variable {m : Mode} {s : NameSet} {t : Text}

theorem relationshipsOf_lines_sieve (hs : s.isEmpty = false) :
    relationshipsOf (Text.lines (sieve m s t).text) =
      (relationshipsOf (Text.lines t)).filter fun r => decide (s.Spares r) := by
  rw [sieve_text_eq_finish m hs, relationshipsOf_lines_finish, relationshipsOf_lines_pass,
    relationshipsOf_lines_trim, funext (Policy.excluding_keeps s)]

theorem relationshipsOf_keptTexts_exclusionPass (hs : s.isEmpty = false) :
    relationshipsOf (Verdict.keptTexts (exclusionPass s t)) =
      relationshipsOf (Text.lines (sieve m s t).text) := by
  rw [relationshipsOf_lines_sieve hs, exclusionPass, Verdict.relationshipsOf_keptTexts,
    relationshipsOf_lines_trim, funext (Policy.excluding_keeps s)]

theorem entitiesOf_lines_sieve (hs : s.isEmpty = false) :
    entitiesOf (Text.lines (sieve m s t).text) = entitiesOf (Passes.run m s t).keptTexts := by
  have hbody : [Line.body].filterMap Line.entity? = [].filterMap Line.entity? := rfl
  rw [sieve_text m hs, entitiesOf_lines,
    Text.apply_kinds_ofLines (f := fun ls => ls.filterMap Line.entity?) hbody
      fun l => newline_not_mem_of_mem_keptTexts]
  exact List.filterMap_map

theorem orphanedEntities_run (hs : s.isEmpty = false) :
    (Passes.run .pruneOrphans s t).stats.orphanedEntities =
      (entitiesOf (Text.lines (Text.trim t))).filter fun e =>
        decide (e ∉ s) &&
          !isNamedBy (relationshipsOf (Text.lines (sieve .pruneOrphans s t).text)) e := by
  have hdropped : (Passes.run .pruneOrphans s t).stats.orphanedEntities =
      Verdict.droppedEntities (orphanPass (Verdict.keptTexts (exclusionPass s t))) := rfl
  rw [hdropped, orphanPass, Verdict.droppedEntities_scan]
  simp only [skips_onlyNamed_namedIn,
    relationshipsOf_keptTexts_exclusionPass (m := .pruneOrphans) hs]
  rw [exclusionPass, Verdict.entitiesOf_keptTexts, List.filter_filter]
  simp only [Policy.excluding_skips, decide_not, Bool.and_comm]

/-- The orphans that pruning lists are those that a summary finds once the set is excluded. -/
theorem eraseDups_orphanedEntities (hs : s.isEmpty = false) :
    (Passes.run .pruneOrphans s t).stats.orphanedEntities.eraseDups =
      (Summary.ofText (sieve .exclusionOnly s t).text).orphans := by
  rw [orphanedEntities_run hs, eraseDups_filter, entitiesOf_lines_trim,
    Summary.ofText_sieve_exclusionOnly, Summary.orphans, Summary.excluding, List.filter_filter,
    relationshipsOf_lines_sieve hs]
  apply List.filter_congr
  intro e _
  rw [not_isNamedBy, Bool.and_comm]
  rfl

theorem entities_run_perm (hs : s.isEmpty = false) :
    (entitiesOf (Text.lines (sieve m s t).text) ++ (Passes.run m s t).stats.excludedEntities ++
        (Passes.run m s t).stats.orphanedEntities).Perm
      (entitiesOf (Text.lines (Text.trim t))) := by
  have hfirst := Verdict.entities_perm (Policy.excluding s) none (Text.lines (Text.trim t))
  rw [entitiesOf_lines_sieve hs]
  cases m with
  | exclusionOnly => exact (List.append_nil _).symm ▸ hfirst
  | pruneOrphans =>
    have hsecond := Verdict.entities_perm
      (Policy.onlyNamed (namedIn (Verdict.keptTexts (exclusionPass s t)))) none
      (Verdict.keptTexts (exclusionPass s t))
    refine (List.Perm.trans ?_ (hsecond.append_right _)).trans hfirst
    simp only [List.append_assoc]
    exact List.perm_append_comm.append_left _

/-- The entities whose opening lines are kept are not excluded, nor are they orphans. -/
theorem mem_entitiesOf_lines_sieve (hs : s.isEmpty = false) {e : Text} :
    e ∈ entitiesOf (Text.lines (sieve m s t).text) ↔
      e ∈ entitiesOf (Text.lines (Text.trim t)) ∧ e ∉ s ∧
        (m = .pruneOrphans →
          isNamedBy (relationshipsOf (Text.lines (sieve m s t).text)) e = true) := by
  have hfirst : e ∈ entitiesOf (Verdict.keptTexts (exclusionPass s t)) ↔
      e ∈ entitiesOf (Text.lines (Text.trim t)) ∧ e ∉ s := by
    rw [exclusionPass, Verdict.entitiesOf_keptTexts, List.mem_filter, Policy.excluding_skips]
    simp
  rw [entitiesOf_lines_sieve hs]
  cases m with
  | exclusionOnly =>
    change e ∈ entitiesOf (Verdict.keptTexts (exclusionPass s t)) ↔ _
    rw [hfirst]
    simp
  | pruneOrphans =>
    change e ∈ entitiesOf (Verdict.keptTexts (orphanPass _)) ↔ _
    rw [orphanPass, Verdict.entitiesOf_keptTexts, List.mem_filter, hfirst,
      skips_onlyNamed_namedIn, relationshipsOf_keptTexts_exclusionPass (m := .pruneOrphans) hs]
    simp [and_assoc]

theorem entities_run_disjoint (hs : s.isEmpty = false) :
    [entitiesOf (Text.lines (sieve m s t).text), (Passes.run m s t).stats.excludedEntities,
      (Passes.run m s t).stats.orphanedEntities].Pairwise List.Disjoint := by
  have hexcluded : ∀ e ∈ (Passes.run m s t).stats.excludedEntities, e ∈ s := by
    rw [Passes.excludedEntities_run]
    intro e he
    simpa using (List.mem_filter.mp he).2
  have horphaned : ∀ e ∈ (Passes.run m s t).stats.orphanedEntities,
      e ∉ s ∧ e ∉ entitiesOf (Text.lines (sieve m s t).text) := by
    cases m with
    | exclusionOnly =>
      intro e he
      contradiction
    | pruneOrphans =>
      rw [orphanedEntities_run hs]
      intro e he
      obtain ⟨-, hout⟩ := List.mem_filter.mp he
      simp only [Bool.and_eq_true, decide_eq_true_eq, Bool.not_eq_true'] at hout
      refine ⟨hout.1, fun hmem => ?_⟩
      simp [((mem_entitiesOf_lines_sieve hs).mp hmem).2.2 rfl] at hout
  simp only [List.pairwise_cons, List.mem_cons, List.not_mem_nil, or_false, forall_eq_or_imp,
    forall_eq, IsEmpty.forall_iff, implies_true, List.Pairwise.nil, and_true]
  refine ⟨⟨fun e he he' => ?_, fun e he he' => (horphaned e he').2 he⟩,
    fun e he he' => (horphaned e he').1 (hexcluded e he)⟩
  exact ((mem_entitiesOf_lines_sieve hs).mp he).2.1 (hexcluded e he')

end Outcome

/-- The figures of an outcome account for all that was removed from the text and for nothing else,
whatever the text looks like. -/
theorem sieve_accounts (m : Mode) {s : NameSet} (hs : s.isEmpty = false) (t : Text) :
    (sieve m s t).Accounts m s t := by
  have hx := sieve_eq_result m hs t
  have hstats : (sieve m s t).stats = (Passes.run m s t).stats := by rw [hx]; rfl
  have htext : (sieve m s t).text = Text.ofLines (Passes.run m s t).keptTexts := by rw [hx]; rfl
  have hdropped := Passes.dropped_add_le m s t
  have houtput : (Passes.run m s t).stats.outputLines = (Passes.run m s t).keptTexts.length := rfl
  constructor
  case inputLines => rw [hstats, Passes.inputLines_run]
  case outputLines_eq_zero_iff =>
    rw [hstats, htext, Passes.ofLines_keptTexts_eq_nil_iff, houtput, List.length_eq_zero_iff]
  case outputLines =>
    rw [hstats, htext, houtput]
    intro hne
    exact Passes.length_keptTexts m s t fun h => hne (by rw [h]; rfl)
  case outputLines_le =>
    rw [hstats]
    omega
  case relationshipsRemoved =>
    have hall := List.length_eq_length_filter_add (l := relationshipsOf (Text.lines t))
      fun r => decide (s.Spares r)
    change (sieve m s t).stats.relationshipsRemoved +
        (relationshipsOf (Text.lines (sieve m s t).text)).length =
      (relationshipsOf (Text.lines t)).length
    rw [hstats, Passes.relationshipsRemoved_run, relationshipsOf_lines_sieve hs]
    omega
  case excludedEntities => rw [hstats, Passes.excludedEntities_run]
  case orphanedEntities =>
    rw [hstats]
    cases m with
    | exclusionOnly => rfl
    | pruneOrphans => exact orphanedEntities_run hs
  case orphans =>
    rintro rfl
    rw [hstats, eraseDups_orphanedEntities hs]
  case entities => simpa only [hstats] using entities_run_perm hs
  case disjoint => simpa only [hstats] using entities_run_disjoint hs
  case le_linesRemoved =>
    rw [hstats, Stats.linesRemoved]
    omega

/-- Blank edges, two blocks of an excluded entity, two of an orphan between them, and relationships
that lack an endpoint or repeat. -/
def repeatedBlocks : Text :=
  Text.ofLines ["", " C \x7b", " x", "A \x7b", "\x7d", "\x7d", "B \x7b", "", "\x7d", "A \x7b",
    "C \x7b", "A || B", "A || B", "B ||", "D \x7b", "", " "]

theorem sieve_accounts_repeatedBlocks :
    (NameSet.ofList ["A"]).isEmpty = false ∧
      (sieve .pruneOrphans (.ofList ["A"]) repeatedBlocks).stats.excludedEntities =
        (["A", "A"] : List Text) ∧
      (sieve .pruneOrphans (.ofList ["A"]) repeatedBlocks).stats.orphanedEntities =
        (["C", "C", "D"] : List Text) ∧
      (Summary.ofText (sieve .exclusionOnly (.ofList ["A"]) repeatedBlocks).text).orphans =
        (["C", "D"] : List Text) := by
  have hs : (NameSet.ofList ["A"]).isEmpty = false := by decide
  have h := sieve_accounts .pruneOrphans hs repeatedBlocks
  have horphaned : (sieve .pruneOrphans (.ofList ["A"]) repeatedBlocks).stats.orphanedEntities =
      (["C", "C", "D"] : List Text) := h.orphanedEntities.trans (by decide +kernel)
  have horphans := h.orphans rfl
  rw [horphaned] at horphans
  exact ⟨hs, h.excludedEntities.trans (by decide +kernel), horphaned,
    horphans.symm.trans (by decide +kernel)⟩

end EntitySieve
