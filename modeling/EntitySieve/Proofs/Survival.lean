import EntitySieve.Proofs.Ruling

/-! Which lines survive, by position. The orphan pass judges the lines that the exclusion pass
kept, so its verdict on a position stands at the number of positions kept before it. -/
namespace EntitySieve

namespace Verdict

def keptAt (vs : List Verdict) (i : Nat) : Bool := vs[i]?.any (·.kept)

/-- How many of the verdicts before a position keep their line. -/
def rank (vs : List Verdict) (i : Nat) : Nat := (vs.take i).countP (·.kept)

end Verdict

/-- Whether every pass keeps the line at a position of the scanned lines. -/
def Passes.survives (p : Passes) (i : Nat) : Bool :=
  Verdict.keptAt p.exclusion i &&
    p.orphan.all fun vs => Verdict.keptAt vs (Verdict.rank p.exclusion i)

namespace Verdict

theorem keptTexts_take (vs : List Verdict) (i : Nat) :
    keptTexts (vs.take i) = linesAt (keptAt vs) (vs.map (·.text)) i := by
  induction i with
  | zero => rfl
  | succ i ih =>
    rw [List.take_add_one, keptTexts_append, ih, linesAt_succ]
    congr 1
    cases h : vs[i]? with
    | none => simp [keptAt, h, keptTexts]
    | some v => cases hk : v.kept <;> simp [keptAt, h, keptTexts, hk]

theorem keptTexts_eq_linesAt (vs : List Verdict) :
    keptTexts vs = linesAt (keptAt vs) (vs.map (·.text)) vs.length := by
  rw [← keptTexts_take, List.take_length]

theorem length_keptTexts_take (vs : List Verdict) (i : Nat) :
    (keptTexts (vs.take i)).length = rank vs i := by
  rw [keptTexts, List.length_map, rank, List.countP_eq_length_filter]

/-- The lines kept before a position come first among the kept lines. -/
theorem take_rank_keptTexts (vs : List Verdict) (i : Nat) :
    (keptTexts vs).take (rank vs i) = keptTexts (vs.take i) := by
  calc (keptTexts vs).take (rank vs i)
      = (keptTexts (vs.take i) ++ keptTexts (vs.drop i)).take (rank vs i) := by
        rw [← keptTexts_append, List.take_append_drop]
    _ = keptTexts (vs.take i) := by rw [← length_keptTexts_take, List.take_left]

theorem rank_succ (vs : List Verdict) (i : Nat) :
    rank vs (i + 1) = rank vs i + (keptAt vs i).toNat := by
  unfold rank keptAt
  rw [List.take_add_one, List.countP_append]
  cases h : vs[i]? with
  | none => simp
  | some v => cases hk : v.kept <;> simp [hk]

/-- A kept line stands among the kept lines at the number of lines kept before it. -/
theorem keptTexts_getElem?_rank {vs : List Verdict} {i : Nat} {v : Verdict}
    (hv : vs[i]? = some v) (hk : v.kept = true) : (keptTexts vs)[rank vs i]? = some v.text := by
  have hnext := take_rank_keptTexts vs (i + 1)
  have hrank : rank vs (i + 1) = rank vs i + 1 := by
    rw [rank_succ, keptAt, hv]
    simp [hk]
  rw [hrank, List.take_add_one, take_rank_keptTexts, List.take_add_one, keptTexts_append,
    hv] at hnext
  have hlast := List.append_cancel_left hnext
  simpa [keptTexts, hk] using hlast

/-- Two passes in a row keep the lines that both keep, each line at its first position. -/
theorem keptTexts_eq_linesAt_rank {vs ws : List Verdict} (h : ws.map (·.text) = keptTexts vs) :
    keptTexts ws =
      linesAt (fun i => keptAt vs i && keptAt ws (rank vs i)) (vs.map (·.text)) vs.length := by
  have hprefix (i : Nat) : keptTexts (ws.take (rank vs i)) =
      linesAt (fun i => keptAt vs i && keptAt ws (rank vs i)) (vs.map (·.text)) i := by
    induction i with
    | zero => simp [rank, keptTexts]
    | succ i ih =>
      rw [rank_succ, linesAt_succ, ← ih]
      cases hv : vs[i]? with
      | none => simp [keptAt, hv]
      | some v =>
        cases hk : v.kept with
        | false => simp [keptAt, hv, hk]
        | true =>
          have htext := keptTexts_getElem?_rank hv hk
          rw [← h, List.getElem?_map, Option.map_eq_some_iff] at htext
          obtain ⟨w, hw, hwv⟩ := htext
          have hki : keptAt vs i = true := by simp [keptAt, hv, hk]
          rw [hki, Bool.toNat_true, List.take_add_one, keptTexts_append]
          congr 1
          cases hwk : w.kept <;> simp [keptAt, hw, hv, hwk, hwv, keptTexts]
  have hall : rank vs vs.length = ws.length := by
    rw [← length_keptTexts_take, List.take_length, ← h, List.length_map]
  rw [← hprefix, hall, List.take_length]

theorem keptAt_scan (p : Policy) (ls : List Text) (i : Nat) :
    keptAt (p.scan none ls) i =
      (ls.map Line.read)[i]?.any (p.admits (owner? (ls.map Line.read) everywhere i)) := by
  rw [keptAt, Policy.scan_getElem?, List.getElem?_map]
  cases hl : ls[i]? with
  | none => rfl
  | some l =>
    obtain ⟨hi, -⟩ := List.getElem?_eq_some_iff.mp hl
    have hafter := p.after_linesAt ls everywhere (Nat.le_of_lt hi)
    rw [linesAt_everywhere] at hafter
    simp [hafter, Policy.judge, Policy.step_owner]

/-- A second pass judges a line in the block that the lines kept by the first pass give. -/
theorem keptAt_scan_rank (p q : Policy) (ls : List Text) {i : Nat}
    (hk : keptAt (p.scan none ls) i = true) :
    keptAt (q.scan none (keptTexts (p.scan none ls))) (rank (p.scan none ls) i) =
      (ls.map Line.read)[i]?.any
        (q.admits (owner? (ls.map Line.read) (keptAt (p.scan none ls)) i)) := by
  obtain ⟨v, hv, hvk⟩ := (Option.any_eq_true _ _).mp hk
  have htext : ls[i]? = some v.text := by
    rw [← Policy.scan_texts p none ls, List.getElem?_map, hv, Option.map_some]
  obtain ⟨hi, -⟩ := List.getElem?_eq_some_iff.mp htext
  have hprefix : keptTexts ((p.scan none ls).take i) = linesAt (keptAt (p.scan none ls)) ls i := by
    rw [keptTexts_take, Policy.scan_texts]
  have hafter := q.after_linesAt ls (keptAt (p.scan none ls)) (Nat.le_of_lt hi)
  rw [keptAt, Policy.scan_getElem?, keptTexts_getElem?_rank hv hvk, take_rank_keptTexts, hprefix,
    hafter, List.getElem?_map, htext]
  simp [Policy.judge, Policy.step_owner]

end Verdict

/-- The kinds of the lines that are scanned. -/
def scannedLines (t : Text) : List Line := (Text.lines (Text.trim t)).map Line.read

section Passes
variable (s : NameSet) (t : Text)

theorem Passes.exclusion_run (m : Mode) : (Passes.run m s t).exclusion = exclusionPass s t := by
  cases m <;> rfl

theorem Passes.survives_exclusionOnly :
    (Passes.run .exclusionOnly s t).survives = Verdict.keptAt (exclusionPass s t) :=
  funext fun _ => Bool.and_true _

theorem Passes.survives_pruneOrphans :
    (Passes.run .pruneOrphans s t).survives = fun i =>
      Verdict.keptAt (exclusionPass s t) i &&
        Verdict.keptAt (orphanPass (Verdict.keptTexts (exclusionPass s t)))
          (Verdict.rank (exclusionPass s t) i) := rfl

theorem exclusionOnly_admits (i : Nat) :
    (Passes.run .exclusionOnly s t).survives i =
      (scannedLines t)[i]?.any
        ((Policy.excluding s).admits (owner? (scannedLines t) everywhere i)) := by
  rw [Passes.survives_exclusionOnly]
  exact Verdict.keptAt_scan _ _ i

/-- Pruning keeps what excluding keeps, less what stands in a block without a relationship. The
block is the one that the lines kept so far give. -/
theorem pruneOrphans_admits (i : Nat) :
    (Passes.run .pruneOrphans s t).survives i =
      ((Passes.run .exclusionOnly s t).survives i &&
        (scannedLines t)[i]?.any
          ((Policy.onlyNamed (namedIn (Verdict.keptTexts (exclusionPass s t)))).admits
            (owner? (scannedLines t) (Passes.run .exclusionOnly s t).survives i))) := by
  rw [Passes.survives_exclusionOnly, Passes.survives_pruneOrphans]
  cases hk : Verdict.keptAt (exclusionPass s t) i with
  | false => simp only [hk, Bool.false_and]
  | true =>
    simp only [hk, Bool.true_and]
    exact Verdict.keptAt_scan_rank (Policy.excluding s) _ _ hk

/-- The outcome is made of the lines that survive. -/
theorem Passes.keptTexts_run (m : Mode) :
    (Passes.run m s t).keptTexts =
      linesAt (Passes.run m s t).survives (Text.lines (Text.trim t))
        (Text.lines (Text.trim t)).length := by
  have htexts : (exclusionPass s t).map (·.text) = Text.lines (Text.trim t) :=
    Policy.scan_texts _ _ _
  rw [← htexts, List.length_map]
  cases m with
  | exclusionOnly =>
    rw [Passes.survives_exclusionOnly]
    exact Verdict.keptTexts_eq_linesAt (exclusionPass s t)
  | pruneOrphans =>
    rw [Passes.survives_pruneOrphans]
    exact Verdict.keptTexts_eq_linesAt_rank (Policy.scan_texts _ _ _)

theorem sieve_text (m : Mode) {s : NameSet} (hs : s.isEmpty = false) (t : Text) :
    (sieve m s t).text = Text.ofLines (Passes.run m s t).keptTexts := by
  rw [sieve, if_neg (by simp [hs])]
  rfl

end Passes
end EntitySieve
