import EntitySieve.Proofs.Survival

/-! The rule for a single line. Whether a line survives is settled by its kind and its ruling line,
so for every text the outcome is described without a scan. Pruning rules a closing line by what
excluding has kept, and every other line by the text itself. -/
namespace EntitySieve

/-- Whether a set excludes no endpoint of a relationship. -/
def NameSet.Spares (s : NameSet) (r : Relationship) : Prop := ∀ e ∈ r.endpoints, e ∉ s

instance (s : NameSet) (r : Relationship) : Decidable (s.Spares r) :=
  inferInstanceAs (Decidable (∀ e ∈ r.endpoints, e ∉ s))

/-- Whether a spared relationship names the entity. -/
def Referenced (s : NameSet) (ls : List Line) (e : Text) : Prop :=
  ∃ r ∈ ls.filterMap Line.relationship?, s.Spares r ∧ e ∈ r.endpoints

instance (s : NameSet) (ls : List Line) (e : Text) : Decidable (Referenced s ls e) :=
  inferInstanceAs (Decidable (∃ r ∈ ls.filterMap Line.relationship?, s.Spares r ∧ e ∈ r.endpoints))

/-- What excluding asks of a line: a closing line must not be ruled by an excluded opening line,
and a body line must be ruled by an opening line that is not excluded. -/
def ExcludingKeeps (s : NameSet) (ls : List Line) (i : Nat) : Prop :=
  match ls[i]? with
  | some .header => True
  | some (.relationship r) => s.Spares r
  | some (.opening e) => e ∉ s
  | some .closing => ∀ e ∈ owner? ls everywhere i, e ∉ s
  | some .body => ∃ e ∈ owner? ls everywhere i, e ∉ s
  | none => False

instance (s : NameSet) (ls : List Line) : DecidablePred (ExcludingKeeps s ls) := fun i => by
  unfold ExcludingKeeps
  split <;> infer_instance

/-- What pruning asks besides. The ruling line of a closing line is the nearest of the lines that
excluding keeps. -/
def ReferenceKeeps (s : NameSet) (ls : List Line) (i : Nat) : Prop :=
  match ls[i]? with
  | some (.opening e) => Referenced s ls e
  | some .closing => ∀ e ∈ owner? ls (fun j => decide (ExcludingKeeps s ls j)) i, Referenced s ls e
  | some .body => ∃ e ∈ owner? ls everywhere i, Referenced s ls e
  | _ => True

instance (s : NameSet) (ls : List Line) : DecidablePred (ReferenceKeeps s ls) := fun i => by
  unfold ReferenceKeeps
  split <;> infer_instance

def Mode.Keeps (m : Mode) (s : NameSet) (ls : List Line) (i : Nat) : Prop :=
  ExcludingKeeps s ls i ∧ (m = .pruneOrphans → ReferenceKeeps s ls i)

instance (m : Mode) (s : NameSet) (ls : List Line) : DecidablePred (m.Keeps s ls) := fun i =>
  inferInstanceAs (Decidable (ExcludingKeeps s ls i ∧ (m = .pruneOrphans → ReferenceKeeps s ls i)))

theorem survives_iff_excludingKeeps (s : NameSet) (t : Text) (i : Nat) :
    (Passes.run .exclusionOnly s t).survives i = true ↔ ExcludingKeeps s (scannedLines t) i := by
  rw [exclusionOnly_admits, ExcludingKeeps]
  cases (scannedLines t)[i]? with
  | none => simp
  | some l =>
    cases l with
    | header | relationship | opening => simp [Policy.admits, Policy.excluding, NameSet.Spares]
    | closing => simp [Policy.admits_closing_iff, Policy.excluding]
    | body => simp [Policy.admits_body_iff, Policy.excluding]

section Rules
variable {s : NameSet} {ls : List Line} {i : Nat}

theorem excludingKeeps_opening {e : Text} (h : ls[i]? = some (.opening e)) :
    ExcludingKeeps s ls i ↔ e ∉ s := by
  rw [ExcludingKeeps, h]

theorem excludingKeeps_closing (h : ls[i]? = some .closing) :
    ExcludingKeeps s ls i ↔ ∀ e ∈ owner? ls everywhere i, e ∉ s := by
  rw [ExcludingKeeps, h]

theorem referenceKeeps_closing (h : ls[i]? = some .closing) :
    ReferenceKeeps s ls i ↔
      ∀ e ∈ owner? ls (fun j => decide (ExcludingKeeps s ls j)) i, Referenced s ls e := by
  rw [ReferenceKeeps, h]

/-- The block of a kept body line is the same among all lines and among the kept ones. -/
theorem owner?_of_excludingKeeps {e : Text} (ho : owner? ls everywhere i = some e) (he : e ∉ s) :
    owner? ls (fun j => decide (ExcludingKeeps s ls j)) i = some e := by
  obtain ⟨j, hj, hl⟩ := owner?_eq_some_iff.mp ho
  have hk : ExcludingKeeps s ls j := (excludingKeeps_opening hl).mpr he
  exact owner?_eq_some_iff.mpr ⟨j, ruling?_of_everywhere hj (by simpa using hk), hl⟩

end Rules

/-- What the exclusion pass keeps names the entities of the spared relationships. -/
theorem mem_namedIn_keptTexts {s : NameSet} {b : OpenBlock} {ls : List Text} {e : Text} :
    e ∈ namedIn (Verdict.keptTexts ((Policy.excluding s).scan b ls)) ↔
      ∃ r ∈ relationshipsOf ls, s.Spares r ∧ e ∈ r.endpoints := by
  rw [namedIn, Verdict.relationshipsOf_keptTexts, List.mem_flatMap]
  simp only [List.mem_filter, and_assoc, Policy.excluding, NameSet.Spares, List.all_eq_true,
    decide_eq_true_eq]

theorem mem_namedIn_iff_referenced (s : NameSet) (t : Text) (e : Text) :
    e ∈ namedIn (Verdict.keptTexts (exclusionPass s t)) ↔ Referenced s (scannedLines t) e := by
  have hlines : relationshipsOf (Text.lines (Text.trim t)) =
      (scannedLines t).filterMap Line.relationship? := by
    rw [scannedLines, List.filterMap_map]
    rfl
  rw [exclusionPass, mem_namedIn_keptTexts, hlines, Referenced]

theorem survives_iff_pruningKeeps (s : NameSet) (t : Text) (i : Nat) :
    (Passes.run .pruneOrphans s t).survives i = true ↔
      ExcludingKeeps s (scannedLines t) i ∧ ReferenceKeeps s (scannedLines t) i := by
  have hchosen : (Passes.run .exclusionOnly s t).survives =
      fun j => decide (ExcludingKeeps s (scannedLines t) j) := by
    funext j
    rw [Bool.eq_iff_iff, survives_iff_excludingKeeps, decide_eq_true_iff]
  rw [pruneOrphans_admits, Bool.and_eq_true, survives_iff_excludingKeeps, hchosen]
  refine and_congr_right fun hk => ?_
  rw [ReferenceKeeps]
  rw [ExcludingKeeps] at hk
  cases hl : (scannedLines t)[i]? with
  | none => simp [hl] at hk
  | some l =>
    rw [hl] at hk
    cases l with
    | header | relationship => simp [Policy.admits, Policy.onlyNamed]
    | opening e =>
      simp [Policy.admits, Policy.onlyNamed, ← mem_namedIn_iff_referenced]
    | closing =>
      simp [Policy.admits_closing_iff, Policy.onlyNamed, ← mem_namedIn_iff_referenced]
    | body =>
      obtain ⟨e, ho, he⟩ := hk
      rw [owner?_of_excludingKeeps ho he, ho]
      simp [Policy.admits, Policy.onlyNamed, ← mem_namedIn_iff_referenced]

theorem survives_iff_keeps (m : Mode) (s : NameSet) (t : Text) (i : Nat) :
    (Passes.run m s t).survives i = true ↔ m.Keeps s (scannedLines t) i := by
  cases m with
  | exclusionOnly => simp [survives_iff_excludingKeeps, Mode.Keeps]
  | pruneOrphans => simp [survives_iff_pruningKeeps, Mode.Keeps]

/-- For every text, a line survives exactly if the rule keeps it, and the outcome is made of the
lines that the rule keeps. -/
theorem sieve_follows_lineRule (m : Mode) {s : NameSet} (hs : s.isEmpty = false) (t : Text) :
    (∀ i, (Passes.run m s t).survives i = true ↔ m.Keeps s (scannedLines t) i) ∧
      (sieve m s t).text = Text.ofLines
        (linesAt (fun i => decide (m.Keeps s (scannedLines t) i)) (Text.lines (Text.trim t))
          (Text.lines (Text.trim t)).length) := by
  have hsurvives : (Passes.run m s t).survives =
      fun i => decide (m.Keeps s (scannedLines t) i) := by
    funext i
    rw [Bool.eq_iff_iff, survives_iff_keeps, decide_eq_true_iff]
  refine ⟨survives_iff_keeps m s t, ?_⟩
  rw [sieve_text m hs, Passes.keptTexts_run, hsurvives]

/-- The block of A is replaced, the second closing line has no block, and C is an orphan. -/
def replacedBlock : Text :=
  Text.ofLines ["A \x7b", " x", "B \x7b", " y", "\x7d", "\x7d", "C \x7b", "\x7d", "A || D"]

theorem sieve_follows_lineRule_replacedBlock :
    (NameSet.ofList ["B"]).isEmpty = false ∧
      (∀ i, (Passes.run .pruneOrphans (NameSet.ofList ["B"]) replacedBlock).survives i = true ↔
        Mode.pruneOrphans.Keeps (NameSet.ofList ["B"]) (scannedLines replacedBlock) i) ∧
      (sieve .pruneOrphans (NameSet.ofList ["B"]) replacedBlock).text =
        Text.ofLines ["A \x7b", " x", "\x7d", "A || D"] := by
  have hs : (NameSet.ofList ["B"]).isEmpty = false := by decide
  have h := sieve_follows_lineRule .pruneOrphans hs replacedBlock
  exact ⟨hs, h.1, h.2.trans (by decide +kernel)⟩

end EntitySieve
