import EntitySieve.Proofs.LineRule

/-! The fate of a block. Its opening line, its body lines and its closing line stay or go with its
entity. A header or a relationship between them is judged on its own, so the lines of a block share
one fate exactly if those lines happen to agree with the entity. -/
namespace EntitySieve

/-- Whether the blocks of an entity stay. -/
def Mode.KeepsEntity (m : Mode) (s : NameSet) (ls : List Line) (e : Text) : Prop :=
  e ∉ s ∧ (m = .pruneOrphans → Referenced s ls e)

section Keeps
variable {m : Mode} {s : NameSet} {ls : List Line} {i : Nat} {e : Text}

theorem keeps_header (h : ls[i]? = some .header) : m.Keeps s ls i := by
  simp [Mode.Keeps, ExcludingKeeps, ReferenceKeeps, h]

theorem keeps_relationship_iff {r : Relationship} (h : ls[i]? = some (.relationship r)) :
    m.Keeps s ls i ↔ s.Spares r := by
  simp [Mode.Keeps, ExcludingKeeps, ReferenceKeeps, h]

theorem keeps_opening_iff (h : ls[i]? = some (.opening e)) :
    m.Keeps s ls i ↔ m.KeepsEntity s ls e := by
  simp [Mode.Keeps, ExcludingKeeps, ReferenceKeeps, Mode.KeepsEntity, h]

theorem keeps_body_iff (h : ls[i]? = some .body) (ho : owner? ls everywhere i = some e) :
    m.Keeps s ls i ↔ m.KeepsEntity s ls e := by
  simp [Mode.Keeps, ExcludingKeeps, ReferenceKeeps, Mode.KeepsEntity, h, ho]

theorem keeps_closing_iff (h : ls[i]? = some .closing) (ho : owner? ls everywhere i = some e) :
    m.Keeps s ls i ↔ m.KeepsEntity s ls e := by
  rw [Mode.Keeps, Mode.KeepsEntity, excludingKeeps_closing h, referenceKeeps_closing h, ho]
  simp only [Option.mem_some_iff, forall_eq']
  refine and_congr_right fun he => ?_
  -- The opening line is among the lines that excluding keeps, so it rules there as well.
  rw [owner?_of_excludingKeeps ho he]
  simp only [Option.mem_some_iff, forall_eq']

end Keeps

/-- A block of an entity: its first and last position, and no other boundary between them. -/
structure BlockSpan (ls : List Line) (e : Text) (first last : Nat) : Prop where
  opens : ls[first]? = some (.opening e)
  closes : ls[last]? = some .closing
  lt : first < last
  inner : ∀ k, first < k → k < last → boundaryAt ls k = false

theorem BlockSpan.owner? {ls : List Line} {e : Text} {first last k : Nat}
    (h : BlockSpan ls e first last) (hf : first < k) (hl : k ≤ last) :
    owner? ls everywhere k = some e := by
  have hb : boundaryAt ls first = true := by rw [boundaryAt_of_eq_some h.opens]; rfl
  have hr : ruling? ls everywhere k = some first :=
    ruling?_eq_some_iff.mpr ⟨hf, rfl, hb, fun x hx hxk _ => h.inner x hx (by omega)⟩
  exact owner?_eq_some_iff.mpr ⟨first, hr, h.opens⟩

/-- Whether all lines of a span survive or none does, and none if the entity is excluded. -/
def GoesWhole (m : Mode) (s : NameSet) (t : Text) (e : Text) (first last : Nat) : Prop :=
  ((∀ k, first ≤ k → k ≤ last → (Passes.run m s t).survives k = true) ∨
      ∀ k, first ≤ k → k ≤ last → (Passes.run m s t).survives k = false) ∧
    (e ∈ s → ∀ k, first ≤ k → k ≤ last → (Passes.run m s t).survives k = false)

/-- Whether the lines inside a span that are judged on their own go the way of the entity. -/
def InnerAgree (m : Mode) (s : NameSet) (ls : List Line) (e : Text) (first last : Nat) : Prop :=
  ∀ k, first < k → k < last →
    (ls[k]? = some .header → m.KeepsEntity s ls e) ∧
      ∀ r, ls[k]? = some (.relationship r) → (s.Spares r ↔ m.KeepsEntity s ls e)

/-- Inside a block whose own lines agree, every line goes the way of the entity. -/
theorem BlockSpan.keeps_iff {m : Mode} {s : NameSet} {ls : List Line} {e : Text}
    {first last k : Nat} (h : BlockSpan ls e first last)
    (hin : InnerAgree m s ls e first last) (hf : first ≤ k) (hl : k ≤ last) :
    m.Keeps s ls k ↔ m.KeepsEntity s ls e := by
  by_cases hk : k = first
  · subst k
    exact keeps_opening_iff h.opens
  by_cases hk' : k = last
  · subst k
    exact keeps_closing_iff h.closes (h.owner? h.lt (Nat.le_refl _))
  obtain ⟨hlast, -⟩ := List.getElem?_eq_some_iff.mp h.closes
  have hget : ls[k]? = some ls[k] := List.getElem?_eq_getElem (by omega)
  have hb := h.inner k (by omega) (by omega)
  obtain ⟨hheader, hrelationship⟩ := hin k (by omega) (by omega)
  rw [boundaryAt_of_eq_some hget] at hb
  cases hline : ls[k] with
  | header =>
    rw [hline] at hget
    exact iff_of_true (keeps_header hget) (hheader hget)
  | relationship r =>
    rw [hline] at hget
    rw [keeps_relationship_iff hget, hrelationship r hget]
  | opening => simp [hline, Line.isBoundary] at hb
  | closing => simp [hline, Line.isBoundary] at hb
  | body =>
    rw [hline] at hget
    exact keeps_body_iff hget (h.owner? (by omega) hl)

theorem goesWhole_iff_innerAgree {m : Mode} {s : NameSet} {t : Text} {e : Text}
    {first last : Nat} (h : BlockSpan (scannedLines t) e first last) :
    GoesWhole m s t e first last ↔ InnerAgree m s (scannedLines t) e first last := by
  have hfirst := survives_iff_keeps m s t first
  rw [keeps_opening_iff h.opens] at hfirst
  constructor
  · rintro ⟨hwhole, -⟩ k hf hl
    -- The opening line goes the way of the entity, and the line at `k` goes with it.
    have hk : (Passes.run m s t).survives k = true ↔ m.KeepsEntity s (scannedLines t) e := by
      rcases hwhole with hall | hnone
      · rw [← hfirst, hall k (by omega) (by omega), hall first (Nat.le_refl _) (by omega)]
      · rw [← hfirst, hnone k (by omega) (by omega), hnone first (Nat.le_refl _) (by omega)]
    rw [survives_iff_keeps] at hk
    exact ⟨fun hh => hk.mp (keeps_header hh), fun r hr => (keeps_relationship_iff hr).symm.trans hk⟩
  · intro hin
    have hk (k : Nat) (hf : first ≤ k) (hl : k ≤ last) :
        (Passes.run m s t).survives k = true ↔ m.KeepsEntity s (scannedLines t) e := by
      rw [survives_iff_keeps, h.keeps_iff hin hf hl]
    by_cases he : m.KeepsEntity s (scannedLines t) e
    · refine ⟨Or.inl fun k hf hl => (hk k hf hl).mpr he, fun hes => ?_⟩
      exact absurd hes he.1
    · have hnone (k : Nat) (hf : first ≤ k) (hl : k ≤ last) :
          (Passes.run m s t).survives k = false :=
        Bool.eq_false_iff.mpr fun hs => he ((hk k hf hl).mp hs)
      exact ⟨Or.inr hnone, fun _ => hnone⟩

/-- The lines of a block of the scanned text share one fate exactly if the headers and the
relationships inside it go the way of its entity. -/
theorem block_goes_whole_iff (m : Mode) {s : NameSet} (hs : s.isEmpty = false) {t : Text}
    {e : Text} {first last : Nat} (h : BlockSpan (scannedLines t) e first last) :
    (sieve m s t).text = Text.ofLines
        (linesAt (Passes.run m s t).survives (Text.lines (Text.trim t))
          (Text.lines (Text.trim t)).length) ∧
      (GoesWhole m s t e first last ↔ InnerAgree m s (scannedLines t) e first last) := by
  refine ⟨?_, goesWhole_iff_innerAgree h⟩
  rw [sieve_text m hs, Passes.keptTexts_run]

/-- A block of A with a marker in a comment, and a block of B with a relationship inside. -/
def markedComment : Text :=
  Text.ofLines ["A \x7b", "  string note \"x || y\"", "\x7d", "B \x7b", "  int id", "  B || C",
    "\x7d"]

theorem markedComment_span_A : BlockSpan (scannedLines markedComment) "A" 0 2 where
  opens := by decide +kernel
  closes := by decide +kernel
  lt := by decide
  inner k hf hl := by
    obtain rfl : k = 1 := by omega
    decide +kernel

theorem markedComment_span_B : BlockSpan (scannedLines markedComment) "B" 3 6 where
  opens := by decide +kernel
  closes := by decide +kernel
  lt := by decide
  inner k hf hl := by
    obtain rfl | rfl : k = 4 ∨ k = 5 := by omega
    · decide +kernel
    · decide +kernel

/-- Excluding B takes the relationship inside its block along. -/
theorem block_goes_whole_iff_markedComment :
    (NameSet.ofList ["B"]).isEmpty = false ∧
      BlockSpan (scannedLines markedComment) "B" 3 6 ∧
      GoesWhole .pruneOrphans (NameSet.ofList ["B"]) markedComment "B" 3 6 := by
  have hs : (NameSet.ofList ["B"]).isEmpty = false := by decide
  have hB : ("B" : Text) ∈ NameSet.ofList ["B"] := by decide
  have h := block_goes_whole_iff .pruneOrphans hs markedComment_span_B
  refine ⟨hs, markedComment_span_B, h.2.mpr fun k hf hl => ?_⟩
  obtain rfl | rfl : k = 4 ∨ k = 5 := by omega
  · have hline : (scannedLines markedComment)[4]? = some .body := by decide +kernel
    simp [hline]
  · have hline : (scannedLines markedComment)[5]? =
        some (.relationship ⟨some "B", some "C"⟩) := by decide +kernel
    rw [hline]
    refine ⟨fun hh => by contradiction, fun r hr => ?_⟩
    cases hr
    exact iff_of_false (by decide) fun hk => hk.1 hB

/-- Excluding A leaves the line with the marker behind. -/
theorem block_goes_in_part :
    ¬ ∀ (m : Mode) (s : NameSet) (t : Text) (e : Text) (first last : Nat),
      s.isEmpty = false → BlockSpan (scannedLines t) e first last →
        GoesWhole m s t e first last := by
  intro hall
  have hs : (NameSet.ofList ["A"]).isEmpty = false := by decide
  have hA : ("A" : Text) ∈ NameSet.ofList ["A"] := by decide
  have hwhole := hall .exclusionOnly (NameSet.ofList ["A"]) markedComment "A" 0 2 hs
    markedComment_span_A
  have hgone := hwhole.2 hA 1 (by decide) (by decide)
  have hleft : (Passes.run .exclusionOnly (NameSet.ofList ["A"]) markedComment).survives 1 =
      true := by decide +kernel
  rw [hleft] at hgone
  contradiction

end EntitySieve
