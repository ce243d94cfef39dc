import EntitySieve.Proofs.BlockFate
import EntitySieve.Proofs.Lines

/-! Whether a text ends inside a block. An outcome can end inside a block although the text does
not: the opening line that replaces a block is judged by its own entity, and the closing line that
follows goes with it. This is the only way. -/
namespace EntitySieve

/-- A block that stays is opened at one position and replaced at another one, as the next boundary,
by an opening line that goes; and no boundary survives after that. -/
structure CutOff (m : Mode) (s : NameSet) (t : Text) (opened replaced : Nat) : Prop where
  rules : ruling? (scannedLines t) everywhere replaced = some opened
  stays : ∃ e, (scannedLines t)[opened]? = some (.opening e) ∧
    m.KeepsEntity s (scannedLines t) e
  goes : ∃ e, (scannedLines t)[replaced]? = some (.opening e) ∧
    ¬ m.KeepsEntity s (scannedLines t) e
  last : ∀ x, opened < x → boundaryAt (scannedLines t) x = true →
    (Passes.run m s t).survives x = false

variable {m : Mode} {s : NameSet} {t : Text}

theorem CutOff.owner? {j k : Nat} (h : CutOff m s t j k) :
    owner? (scannedLines t) (Passes.run m s t).survives (scannedLines t).length ≠ none := by
  obtain ⟨e, hl, he⟩ := h.stays
  obtain ⟨hlt, -⟩ := List.getElem?_eq_some_iff.mp hl
  have hs : (Passes.run m s t).survives j = true := by
    rw [survives_iff_keeps, keeps_opening_iff hl]
    exact he
  have hb : boundaryAt (scannedLines t) j = true := by rw [boundaryAt_of_eq_some hl]; rfl
  have hr : ruling? (scannedLines t) (Passes.run m s t).survives (scannedLines t).length =
      some j := by
    refine ruling?_eq_some_iff.mpr ⟨hlt, hs, hb, fun x hx _ hsx => ?_⟩
    cases hbx : boundaryAt (scannedLines t) x with
    | false => rfl
    | true => simp [h.last x hx hbx] at hsx
  have ho := owner?_eq_some_iff.mpr ⟨j, hr, hl⟩
  simp [ho]

/-- If a text ends outside a block and its outcome inside one, then the next boundary after the
block's opening line opens a block that goes. -/
theorem exists_cutOff {e : Text}
    (hout : owner? (scannedLines t) everywhere (scannedLines t).length = none)
    (hin : owner? (scannedLines t) (Passes.run m s t).survives (scannedLines t).length = some e) :
    ∃ j k, CutOff m s t j k := by
  obtain ⟨j, hr, hl⟩ := owner?_eq_some_iff.mp hin
  obtain ⟨hj, hs, hb, hlast⟩ := ruling?_eq_some_iff.mp hr
  have hlast (x : Nat) (hx : j < x) (hbx : boundaryAt (scannedLines t) x = true) :
      (Passes.run m s t).survives x = false := by
    cases hsx : (Passes.run m s t).survives x with
    | false => rfl
    | true => simp [hlast x hx (lt_length_of_boundaryAt hbx) hsx] at hbx
  have he : m.KeepsEntity s (scannedLines t) e := by
    rwa [survives_iff_keeps, keeps_opening_iff hl] at hs
  obtain ⟨k, hbk, hrk⟩ := exists_ruling?_of_owner?_eq_none hl hout
  have hgone := hlast k (ruling?_eq_some_iff.mp hrk).1 hbk
  obtain ⟨l, hlk, hlb⟩ := (Option.any_eq_true _ _).mp hbk
  refine ⟨j, k, hrk, ⟨e, hl, he⟩, ?_, hlast⟩
  cases l with
  | opening e' =>
    refine ⟨e', hlk, fun he' => ?_⟩
    rw [← keeps_opening_iff hlk, ← survives_iff_keeps, hgone] at he'
    contradiction
  | closing =>
    -- A closing line goes with the block that it closes, and that block stays.
    have hk := (keeps_closing_iff hlk (owner?_eq_some_iff.mpr ⟨j, hrk, hl⟩)).mpr he
    rw [← survives_iff_keeps, hgone] at hk
    contradiction
  | header | relationship | body => simp [Line.isBoundary] at hlb

/-- Let a text end outside a block. Its outcome ends outside a block too, unless a block is cut
off, whatever policies the blocks are scanned with. -/
theorem ends_closed_iff_not_cutOff (m : Mode) {s : NameSet} (hs : s.isEmpty = false) {t : Text}
    {p : Policy} (q : Policy) (h : p.after none (Text.lines (Text.trim t)) = none) :
    q.after none (Text.lines (sieve m s t).text) = none ↔ ¬ ∃ j k, CutOff m s t j k := by
  have hlength : (scannedLines t).length = (Text.lines (Text.trim t)).length := List.length_map _
  have hout : owner? (scannedLines t) everywhere (scannedLines t).length = none := by
    rw [hlength]
    apply (p.after_linesAt_eq_none_iff _ everywhere).mp
    rwa [linesAt_everywhere, List.take_length]
  rw [sieve_text m hs, q.after_lines_ofLines fun l => newline_not_mem_of_mem_keptTexts,
    Passes.keptTexts_run, Policy.after_linesAt_eq_none_iff, ← hlength]
  constructor
  · rintro hnone ⟨j, k, hcut⟩
    exact hcut.owner? hnone
  · intro hcut
    cases hin : owner? (scannedLines t) (Passes.run m s t).survives (scannedLines t).length with
    | none => exact hin
    | some e => exact absurd (exists_cutOff hout hin) hcut

/-- A block of A that a block of B replaces, and a second closing line for it. -/
def closedTwice : Text := Text.ofLines ["A \x7b", "B \x7b", "\x7d", "\x7d"]

theorem ends_closed_iff_not_cutOff_closedTwice :
    (NameSet.ofList ["B"]).isEmpty = false ∧
      (Policy.onlyNamed []).after none (Text.lines (Text.trim closedTwice)) = none ∧
      ¬ ∃ j k, CutOff .exclusionOnly (NameSet.ofList ["B"]) closedTwice j k := by
  have hs : (NameSet.ofList ["B"]).isEmpty = false := by decide
  have h : (Policy.onlyNamed []).after none (Text.lines (Text.trim closedTwice)) = none := by
    decide +kernel
  have hiff := ends_closed_iff_not_cutOff .exclusionOnly hs (Policy.onlyNamed []) h
  exact ⟨hs, h, hiff.mp (by decide +kernel)⟩

/-- With one closing line, excluding B leaves the block of A open. -/
theorem ends_open :
    ¬ ∀ (m : Mode) (s : NameSet) (t : Text) (p q : Policy), s.isEmpty = false →
      p.after none (Text.lines (Text.trim t)) = none →
        q.after none (Text.lines (sieve m s t).text) = none := by
  intro hall
  have hs : (NameSet.ofList ["B"]).isEmpty = false := by decide
  have hclosed := hall .exclusionOnly (NameSet.ofList ["B"])
    (Text.ofLines ["A \x7b", "B \x7b", "\x7d"]) (Policy.onlyNamed []) (Policy.onlyNamed []) hs
    (by decide +kernel)
  have hopen : (Policy.onlyNamed []).after none (Text.lines
      (sieve .exclusionOnly (NameSet.ofList ["B"])
        (Text.ofLines ["A \x7b", "B \x7b", "\x7d"])).text) ≠ none := by decide +kernel
  exact hopen hclosed

end EntitySieve
