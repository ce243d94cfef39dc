import Mathlib.Data.List.Forall2
import EntitySieve.Proofs.Accounts
import EntitySieve.Proofs.Indentation
import EntitySieve.Proofs.Loading

/-! A diagram in parts. What is declared in joined sources is what is declared in the parts, one
after the other. If each part ends outside the blocks, a pass meets every part as it meets it alone,
so what excluding leaves of the whole is what it leaves of the parts, up to the blanks that trimming
takes from the ends of the parts. -/
namespace EntitySieve

namespace Text

theorem lines_joinSources (ts : List Text) : lines (joinSources ts) = ts.flatMap lines ++ [[]] := by
  induction ts with
  | nil => rfl
  | cons t ts ih =>
    have hcons : joinSources (t :: ts) = t ++ '\n' :: joinSources ts := by simp [joinSources]
    rw [hcons, lines_append_newline, ih, List.flatMap_cons, List.append_assoc]

theorem bareLines_joinSources (ts : List Text) :
    bareLines (joinSources ts) = ts.flatMap bareLines ++ [[]] := by
  rw [bareLines, lines_joinSources, List.map_append, List.map_flatMap]
  rfl

end Text

namespace Policy
variable {p : Policy} {ks ls kept kept' : List Text}

theorem after_map_trim (p : Policy) (b : OpenBlock) (ls : List Text) :
    p.after b (ls.map Text.trim) = p.after b ls := by
  simp only [after, List.foldl_map, Line.read_trim]

/-- A pass over the lines keeps the given ones and is in no block at the end. -/
def Runs (p : Policy) (ls kept : List Text) : Prop :=
  p.after none ls = none ∧ Verdict.keptTexts (p.scan none ls) = kept

theorem runs_nil : p.Runs [] [] := ⟨rfl, rfl⟩

theorem Runs.append (hk : p.Runs ks kept) (hl : p.Runs ls kept') :
    p.Runs (ks ++ ls) (kept ++ kept') := by
  obtain ⟨hafter, rfl⟩ := hk
  obtain ⟨hafter', rfl⟩ := hl
  constructor
  · rw [after_append, hafter, hafter']
  · rw [scan_append, Verdict.keptTexts_append, hafter]

theorem Runs.flatMap {α : Type} {f g : α → List Text} {xs : List α}
    (h : ∀ x ∈ xs, p.Runs (f x) (g x)) : p.Runs (xs.flatMap f) (xs.flatMap g) := by
  induction xs with
  | nil => exact runs_nil
  | cons x xs ih =>
    rw [List.flatMap_cons, List.flatMap_cons]
    exact (h x List.mem_cons_self).append (ih fun y hy => h y (List.mem_cons_of_mem x hy))

/-- An empty line in no block goes. -/
theorem runs_cons_empty : p.Runs ([] :: ls) kept = p.Runs ls kept := by
  rw [Runs, Runs, Verdict.keptTexts_scan_cons, after_cons, judge, read_nil]
  rfl

theorem runs_append_empty : p.Runs (ls ++ [[]]) kept = p.Runs ls kept := by
  have hafter : p.after none (ls ++ [[]]) = p.after none ls := by
    simp [after_append, judge, step]
  rw [Runs, Runs, hafter, eq_iff_iff]
  refine and_congr_right fun hnone => ?_
  rw [scan_append, Verdict.keptTexts_append, hnone, Verdict.keptTexts_scan_singleton, read_nil]
  exact iff_of_eq (congrArg (· = kept) (List.append_nil _))

theorem runs_bareLines_trim (t : Text) :
    p.Runs (Text.bareLines (Text.trim t)) kept = p.Runs (Text.bareLines t) kept :=
  Text.apply_bareLines_trim (f := (p.Runs · kept)) (fun _ => runs_cons_empty)
    (fun _ => runs_append_empty) t

end Policy

/-- What excluding leaves of a text that ends outside the blocks. -/
theorem filledLines_exclude_eq {s : NameSet} (hs : s.isEmpty = false) {t : Text}
    {kept : List Text} (h : (Policy.excluding s).Runs (Text.bareLines t) kept) :
    (Text.filledLines (sieve .exclusionOnly s t).text).map Text.trim = kept := by
  rw [← Policy.runs_bareLines_trim] at h
  calc (Text.filledLines (sieve .exclusionOnly s t).text).map Text.trim
      = Verdict.keptTexts ((exclusionPass s t).map Verdict.bare) := by
        rw [filledLines_sieve _ _ _ hs, Verdict.keptTexts_map_bare]
        rfl
    _ = kept := by rw [exclusionPass_map_bare, h.2]

/-- What is read in joined sources is read in one after the other. -/
theorem filterMap_kinds_joinSources {α : Type _} {g : Line → Option α} (hg : g .body = none)
    (ts : List Text) :
    (Text.kinds (joinSources ts)).filterMap g = ts.flatMap fun t => (Text.kinds t).filterMap g := by
  rw [Text.kinds, Text.lines_joinSources, List.map_append, List.filterMap_append, List.map_flatMap,
    List.filterMap_flatMap]
  simp [hg, Text.kinds]

theorem relationships_joinSources (ts : List Text) :
    (Summary.ofText (joinSources ts)).relationships =
      ts.flatMap fun t => (Summary.ofText t).relationships := by
  simp only [Summary.ofText, relationshipsOf_lines]
  exact filterMap_kinds_joinSources rfl ts

theorem entities_joinSources (ts : List Text) :
    (Summary.ofText (joinSources ts)).entities =
      (ts.flatMap fun t => (Summary.ofText t).entities).eraseDups := by
  simp only [Summary.ofText, entitiesOf_lines, eraseDups_flatMap]
  exact congrArg List.eraseDups (filterMap_kinds_joinSources rfl ts)

/-- Excluding leaves of joined sources what it leaves of each, if each ends outside the blocks. -/
theorem filledLines_exclude_joinSources {p : Policy} {s : NameSet} (hs : s.isEmpty = false)
    {ts : List Text} (h : ∀ t ∈ ts, p.after none (Text.lines t) = none) :
    (Text.filledLines (sieve .exclusionOnly s (joinSources ts)).text).map Text.trim =
      ts.flatMap fun t => (Text.filledLines (sieve .exclusionOnly s t).text).map Text.trim := by
  have hpart : ∀ t ∈ ts, (Policy.excluding s).Runs (Text.bareLines t)
      ((Text.filledLines (sieve .exclusionOnly s t).text).map Text.trim) := by
    intro t ht
    have hruns : (Policy.excluding s).Runs (Text.bareLines t)
        (Verdict.keptTexts ((Policy.excluding s).scan none (Text.bareLines t))) := by
      refine ⟨?_, rfl⟩
      rw [Text.bareLines, Policy.after_map_trim]
      exact Policy.after_eq_none_of (h t ht)
    rwa [filledLines_exclude_eq hs hruns]
  apply filledLines_exclude_eq hs
  rw [Text.bareLines_joinSources, Policy.runs_append_empty]
  exact Policy.Runs.flatMap hpart

section ByteOrderMark
variable {source marked : Text}

def byteOrderMark : Char := Char.ofNat 0xFEFF

theorem stripMark_cons_mark (t : Text) : stripMark (byteOrderMark :: t) = t := by
  simp [stripMark, byteOrderMark]

theorem stripMark_of_head?_ne (h : source.head? ≠ some byteOrderMark) :
    stripMark source = source := by
  cases source with
  | nil => rfl
  | cons c t =>
    have hc : c ≠ Char.ofNat 0xFEFF := by simpa [byteOrderMark] using h
    rw [stripMark, if_neg hc]

/-- Whether the second source is the first one, or has a byte order mark more where it had none. -/
def GainsMark (source marked : Text) : Prop :=
  marked = source ∨ source.head? ≠ some byteOrderMark ∧ marked = byteOrderMark :: source

theorem stripMark_of_gainsMark (h : GainsMark source marked) :
    stripMark marked = stripMark source := by
  rcases h with rfl | ⟨hhead, rfl⟩
  · rfl
  · rw [stripMark_cons_mark, stripMark_of_head?_ne hhead]

theorem map_stripMark_of_gainsMark {cs ds : List Text} (h : List.Forall₂ GainsMark cs ds) :
    ds.map stripMark = cs.map stripMark := by
  induction h with
  | nil => rfl
  | cons hmark _ ih => rw [List.map_cons, List.map_cons, stripMark_of_gainsMark hmark, ih]

end ByteOrderMark

/-- A diagram may be split over sources. Loading joins the parts, the whole declares what they
declare, and excluding leaves of it what it leaves of them if each part ends outside the blocks.
Byte order marks in front of any of the sources change none of this. -/
theorem joined_sources_are_transparent (cs : List Text) :
    let parts := cs.map stripMark
    let whole := joinSources parts
    (∀ (load : Text → Except Failure Text) ids, ids.map load = parts.map .ok →
        ((Loader.ofFunction load).combine ids ()).value.1 = .ok whole) ∧
      (Summary.ofText whole).relationships =
        parts.flatMap (fun t => (Summary.ofText t).relationships) ∧
      (Summary.ofText whole).entities =
        (parts.flatMap fun t => (Summary.ofText t).entities).eraseDups ∧
      (∀ (p : Policy) (s : NameSet), (∀ t ∈ parts, p.after none (Text.lines t) = none) →
        s.isEmpty = false →
        (Text.filledLines (sieve .exclusionOnly s whole).text).map Text.trim =
          parts.flatMap fun t =>
            (Text.filledLines (sieve .exclusionOnly s t).text).map Text.trim) ∧
      ∀ ds, List.Forall₂ GainsMark cs ds →
        Summary.ofText (joinSources (ds.map stripMark)) = Summary.ofText whole ∧
          ∀ m s, sieve m s (joinSources (ds.map stripMark)) = sieve m s whole := by
  intro parts whole
  refine ⟨?_, relationships_joinSources parts, entities_joinSources parts,
    fun p s hclosed hs => filledLines_exclude_joinSources hs hclosed, ?_⟩
  · intro load ids hload
    rw [Loader.combine_ofFunction]
    exact Loader.joined_eq_ok_iff.mpr ⟨parts, hload, rfl⟩
  · intro ds hds
    have hparts : ds.map stripMark = parts := map_stripMark_of_gainsMark hds
    rw [hparts]
    exact ⟨rfl, fun m s => rfl⟩

/-- A part that begins with a mark and lacks a final line feed, a blank one, and one with blank ends
that declares an entity again. -/
def unevenSources : List Text :=
  [byteOrderMark :: Text.ofLines ["erDiagram", "A \x7b", " x", "\x7d"], " \t",
    Text.ofLines ["", "  B \x7b", "\x7d", "A \x7b", "\x7d", "A || C", ""]]

/-- The same parts, all of them with a mark. -/
def markedSources : List Text :=
  [byteOrderMark :: Text.ofLines ["erDiagram", "A \x7b", " x", "\x7d"], byteOrderMark :: " \t",
    byteOrderMark ::
      Text.ofLines ["", "  B \x7b", "\x7d", "A \x7b", "\x7d", "A || C", ""]]

theorem joined_sources_are_transparent_unevenSources :
    (∀ t ∈ unevenSources.map stripMark, (Policy.onlyNamed []).after none (Text.lines t) = none) ∧
      (NameSet.ofList ["B"]).isEmpty = false ∧
      List.Forall₂ GainsMark unevenSources markedSources ∧
      ((Loader.ofFunction fun c => .ok (stripMark c)).combine unevenSources ()).value.1 =
        .ok (joinSources (unevenSources.map stripMark)) ∧
      (Summary.ofText (joinSources (markedSources.map stripMark))).entities =
        (["A", "B"] : List Text) ∧
      (Text.filledLines (sieve .exclusionOnly (.ofList ["B"])
          (joinSources (markedSources.map stripMark))).text).map Text.trim =
        (["erDiagram", "A \x7b", "x", "\x7d", "A \x7b", "\x7d", "A || C"] : List Text) := by
  have hclosed : ∀ t ∈ unevenSources.map stripMark,
      (Policy.onlyNamed []).after none (Text.lines t) = none := by decide +kernel
  have hs : (NameSet.ofList ["B"]).isEmpty = false := by decide
  have hmarks : List.Forall₂ GainsMark unevenSources markedSources :=
    .cons (Or.inl rfl) (.cons (Or.inr ⟨by decide, rfl⟩) (.cons (Or.inr ⟨by decide, rfl⟩) .nil))
  have hload : unevenSources.map (fun c => (.ok (stripMark c) : Except Failure Text)) =
      (unevenSources.map stripMark).map .ok := by
    rw [List.map_map]
    rfl
  obtain ⟨hcombined, -, hentities, hlines, hsame⟩ := joined_sources_are_transparent unevenSources
  obtain ⟨hsummary, hsieve⟩ := hsame _ hmarks
  rw [hsummary, hsieve]
  exact ⟨hclosed, hs, hmarks, hcombined _ _ hload, hentities.trans (by decide +kernel),
    (hlines _ _ hclosed hs).trans (by decide +kernel)⟩

end EntitySieve
