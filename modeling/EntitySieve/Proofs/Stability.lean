import EntitySieve.Proofs.Composition

/-! Sieving an outcome again. A pass that is no stricter than the one before it keeps every line
that the first one kept, although the lines that opened and closed blocks around it may be gone. So
a second sieving takes the blank ends of an outcome and nothing else. -/
namespace EntitySieve

namespace Text

theorem ofLines_sublist {ks ls : List Text} (h : ks.Sublist ls) :
    (ofLines ks).Sublist (ofLines ls) := by
  induction h with
  | slnil => exact List.Sublist.refl _
  | @cons ks ls l h ih =>
    cases ls with
    | nil => simp [List.sublist_nil.mp h, ofLines]
    | cons l' ls =>
      rw [← List.singleton_append,
        ofLines_append (List.cons_ne_nil l []) (List.cons_ne_nil l' ls)]
      exact (ih.cons '\n').trans (List.sublist_append_right _ _)
  | @cons_cons ks ls l h ih =>
    cases ks with
    | nil =>
      cases ls with
      | nil => exact List.Sublist.refl _
      | cons l' ls =>
        rw [← List.singleton_append (l := l' :: ls),
          ofLines_append (List.cons_ne_nil l []) (List.cons_ne_nil l' ls)]
        exact List.sublist_append_left _ _
    | cons k ks =>
      obtain ⟨l', ls, rfl⟩ := List.exists_cons_of_ne_nil (l := ls) (by rintro rfl; simp at h)
      rw [← List.singleton_append (l := k :: ks), ← List.singleton_append (l := l' :: ls),
        ofLines_append (List.cons_ne_nil l []) (List.cons_ne_nil k ks),
        ofLines_append (List.cons_ne_nil l []) (List.cons_ne_nil l' ls)]
      exact (List.Sublist.refl _).append (ih.cons_cons '\n')

end Text

namespace Policy
variable {p q : Policy} {owner owner' : Option Text}

/-- A line that one pass keeps is kept by a pass that is no stricter, in a block that it keeps. -/
theorem Follows.admits_of_laxer (h : q.Follows owner owner')
    (ho : ∀ e ∈ owner', p.skips e = false) {l : Line}
    (hr : ∀ r, l = .relationship r → q.keeps r = true → p.keeps r = true)
    (he : ∀ e, l = .opening e → q.skips e = false → p.skips e = false)
    (hl : q.admits owner l = true) :
    p.admits owner' l = true ∧ ∀ e ∈ l.ownerAfter owner', p.skips e = false := by
  cases l with
  | header => exact ⟨rfl, ho⟩
  | relationship r => exact ⟨hr r rfl hl, ho⟩
  | opening e =>
    have hskips : p.skips e = false := he e rfl (by simpa [admits] using hl)
    refine ⟨by simp [admits, hskips], fun x hx => ?_⟩
    obtain rfl := Option.some.inj hx
    exact hskips
  | closing => exact ⟨(p.admits_closing_iff owner').mpr ho, fun e hx => by contradiction⟩
  | body =>
    obtain ⟨e, hmem, hskips⟩ := (q.admits_body_iff owner).mp hl
    have hfollow : owner' = some e := h e hmem hskips
    exact ⟨(p.admits_body_iff owner').mpr ⟨e, hfollow, ho e hfollow⟩, ho⟩

theorem kept_kept_of_laxer {ls : List Text} (h : q.Follows owner owner')
    (ho : ∀ e ∈ owner', p.skips e = false)
    (hr : ∀ r, Line.relationship r ∈ ls.map Line.read → q.keeps r = true → p.keeps r = true)
    (he : ∀ e, Line.opening e ∈ ls.map Line.read → q.skips e = false → p.skips e = false) :
    p.kept owner' (q.kept owner ls) = q.kept owner ls := by
  -- The second owner never stands in a block that the second pass drops.
  induction ls generalizing owner owner' with
  | nil => rfl
  | cons l ls ih =>
    have hrest {x y : Option Text} (hxy : q.Follows x y) (hy : ∀ e ∈ y, p.skips e = false) :
        p.kept y (q.kept x ls) = q.kept x ls :=
      ih hxy hy (fun r hmem => hr r (List.mem_cons_of_mem _ hmem))
        (fun e hmem => he e (List.mem_cons_of_mem _ hmem))
    rw [kept_cons]
    cases ha : q.admits owner (Line.read l) with
    | false => exact hrest (h.ownerAfter_left ha) ho
    | true =>
      obtain ⟨hkept, ho'⟩ := h.admits_of_laxer ho (fun r hl => hr r (by simp [hl]))
        (fun e hl => he e (by simp [hl])) ha
      rw [if_pos rfl, List.singleton_append, kept_cons, hkept, hrest (h.ownerAfter _) ho']
      rfl

theorem pass_pass_of_laxer {t : Text}
    (hr : ∀ r ∈ relationshipsOf (Text.lines t), q.keeps r = true → p.keeps r = true)
    (he : ∀ e ∈ entitiesOf (Text.lines t), q.skips e = false → p.skips e = false) :
    p.pass (q.pass t) = q.pass t := by
  rw [relationshipsOf_lines] at hr
  rw [entitiesOf_lines] at he
  have hnewline : ∀ l ∈ q.kept none (Text.lines t), '\n' ∉ l := fun l => newline_not_mem_of_mem_kept
  have hlines := p.keptTexts_scan_lines_ofLines hnewline
  have hkept : p.kept none (q.kept none (Text.lines t)) = q.kept none (Text.lines t) := by
    apply kept_kept_of_laxer follows_none
    · intro e h
      contradiction
    · intro r h
      exact hr r (List.mem_filterMap.mpr ⟨_, h, rfl⟩)
    · intro e h
      exact he e (List.mem_filterMap.mpr ⟨_, h, rfl⟩)
  calc p.pass (q.pass t)
      = Text.ofLines (p.kept none (q.kept none (Text.lines t))) := congrArg Text.ofLines hlines
    _ = q.pass t := by rw [hkept, pass_eq]

/-- What a pass has been over has nothing for it, whatever pass comes between. -/
theorem pass_pass_pass (p q : Policy) (t : Text) :
    p.pass (q.pass (p.pass t)) = q.pass (p.pass t) := by
  apply pass_pass_of_laxer
  · intro r hr _
    rw [relationshipsOf_lines_pass, List.mem_filter] at hr
    exact hr.2
  · intro e he _
    rw [entitiesOf_lines_pass, List.mem_filter] at he
    simpa using he.2

theorem pass_pass_self (p : Policy) (t : Text) : p.pass (p.pass t) = p.pass t :=
  pass_pass_of_laxer (fun _ _ h => h) (fun _ _ h => h)

theorem pass_sublist (p : Policy) (t : Text) : (p.pass t).Sublist t := by
  have h := Text.ofLines_sublist (Verdict.keptTexts_sublist p none (Text.lines t))
  rwa [Text.ofLines_lines] at h

/-- A text that a pass leaves alone it leaves alone without its blank ends too. -/
theorem pass_trim_of_pass_eq {u : Text} (h : p.pass u = u) :
    p.pass (Text.trim u) = Text.trim u := by
  have htrim : Text.trim (p.pass (Text.trim u)) = Text.trim u := by rw [p.trim_pass_trim, h]
  have hall : (Text.trim u).Sublist (p.pass (Text.trim u)) := by
    simpa only [htrim] using Text.trim_sublist (p.pass (Text.trim u))
  exact (p.pass_sublist _).eq_of_length_le hall.length_le

end Policy

theorem Mode.finish_trim_finish (m : Mode) (t : Text) :
    m.finish (Text.trim (m.finish t)) = Text.trim (m.finish t) := by
  cases m with
  | exclusionOnly => rfl
  | pruneOrphans =>
    have hnamed : namedIn (Text.lines (Text.trim (Mode.pruneOrphans.finish t))) =
        namedIn (Text.lines t) := by
      rw [namedIn, namedIn, relationshipsOf_lines_trim, relationshipsOf_lines_finish]
    rw [Mode.finish, hnamed]
    exact Policy.pass_trim_of_pass_eq (Policy.pass_pass_self _ t)

/-- The exclusion pass finds nothing in an outcome. -/
theorem Mode.pass_finish_pass (m : Mode) (p : Policy) (t : Text) :
    p.pass (m.finish (p.pass t)) = m.finish (p.pass t) := by
  cases m with
  | exclusionOnly => exact p.pass_pass_self t
  | pruneOrphans => exact p.pass_pass_pass _ t

theorem sieve_sieve_text (m : Mode) {s : NameSet} (hs : s.isEmpty = false) (t : Text) :
    (sieve m s (sieve m s t).text).text = Text.trim (sieve m s t).text := by
  have honce := sieve_text_eq_finish m hs t
  have hpass := m.pass_finish_pass (Policy.excluding s) (Text.trim t)
  calc (sieve m s (sieve m s t).text).text
      = m.finish ((Policy.excluding s).pass (Text.trim (sieve m s t).text)) :=
        sieve_text_eq_finish m hs _
    _ = m.finish (Text.trim (sieve m s t).text) := by
        rw [honce, Policy.pass_trim_of_pass_eq hpass]
    _ = Text.trim (sieve m s t).text := by rw [honce, m.finish_trim_finish]

/-- A choice of lines that is all of them leaves no position out. -/
theorem chosen_of_linesAt_eq {α : Type} {chosen : Nat → Bool} {ls : List α} {i : Nat}
    (h : linesAt chosen ls ls.length = ls) (hi : i < ls.length) : chosen i = true := by
  have hle : ls.length ≤ ((List.range ls.length).filter chosen).length := by
    calc ls.length = (linesAt chosen ls ls.length).length := by rw [h]
      _ ≤ ((List.range ls.length).filter chosen).length := List.length_filterMap_le _ _
  have hall : (List.range ls.length).filter chosen = List.range ls.length :=
    List.filter_sublist.eq_of_length_le (by simpa using hle)
  exact List.filter_eq_self.mp hall i (List.mem_range.mpr hi)

/-- If an outcome is the trimmed text, only an empty line can have been dropped. -/
theorem Passes.survives_of_ofLines_eq {m : Mode} {s : NameSet} {t l : Text} {i : Nat}
    (h : Text.ofLines (Passes.run m s t).keptTexts = Text.trim t)
    (hl : (Text.lines (Text.trim t))[i]? = some l) (hne : l ≠ []) :
    (Passes.run m s t).survives i = true := by
  by_cases hkept : (Passes.run m s t).keptTexts = []
  · have hempty : Text.trim t = [] := by rw [← h, hkept]; rfl
    have hmem : l ∈ Text.lines [] := hempty ▸ List.mem_of_getElem? hl
    simp [Text.lines, hne] at hmem
  · have hlines : (Passes.run m s t).keptTexts = Text.lines (Text.trim t) := by
      rw [← h, Text.lines_ofLines (fun k => newline_not_mem_of_mem_keptTexts) hkept]
    rw [Passes.keptTexts_run] at hlines
    obtain ⟨hi, -⟩ := List.getElem?_eq_some_iff.mp hl
    exact chosen_of_linesAt_eq hlines hi

/-- A second sieving trims the outcome of the first and drops no line with a character that is not
blank; a third changes nothing. So the first outcome stays as it is exactly if it is tight. -/
theorem sieve_again (m : Mode) {s : NameSet} (hs : s.isEmpty = false) (t : Text) :
    let once := (sieve m s t).text
    let twice := (sieve m s once).text
    twice = Text.trim once ∧
      (∀ i l, (Text.lines (Text.trim once))[i]? = some l → (∃ c ∈ l, Text.isBlank c = false) →
        (Passes.run m s once).survives i = true) ∧
      (sieve m s twice).text = twice ∧ (twice = once ↔ once.IsTight) := by
  intro once twice
  have htwice : twice = Text.trim once := sieve_sieve_text m hs t
  refine ⟨htwice, fun i l hl hink => ?_, ?_, ?_⟩
  · obtain ⟨c, hc, -⟩ := hink
    have htext : Text.ofLines (Passes.run m s once).keptTexts = Text.trim once := by
      rw [← htwice, ← sieve_text m hs]
    exact Passes.survives_of_ofLines_eq htext hl (List.ne_nil_of_mem hc)
  · calc (sieve m s twice).text = Text.trim twice := sieve_sieve_text m hs once
      _ = twice := by rw [htwice, Text.trim_trim]
  · rw [htwice, Text.trim_eq_self_iff]

/-- An indented stray closing line comes first of what survives, a block that is replaced by an
excluded one keeps its second closing line, and a block that is never closed ends in blank lines. -/
def raggedText : Text :=
  Text.ofLines ["  A \x7b\r", " x\r", "\x7d\r", "\t\x7d", "  B \x7b\r", "A \x7b", "\x7d", "\x7d",
    "E \x7b", " y", "\x7d", "A || B", "C || B\r", "C \x7b", " z\t\r", "\r", "A o--o C"]

theorem sieve_again_raggedText :
    (NameSet.ofList ["A"]).isEmpty = false ∧
      (sieve .pruneOrphans (.ofList ["A"])
          (sieve .pruneOrphans (.ofList ["A"]) raggedText).text).text =
        Text.ofLines ["\x7d", "  B \x7b\r", "\x7d", "C || B\r", "C \x7b", " z"] := by
  have hs : (NameSet.ofList ["A"]).isEmpty = false := by decide
  have h := (sieve_again .pruneOrphans hs raggedText).1
  exact ⟨hs, h.trans (by decide +kernel)⟩

end EntitySieve
