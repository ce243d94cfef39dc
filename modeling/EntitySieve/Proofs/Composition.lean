import EntitySieve.Proofs.BlockFate
import EntitySieve.Proofs.TextPass

/-! Passes in a row. In a text whose closing lines all close a block, a line that a pass keeps has
the same owner among all lines and among the kept ones, so a second pass over the kept lines decides
as it would have decided in the text. Two passes are then one, and so is each way of sieving. -/
namespace EntitySieve

/-- Whether every closing line closes a block: the line that rules it opens one. -/
def ClosesBlocks (ls : List Line) : Prop :=
  ∀ i, ls[i]? = some .closing → ∃ e, owner? ls everywhere i = some e

/-- The same, read from the front: no closing line comes while there is no owner. -/
def ClosesFrom : Option Text → List Line → Prop
  | _, [] => True
  | owner, l :: ls => (l = .closing → owner.isSome = true) ∧ ClosesFrom (l.ownerAfter owner) ls

instance decidableClosesFrom : (owner : Option Text) → (ls : List Line) →
    Decidable (ClosesFrom owner ls)
  | _, [] => .isTrue trivial
  | owner, l :: ls =>
    haveI := decidableClosesFrom (l.ownerAfter owner) ls
    inferInstanceAs (Decidable ((l = .closing → owner.isSome = true) ∧ _))

section ClosesFrom
variable {owner : Option Text} {ls : List Line}

/-- The owner at a position is what the lines before it make of no owner. -/
theorem owner?_everywhere {i : Nat} (hi : i ≤ ls.length) :
    owner? ls everywhere i = (ls.take i).foldl (fun o l => l.ownerAfter o) none := by
  induction i with
  | zero => rfl
  | succ i ih =>
    have hl : ls[i]? = some ls[i] := List.getElem?_eq_getElem (by omega)
    rw [owner?_succ hl, ih (by omega), List.take_add_one, List.foldl_append, hl]
    rfl

theorem closesFrom_iff : ClosesFrom owner ls ↔ ∀ i, ls[i]? = some .closing →
    ((ls.take i).foldl (fun o l => l.ownerAfter o) owner).isSome = true := by
  induction ls generalizing owner with
  | nil => simp [ClosesFrom]
  | cons l ls ih =>
    rw [ClosesFrom, ih]
    constructor
    · rintro ⟨hl, hls⟩ i hi
      cases i with
      | zero => exact hl (by simpa using hi)
      | succ i => exact hls i (by simpa using hi)
    · intro h
      exact ⟨fun hl => h 0 (by simp [hl]), fun i hi => h (i + 1) (by simpa using hi)⟩

theorem closesBlocks_iff : ClosesBlocks ls ↔ ClosesFrom none ls := by
  rw [closesFrom_iff]
  refine forall_congr' fun i => imp_congr_right fun hi => ?_
  obtain ⟨hlt, -⟩ := List.getElem?_eq_some_iff.mp hi
  rw [← owner?_everywhere (Nat.le_of_lt hlt), Option.isSome_iff_exists]

instance : DecidablePred ClosesBlocks := fun _ => decidable_of_iff _ closesBlocks_iff.symm

theorem closesFrom_append_body : ClosesFrom owner (ls ++ [.body]) = ClosesFrom owner ls := by
  induction ls generalizing owner with
  | nil => simp [ClosesFrom]
  | cons l ls ih => simp only [List.cons_append, ClosesFrom, ih]

theorem closesBlocks_trim (t : Text) :
    ClosesBlocks (Text.kinds (Text.trim t)) ↔ ClosesBlocks (Text.kinds t) := by
  rw [closesBlocks_iff, closesBlocks_iff]
  refine iff_of_eq (Text.apply_kinds_trim (f := ClosesFrom none) (fun ls => ?_) (fun ls => ?_) t)
  · simp [ClosesFrom, Line.ownerAfter]
  · exact closesFrom_append_body

end ClosesFrom

namespace Policy
variable {p q : Policy} {owner owner' : Option Text}

theorem eq_of_agree (hr : ∀ r, p.keeps r = q.keeps r) (he : ∀ e, p.skips e = q.skips e) :
    p = q := by
  cases p
  cases q
  exact (Policy.mk.injEq ..).mpr ⟨funext hr, funext he⟩

/-- The lines that a pass keeps from a place on that stands in the block of the owner. -/
def kept (p : Policy) (owner : Option Text) (ls : List Text) : List Text :=
  Verdict.keptTexts (p.scan (owner.map p.blockOf) ls)

@[simp] theorem kept_nil : p.kept owner [] = [] := rfl

theorem kept_cons (l : Text) (ls : List Text) :
    p.kept owner (l :: ls) =
      (if p.admits owner (Line.read l) then [l] else []) ++
        p.kept ((Line.read l).ownerAfter owner) ls := by
  rw [kept, Verdict.keptTexts_scan_cons, step_owner]
  rfl

theorem pass_eq (t : Text) : p.pass t = Text.ofLines (p.kept none (Text.lines t)) := rfl

theorem newline_not_mem_of_mem_kept {t l : Text} (h : l ∈ p.kept none (Text.lines t)) :
    '\n' ∉ l :=
  newline_not_mem_of_mem_keptTexts_scan h

/-- Lets stay what both policies let stay. -/
def both (p q : Policy) : Policy where
  keeps r := p.keeps r && q.keeps r
  skips e := p.skips e || q.skips e

/-- Whether a second owner is the first one, unless the blocks of the first one go. -/
def Follows (p : Policy) (owner owner' : Option Text) : Prop :=
  ∀ e ∈ owner, p.skips e = false → owner' = some e

/-- A kept line acts on both owners alike. -/
theorem Follows.ownerAfter (h : p.Follows owner owner') (l : Line) :
    p.Follows (l.ownerAfter owner) (l.ownerAfter owner') := by
  cases l with
  | header | relationship | body => exact h
  | opening e =>
    intro x hx _
    exact hx
  | closing =>
    intro x hx
    contradiction

/-- A line that goes leaves the second owner as it is: if it opens a block, the block goes too. -/
theorem Follows.ownerAfter_left (h : p.Follows owner owner') {l : Line}
    (hl : p.admits owner l = false) : p.Follows (l.ownerAfter owner) owner' := by
  cases l with
  | header | relationship | body => exact h
  | opening e =>
    intro x hx hs
    obtain rfl := Option.some.inj hx
    simp [admits, hs] at hl
  | closing =>
    intro x hx
    contradiction

theorem admits_both_of_not {l : Line} (hl : p.admits owner l = false) :
    (p.both q).admits owner l = false := by
  cases l with
  | header | relationship | opening => simp_all [admits, both]
  | closing | body => cases owner <;> simp_all [admits, both]

/-- A kept line is judged by the second policy as it would be where it stood. -/
theorem Follows.admits_both (h : p.Follows owner owner') {l : Line}
    (hc : l = .closing → owner.isSome = true) (hl : p.admits owner l = true) :
    (p.both q).admits owner l = q.admits owner' l := by
  cases l with
  | header => rfl
  | relationship | opening => simp_all [admits, both]
  | closing =>
    obtain ⟨e, he⟩ := Option.isSome_iff_exists.mp (hc rfl)
    have hs := (p.admits_closing_iff owner).mp hl e he
    rw [h e he hs, he]
    simp [admits, both, hs]
  | body =>
    obtain ⟨e, he, hs⟩ := (p.admits_body_iff owner).mp hl
    rw [h e he hs, Option.mem_def.mp he]
    simp [admits, both, hs]

/-- Two passes keep what one pass keeps that is as strict as both. -/
theorem kept_kept {ls : List Text} (h : p.Follows owner owner')
    (hc : ClosesFrom owner (ls.map Line.read)) :
    q.kept owner' (p.kept owner ls) = (p.both q).kept owner ls := by
  -- Both owners vary: a line that the first pass drops acts on the first of them only.
  induction ls generalizing owner owner' with
  | nil => rfl
  | cons l ls ih =>
    obtain ⟨hl, hls⟩ := hc
    rw [kept_cons, kept_cons]
    cases ha : p.admits owner (Line.read l) with
    | false =>
      rw [admits_both_of_not ha]
      exact ih (h.ownerAfter_left ha) hls
    | true =>
      rw [h.admits_both hl ha, if_pos rfl, List.singleton_append, kept_cons,
        ih (h.ownerAfter _) hls]

/-- Among the kept lines, every closing line still closes a block. -/
theorem closesFrom_kept {ls : List Text} (h : p.Follows owner owner')
    (hc : ClosesFrom owner (ls.map Line.read)) :
    ClosesFrom owner' ((p.kept owner ls).map Line.read) := by
  induction ls generalizing owner owner' with
  | nil => trivial
  | cons l ls ih =>
    obtain ⟨hl, hls⟩ := hc
    rw [kept_cons]
    cases ha : p.admits owner (Line.read l) with
    | false => exact ih (h.ownerAfter_left ha) hls
    | true =>
      refine ⟨fun hclosing => ?_, ih (h.ownerAfter _) hls⟩
      obtain ⟨e, he⟩ := Option.isSome_iff_exists.mp (hl hclosing)
      rw [hclosing] at ha
      rw [h e he ((p.admits_closing_iff owner).mp ha e he)]
      rfl

theorem follows_none : p.Follows none none := fun e he => by contradiction

theorem pass_pass (q : Policy) {t : Text} (h : ClosesBlocks (Text.kinds t)) :
    q.pass (p.pass t) = (p.both q).pass t := by
  have hnewline : ∀ l ∈ p.kept none (Text.lines t), '\n' ∉ l := fun l => newline_not_mem_of_mem_kept
  have hlines := q.keptTexts_scan_lines_ofLines hnewline
  calc q.pass (p.pass t)
      = Text.ofLines (q.kept none (p.kept none (Text.lines t))) := congrArg Text.ofLines hlines
    _ = (p.both q).pass t := by rw [kept_kept follows_none (closesBlocks_iff.mp h), pass_eq]

theorem closesBlocks_pass (p : Policy) {t : Text} (h : ClosesBlocks (Text.kinds t)) :
    ClosesBlocks (Text.kinds (p.pass t)) := by
  have hkept := closesFrom_kept (p := p) follows_none (closesBlocks_iff.mp h)
  have hbody : ClosesFrom none [.body] = ClosesFrom none [] := by simp [ClosesFrom]
  rw [closesBlocks_iff, pass_eq,
    Text.apply_kinds_ofLines (f := ClosesFrom none) hbody fun l => newline_not_mem_of_mem_kept]
  exact hkept

/-- Policies that agree on what the lines declare give the same verdicts. -/
theorem scan_congr {ls : List Text} (hr : ∀ r ∈ relationshipsOf ls, p.keeps r = q.keeps r)
    (he : ∀ e ∈ entitiesOf ls, p.skips e = q.skips e) (b : OpenBlock) :
    p.scan b ls = q.scan b ls := by
  simp only [mem_relationshipsOf, mem_entitiesOf] at hr he
  induction ls generalizing b with
  | nil => rfl
  | cons l ls ih =>
    have hstep : p.step b (Line.read l) = q.step b (Line.read l) := by
      cases hl : Line.read l with
      | header | closing | body => rfl
      | relationship r => exact congrArg (b, ·) (hr r ⟨l, List.mem_cons_self, hl⟩)
      | opening e => exact congrArg (OpenBlock.enter e) (he e ⟨l, List.mem_cons_self, hl⟩)
    have hjudge : q.judge b l = p.judge b l := by simp only [judge, hstep]
    rw [scan, scan, hjudge]
    congr 1
    apply ih
    · rintro r ⟨k, hk, hread⟩
      exact hr r ⟨k, List.mem_cons_of_mem l hk, hread⟩
    · rintro e ⟨k, hk, hread⟩
      exact he e ⟨k, List.mem_cons_of_mem l hk, hread⟩

theorem pass_congr {t : Text}
    (hr : ∀ r ∈ relationshipsOf (Text.lines t), p.keeps r = q.keeps r)
    (he : ∀ e ∈ entitiesOf (Text.lines t), p.skips e = q.skips e) : p.pass t = q.pass t := by
  rw [pass, scan_congr hr he, pass]

end Policy

instance (m : Mode) (s : NameSet) (ls : List Line) : DecidablePred (m.KeepsEntity s ls) := fun e =>
  inferInstanceAs (Decidable (e ∉ s ∧ (m = .pruneOrphans → Referenced s ls e)))

/-- What decides in a mode, for a text of the given lines. -/
def Mode.policy (m : Mode) (s : NameSet) (ls : List Line) : Policy where
  keeps r := decide (s.Spares r)
  skips e := !decide (m.KeepsEntity s ls e)

theorem policy_exclusionOnly (s : NameSet) (ls : List Line) :
    Mode.exclusionOnly.policy s ls = Policy.excluding s := by
  refine Policy.eq_of_agree (fun r => (Policy.excluding_keeps s r).symm) (fun e => ?_)
  simp [Mode.policy, Policy.excluding_skips, Mode.KeepsEntity]

theorem referenced_iff {s : NameSet} {t e : Text} :
    Referenced s (Text.kinds t) e ↔
      ∃ r ∈ relationshipsOf (Text.lines t), s.Spares r ∧ e ∈ r.endpoints := by
  rw [relationshipsOf_lines, Referenced]

theorem mem_namedIn_pass_excluding {s : NameSet} {t e : Text} :
    e ∈ namedIn (Text.lines ((Policy.excluding s).pass t)) ↔ Referenced s (Text.kinds t) e := by
  rw [namedIn_lines_pass, mem_namedIn_keptTexts, referenced_iff]

theorem skips_onlyNamed (names : List Text) (e : Text) :
    (Policy.onlyNamed names).skips e = !decide (e ∈ names) := by
  have hany : (names.any fun n => decide (n = e)) = decide (e ∈ names) := by
    rw [Bool.eq_iff_iff, List.any_eq_true, decide_eq_true_iff]
    simp only [decide_eq_true_eq, exists_eq_right]
  exact congrArg (!·) hany

theorem policy_pruneOrphans (s : NameSet) (t : Text) :
    Mode.pruneOrphans.policy s (Text.kinds t) =
      (Policy.excluding s).both
        (Policy.onlyNamed (namedIn (Text.lines ((Policy.excluding s).pass t)))) := by
  refine Policy.eq_of_agree (fun r => ?_) (fun e => ?_)
  · simp [Mode.policy, Policy.both, Policy.excluding_keeps, Policy.onlyNamed]
  · simp only [Policy.both, skips_onlyNamed, mem_namedIn_pass_excluding]
    simp [Mode.policy, Policy.excluding_skips, Mode.KeepsEntity]

/-- The blank ends of a text have no say in what decides. -/
theorem policy_trim (m : Mode) (s : NameSet) (t : Text) :
    m.policy s (Text.kinds (Text.trim t)) = m.policy s (Text.kinds t) := by
  have hreferenced (e : Text) :
      Referenced s (Text.kinds (Text.trim t)) e ↔ Referenced s (Text.kinds t) e := by
    rw [Referenced, Referenced, Text.filterMap_kinds_trim rfl]
  have hkeeps (e : Text) :
      m.KeepsEntity s (Text.kinds (Text.trim t)) e ↔ m.KeepsEntity s (Text.kinds t) e := by
    rw [Mode.KeepsEntity, Mode.KeepsEntity, hreferenced]
  exact Policy.eq_of_agree (fun _ => rfl)
    fun e => congrArg (!·) (decide_eq_decide.mpr (hkeeps e))

/-- If all closing lines close blocks, sieving is a single pass. -/
theorem sieve_text_eq_pass (m : Mode) {s : NameSet} (hs : s.isEmpty = false) {t : Text}
    (h : ClosesBlocks (Text.kinds t)) :
    (sieve m s t).text = (m.policy s (Text.kinds t)).pass (Text.trim t) := by
  rw [sieve_text_eq_finish m hs, ← policy_trim]
  cases m with
  | exclusionOnly => rw [policy_exclusionOnly, Mode.finish]
  | pruneOrphans =>
    rw [policy_pruneOrphans, Mode.finish, Policy.pass_pass _ ((closesBlocks_trim t).mpr h)]

end EntitySieve
