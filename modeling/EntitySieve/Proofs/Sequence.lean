import EntitySieve.Proofs.Composition

/-! Sieving several times. If all closing lines close blocks, one set after another takes away what
their union takes away at once, whatever the order, except that the blank ends of each outcome are
trimmed before the next step. -/
namespace EntitySieve

namespace NameSet

def unionAll (ss : List NameSet) : NameSet := ss.foldr (· ∪ ·) ∅

theorem mem_unionAll {ss : List NameSet} {x : Text} : x ∈ unionAll ss ↔ ∃ s ∈ ss, x ∈ s := by
  induction ss with
  | nil => simp [unionAll]
  | cons s ss ih =>
    change x ∈ s ∪ unionAll ss ↔ _
    rw [mem_union, ih]
    simp

theorem unionAll_perm {ss ss' : List NameSet} (h : ss.Perm ss') : unionAll ss = unionAll ss' :=
  eq_of_mem_iff fun x => by
    rw [mem_unionAll, mem_unionAll]
    exact exists_congr fun s => and_congr_left fun _ => h.mem_iff

theorem spares_union {s s' : NameSet} {r : Relationship} :
    (s ∪ s').Spares r ↔ s.Spares r ∧ s'.Spares r := by
  simp [Spares, forall_and]

end NameSet

/-- The text after sieving with each set in turn. -/
def sieveAll (m : Mode) (ss : List NameSet) (t : Text) : Text :=
  ss.foldl (fun u s => (sieve m s u).text) t

section Twice
variable {m : Mode} {s s' : NameSet} {t : Text}

/-- What is referenced in an outcome is what the spared relationships of the text reference. -/
theorem referenced_pass {p : Policy} (hp : ∀ r, p.keeps r = decide (s.Spares r)) {e : Text} :
    Referenced s' (Text.kinds (p.pass t)) e ↔ Referenced (s ∪ s') (Text.kinds t) e := by
  rw [referenced_iff, referenced_iff, relationshipsOf_lines_pass]
  simp only [List.mem_filter, hp, decide_eq_true_eq, NameSet.spares_union, and_assoc]

theorem Referenced.of_union {ls : List Line} {e : Text} (h : Referenced (s ∪ s') ls e) :
    Referenced s ls e := by
  obtain ⟨r, hr, hspares, he⟩ := h
  exact ⟨r, hr, (NameSet.spares_union.mp hspares).1, he⟩

theorem keepsEntity_union_iff {p : Policy} (hp : ∀ r, p.keeps r = decide (s.Spares r)) {e : Text} :
    m.KeepsEntity s (Text.kinds t) e ∧ m.KeepsEntity s' (Text.kinds (p.pass t)) e ↔
      m.KeepsEntity (s ∪ s') (Text.kinds t) e := by
  simp only [Mode.KeepsEntity, referenced_pass hp, NameSet.mem_union, not_or]
  constructor
  · rintro ⟨⟨hs, -⟩, hs', href⟩
    exact ⟨⟨hs, hs'⟩, href⟩
  · rintro ⟨⟨hs, hs'⟩, href⟩
    exact ⟨⟨hs, fun hm => (href hm).of_union⟩, hs', href⟩

/-- What decides in two steps is what decides for the union. -/
theorem policy_both (m : Mode) (s s' : NameSet) (t : Text) :
    (m.policy s (Text.kinds t)).both
        (m.policy s' (Text.kinds ((m.policy s (Text.kinds t)).pass t))) =
      m.policy (s ∪ s') (Text.kinds t) := by
  refine Policy.eq_of_agree (fun r => ?_) (fun e => ?_)
  · change (decide (s.Spares r) && decide (s'.Spares r)) = decide ((s ∪ s').Spares r)
    rw [← Bool.decide_and, decide_eq_decide, NameSet.spares_union]
  · change (!decide _ || !decide _) = !decide _
    rw [← Bool.not_and, ← Bool.decide_and]
    exact congrArg (!·) (decide_eq_decide.mpr (keepsEntity_union_iff fun _ => rfl))

theorem closesBlocks_sieve (m : Mode) (s : NameSet) (h : ClosesBlocks (Text.kinds t)) :
    ClosesBlocks (Text.kinds (sieve m s t).text) :=
  sieve_text_keeps (P := fun t => ClosesBlocks (Text.kinds t)) (fun t => (closesBlocks_trim t).mpr)
    (fun p _ => p.closesBlocks_pass) m s h

/-- Up to blank ends, two steps leave what the union leaves. -/
theorem trim_sieve_sieve (m : Mode) (s s' : NameSet) (h : ClosesBlocks (Text.kinds t)) :
    Text.trim (sieve m s' (sieve m s t).text).text = Text.trim (sieve m (s ∪ s') t).text := by
  cases hs : s.isEmpty with
  | true =>
    have hunion : s ∪ s' = s' := NameSet.eq_of_mem_iff fun x => by
      simp [NameSet.isEmpty_iff.mp hs x]
    rw [hunion, sieve, sieve, if_pos hs]
    rfl
  | false =>
    cases hs' : s'.isEmpty with
    | true =>
      have hunion : s ∪ s' = s := NameSet.eq_of_mem_iff fun x => by
        simp [NameSet.isEmpty_iff.mp hs' x]
      rw [hunion, sieve, if_pos hs']
      rfl
    | false =>
      have hc : ClosesBlocks (Text.kinds (Text.trim t)) := (closesBlocks_trim t).mpr h
      have hfirst : (sieve m s t).text =
          (m.policy s (Text.kinds (Text.trim t))).pass (Text.trim t) := by
        rw [sieve_text_eq_pass m hs h, policy_trim]
      calc Text.trim (sieve m s' (sieve m s t).text).text
          = Text.trim ((m.policy s' (Text.kinds (sieve m s t).text)).pass (sieve m s t).text) := by
            rw [sieve_text_eq_pass m hs' (closesBlocks_sieve m s h), Policy.trim_pass_trim]
        _ = Text.trim ((m.policy (s ∪ s') (Text.kinds (Text.trim t))).pass (Text.trim t)) := by
            rw [hfirst, Policy.pass_pass _ hc, policy_both]
        _ = Text.trim (sieve m (s ∪ s') t).text := by
            rw [policy_trim, sieve_text_eq_pass m (NameSet.isEmpty_union_left hs s') h]

end Twice

/-- If all closing lines close blocks, sieving with one set after another leaves what sieving with
their union leaves, up to blank ends, and so the order of the sets does not matter. -/
theorem trim_sieveAll (m : Mode) (ss : List NameSet) {t : Text}
    (h : ClosesBlocks (Text.kinds t)) :
    Text.trim (sieveAll m ss t) = Text.trim (sieve m (.unionAll ss) t).text ∧
      ∀ ss', ss.Perm ss' → Text.trim (sieveAll m ss' t) = Text.trim (sieveAll m ss t) := by
  have hunion (ss : List NameSet) :
      Text.trim (sieveAll m ss t) = Text.trim (sieve m (.unionAll ss) t).text := by
    induction ss generalizing t with
    | nil => rfl
    | cons s ss ih =>
      calc Text.trim (sieveAll m (s :: ss) t)
          = Text.trim (sieve m (.unionAll ss) (sieve m s t).text).text :=
            ih (closesBlocks_sieve m s h)
        _ = Text.trim (sieve m (.unionAll (s :: ss)) t).text := trim_sieve_sieve m s _ h
  refine ⟨hunion ss, fun ss' hperm => ?_⟩
  rw [hunion, hunion, NameSet.unionAll_perm hperm]

/-- A block of A that another one replaces, and a block that ends with a blank line once the last
relationship is gone. -/
def replacedTwice : Text :=
  Text.ofLines ["C o--o D", "  A \x7b", "A \x7b", " x", "B \x7b", " y", "\x7d", "C \x7b", " z", "",
    "B o--o D"]

theorem trim_sieveAll_replacedTwice :
    ClosesBlocks (Text.kinds replacedTwice) ∧
      Text.trim (sieveAll .pruneOrphans [.ofList ["B"], ∅, .ofList ["A"]] replacedTwice) =
        Text.ofLines ["C o--o D", "C \x7b", " z"] := by
  have hc : ClosesBlocks (Text.kinds replacedTwice) := by decide +kernel
  have h := (trim_sieveAll .pruneOrphans [.ofList ["B"], ∅, .ofList ["A"]] hc).1
  exact ⟨hc, h.trans (by decide +kernel)⟩

end EntitySieve
