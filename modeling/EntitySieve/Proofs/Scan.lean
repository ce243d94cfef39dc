import EntitySieve.Diagram.Sieve

/-! A pass as a run over its lines. Between two lines a pass remembers only the entity of the open
block: whether the block is skipped is the policy's judgement of that entity. -/
namespace EntitySieve
namespace Policy

/-- The block that is open after the lines. -/
def after (p : Policy) (b : OpenBlock) (ls : List Text) : OpenBlock :=
  ls.foldl (fun c l => (p.step c (Line.read l)).1) b

@[simp] theorem after_nil (p : Policy) (b : OpenBlock) : p.after b [] = b := rfl

@[simp] theorem after_cons (p : Policy) (b : OpenBlock) (l : Text) (ls : List Text) :
    p.after b (l :: ls) = p.after (p.judge b l).block ls := rfl

theorem after_append (p : Policy) (b : OpenBlock) (ks ls : List Text) :
    p.after b (ks ++ ls) = p.after (p.after b ks) ls := List.foldl_append

/-- The verdict on a line is given in the block that is open after the lines before it. -/
theorem scan_getElem? (p : Policy) (b : OpenBlock) (ls : List Text) (i : Nat) :
    (p.scan b ls)[i]? = ls[i]?.map (p.judge (p.after b (ls.take i))) := by
  induction ls generalizing b i with
  | nil => simp [scan]
  | cons l ls ih =>
    cases i with
    | zero => simp [scan]
    | succ i => simp only [scan, List.getElem?_cons_succ, List.take_succ_cons, after_cons, ih]

/-- The block of an entity, flagged as the policy judges the entity. -/
def blockOf (p : Policy) (e : Text) : Block := ⟨e, p.skips e⟩

/-- Whether a line stays that stands in the block of the owner, or in no block. -/
def admits (p : Policy) (owner : Option Text) : Line → Bool
  | .header => true
  | .relationship r => p.keeps r
  | .opening e => !p.skips e
  | .closing => owner.all fun e => !p.skips e
  | .body => owner.any fun e => !p.skips e

theorem admits_closing_iff (p : Policy) (owner : Option Text) :
    p.admits owner .closing = true ↔ ∀ e ∈ owner, p.skips e = false := by
  cases owner <;> simp [admits]

theorem admits_body_iff (p : Policy) (owner : Option Text) :
    p.admits owner .body = true ↔ ∃ e ∈ owner, p.skips e = false := by
  cases owner <;> simp [admits]

end Policy

namespace Line

/-- The owner of the lines that follow a line. -/
def ownerAfter (owner : Option Text) : Line → Option Text
  | .opening e => some e
  | .closing => none
  | _ => owner

end Line

namespace Policy

theorem step_owner (p : Policy) (owner : Option Text) (l : Line) :
    p.step (owner.map p.blockOf) l =
      ((l.ownerAfter owner).map p.blockOf, p.admits owner l) := by
  cases l with
  | header | relationship | opening => rfl
  | closing | body => cases owner <;> rfl

end Policy

theorem Line.relationship?_eq_some_iff {l : Line} {r : Relationship} :
    l.relationship? = some r ↔ l = .relationship r := by
  cases l <;> simp [relationship?]

theorem Line.entity?_eq_some_iff {l : Line} {e : Text} :
    l.entity? = some e ↔ l = .opening e := by
  cases l <;> simp [entity?]

namespace Policy
variable {l : Line}

theorem step_of_relationship? {r : Relationship} (p : Policy) (b : OpenBlock)
    (h : l.relationship? = some r) : (p.step b l).2 = p.keeps r := by
  rw [Line.relationship?_eq_some_iff.mp h]
  rfl

theorem step_of_entity? {e : Text} (p : Policy) (b : OpenBlock) (h : l.entity? = some e) :
    (p.step b l).2 = !p.skips e := by
  rw [Line.entity?_eq_some_iff.mp h]
  rfl

end Policy

theorem mem_relationshipsOf {ls : List Text} {r : Relationship} :
    r ∈ relationshipsOf ls ↔ ∃ l ∈ ls, Line.read l = .relationship r := by
  simp only [relationshipsOf, List.mem_filterMap, Line.relationship?_eq_some_iff]

theorem mem_entitiesOf {ls : List Text} {e : Text} :
    e ∈ entitiesOf ls ↔ ∃ l ∈ ls, Line.read l = .opening e := by
  simp only [entitiesOf, List.mem_filterMap, Line.entity?_eq_some_iff]

theorem relationshipsOf_append (ks ls : List Text) :
    relationshipsOf (ks ++ ls) = relationshipsOf ks ++ relationshipsOf ls :=
  List.filterMap_append

theorem relationshipsOf_cons (l : Text) (ls : List Text) :
    relationshipsOf (l :: ls) = (Line.read l).relationship?.toList ++ relationshipsOf ls := by
  cases h : (Line.read l).relationship? <;> simp [relationshipsOf, h]

theorem entitiesOf_cons (l : Text) (ls : List Text) :
    entitiesOf (l :: ls) = (Line.read l).entity?.toList ++ entitiesOf ls := by
  cases h : (Line.read l).entity? <;> simp [entitiesOf, h]

namespace Verdict

theorem keptTexts_append (vs ws : List Verdict) :
    keptTexts (vs ++ ws) = keptTexts vs ++ keptTexts ws := by
  simp [keptTexts, List.filter_append]

theorem keptTexts_scan_cons (p : Policy) (b : OpenBlock) (l : Text) (ls : List Text) :
    keptTexts (p.scan b (l :: ls)) =
      (if (p.step b (Line.read l)).2 then [l] else []) ++
        keptTexts (p.scan (p.step b (Line.read l)).1 ls) := by
  rw [Policy.scan, ← List.singleton_append, keptTexts_append]
  congr 1
  split <;> rename_i h <;> simp [keptTexts, Policy.judge, h]

/-- What is read in the lines that a pass keeps, if a pass decides by that alone. -/
theorem filterMap_keptTexts {α : Type} {g : Line → Option α} {p : Policy} {stays : α → Bool}
    (hg : ∀ b l x, g l = some x → (p.step b l).2 = stays x) (b : OpenBlock) (ls : List Text) :
    (keptTexts (p.scan b ls)).filterMap (fun l => g (Line.read l)) =
      (ls.filterMap fun l => g (Line.read l)).filter stays := by
  induction ls generalizing b with
  | nil => rfl
  | cons l ls ih =>
    rw [keptTexts_scan_cons, List.filterMap_append, ih, List.filterMap_cons]
    cases hx : g (Line.read l) with
    | none => split <;> simp [hx]
    | some x =>
      rw [hg b _ x hx, List.filter_cons]
      split <;> simp [hx]

/-- A pass decides on each relationship by itself, whatever block it stands in. -/
theorem relationshipsOf_keptTexts (p : Policy) (b : OpenBlock) (ls : List Text) :
    relationshipsOf (keptTexts (p.scan b ls)) = (relationshipsOf ls).filter p.keeps :=
  filterMap_keptTexts (fun b _ _ h => p.step_of_relationship? b h) b ls

/-- A pass decides on each opening line by its entity. -/
theorem entitiesOf_keptTexts (p : Policy) (b : OpenBlock) (ls : List Text) :
    entitiesOf (keptTexts (p.scan b ls)) = (entitiesOf ls).filter fun e => !p.skips e :=
  filterMap_keptTexts (fun b _ _ h => p.step_of_entity? b h) b ls

end Verdict
end EntitySieve
