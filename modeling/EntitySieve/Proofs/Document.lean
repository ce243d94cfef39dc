import EntitySieve.Proofs.LineRule
import EntitySieve.Proofs.Lines

/-! Documents made of whole items. Each item is kept or dropped as a whole, and what decides is the
item and the relationships of the document, not the order in which they stand. -/
namespace EntitySieve

/-- The lines of a block: one that opens it, body lines, and one that closes it. -/
structure EntityBlock where
  entity : Text
  first : Text
  body : List Text
  last : Text
  opens : Line.read first = .opening entity
  inner : ∀ l ∈ body, Line.read l = .body
  closes : Line.read last = .closing

def EntityBlock.lines (b : EntityBlock) : List Text := b.first :: (b.body ++ [b.last])

inductive Item where
  | header (line : Text) (h : Line.read line = .header)
  | relationship (line : Text) (r : Relationship) (h : Line.read line = .relationship r)
  | loose (line : Text) (h : Line.read line = .body)
  | block (b : EntityBlock)

namespace Item

def lines : Item → List Text
  | header l _ | relationship l _ _ | loose l _ => [l]
  | block b => b.lines

def relationship? : Item → Option Relationship
  | relationship _ r _ => some r
  | _ => none

/-- Whether an item stays in a document of the given items. -/
def Stays (m : Mode) (s : NameSet) (items : List Item) : Item → Prop
  | header _ _ => True
  | relationship _ r _ => s.Spares r
  | loose _ _ => False
  | block b => b.entity ∉ s ∧ (m = .pruneOrphans →
      ∃ r ∈ items.filterMap relationship?, s.Spares r ∧ b.entity ∈ r.endpoints)

instance (m : Mode) (s : NameSet) (items : List Item) : DecidablePred (Stays m s items) := fun x =>
  match x with
  | header _ _ => .isTrue trivial
  | relationship _ r _ => inferInstanceAs (Decidable (s.Spares r))
  | loose _ _ => .isFalse id
  | block b => inferInstanceAs (Decidable (b.entity ∉ s ∧ (m = .pruneOrphans →
      ∃ r ∈ items.filterMap relationship?, s.Spares r ∧ b.entity ∈ r.endpoints)))

/-- Whether a pass keeps an item that it meets outside a block. -/
def keptBy (p : Policy) : Item → Bool
  | header _ _ => true
  | relationship _ r _ => p.keeps r
  | loose _ _ => false
  | block b => !p.skips b.entity

end Item

/-- The lines of the items, of which none holds a line feed, with no blank ends. -/
structure Document where
  items : List Item
  oneLine : ∀ l ∈ items.flatMap Item.lines, '\n' ∉ l
  trimmed : Text.trim (Text.ofLines (items.flatMap Item.lines)) =
    Text.ofLines (items.flatMap Item.lines)

def Document.text (d : Document) : Text := Text.ofLines (d.items.flatMap Item.lines)

namespace Verdict

theorem keptTexts_scan_body (p : Policy) (b : OpenBlock) (ls : List Text) {ks : List Text}
    (h : ∀ k ∈ ks, Line.read k = .body) :
    keptTexts (p.scan b (ks ++ ls)) =
      (if b.keepsBody then ks else []) ++ keptTexts (p.scan b ls) := by
  induction ks with
  | nil => simp
  | cons k ks ih =>
    have hk := h k List.mem_cons_self
    rw [List.cons_append, keptTexts_scan_cons, hk, Policy.step,
      ih fun x hx => h x (List.mem_cons_of_mem k hx)]
    cases b.keepsBody <;> simp

/-- A pass leaves every item as it met it: outside a block. -/
theorem keptTexts_scan_item (p : Policy) (x : Item) (ls : List Text) :
    keptTexts (p.scan none (x.lines ++ ls)) =
      (if x.keptBy p then x.lines else []) ++ keptTexts (p.scan none ls) := by
  cases x with
  | header | relationship | loose =>
    rename_i h
    rw [Item.lines, List.singleton_append, keptTexts_scan_cons, h]
    rfl
  | block b =>
    rw [Item.lines, EntityBlock.lines, List.cons_append, List.append_assoc, keptTexts_scan_cons,
      b.opens, Policy.step, OpenBlock.enter, keptTexts_scan_body p _ _ b.inner,
      List.singleton_append, keptTexts_scan_cons, b.closes]
    cases hs : p.skips b.entity <;>
      simp [Policy.step, OpenBlock.leave, OpenBlock.isSkipped, OpenBlock.keepsBody, Item.keptBy, hs]

theorem keptTexts_scan_items (p : Policy) (xs : List Item) :
    keptTexts (p.scan none (xs.flatMap Item.lines)) =
      (xs.filter (·.keptBy p)).flatMap Item.lines := by
  induction xs with
  | nil => rfl
  | cons x xs ih =>
    rw [List.flatMap_cons, keptTexts_scan_item, ih]
    cases hx : x.keptBy p <;> simp [hx]

end Verdict

theorem relationshipsOf_item (x : Item) : relationshipsOf x.lines = x.relationship?.toList := by
  cases x with
  | header | relationship | loose =>
    rename_i h
    rw [Item.lines, relationshipsOf_cons, h]
    rfl
  | block b =>
    have hbody : relationshipsOf b.body = [] :=
      List.filterMap_eq_nil_iff.mpr fun l hl => by rw [b.inner l hl]; rfl
    rw [Item.lines, EntityBlock.lines, relationshipsOf_cons, relationshipsOf_append, hbody,
      relationshipsOf_cons, b.opens, b.closes]
    rfl

theorem relationshipsOf_items (xs : List Item) :
    relationshipsOf (xs.flatMap Item.lines) = xs.filterMap Item.relationship? := by
  induction xs with
  | nil => rfl
  | cons x xs ih =>
    rw [List.flatMap_cons, relationshipsOf_append, ih, relationshipsOf_item]
    cases hx : x.relationship? <;> simp [hx]

namespace Document
variable (d : Document) (s : NameSet)

theorem keptTexts_exclusionPass :
    Verdict.keptTexts (exclusionPass s d.text) =
      (d.items.filter (·.keptBy (Policy.excluding s))).flatMap Item.lines := by
  rw [exclusionPass, text, d.trimmed, Policy.keptTexts_scan_lines_ofLines _ d.oneLine,
    Verdict.keptTexts_scan_items]

theorem mem_namedIn_iff (e : Text) :
    e ∈ namedIn (Verdict.keptTexts (exclusionPass s d.text)) ↔
      ∃ r ∈ d.items.filterMap Item.relationship?, s.Spares r ∧ e ∈ r.endpoints := by
  rw [exclusionPass, text, d.trimmed, Policy.keptTexts_scan_lines_ofLines _ d.oneLine,
    mem_namedIn_keptTexts, relationshipsOf_items]

theorem keptBy_excluding_iff (x : Item) :
    x.keptBy (Policy.excluding s) = true ↔ x.Stays .exclusionOnly s d.items := by
  cases x <;> simp [Item.keptBy, Item.Stays, Policy.excluding, NameSet.Spares]

theorem keptBy_onlyNamed_iff (x : Item) :
    x.keptBy (Policy.onlyNamed (namedIn (Verdict.keptTexts (exclusionPass s d.text)))) = true ∧
        x.keptBy (Policy.excluding s) = true ↔
      x.Stays .pruneOrphans s d.items := by
  cases x with
  | header | relationship | loose =>
    simp [Item.keptBy, Item.Stays, Policy.excluding, Policy.onlyNamed, NameSet.Spares]
  | block b =>
    simp only [Item.Stays, ← d.mem_namedIn_iff s]
    simp [Item.keptBy, Policy.excluding, Policy.onlyNamed, and_comm]

/-- What the exclusion pass leaves of a document is again made of whole items. -/
theorem keptTexts_scan_kept (q : Policy) :
    Verdict.keptTexts (q.scan none (Verdict.keptTexts (exclusionPass s d.text))) =
      (d.items.filter fun x => x.keptBy q && x.keptBy (Policy.excluding s)).flatMap Item.lines := by
  rw [d.keptTexts_exclusionPass, Verdict.keptTexts_scan_items, List.filter_filter]

theorem keptTexts_run (m : Mode) :
    (Passes.run m s d.text).keptTexts =
      (d.items.filter fun x => decide (x.Stays m s d.items)).flatMap Item.lines := by
  cases m with
  | exclusionOnly =>
    refine (d.keptTexts_exclusionPass s).trans ?_
    congr 2
    funext x
    rw [Bool.eq_iff_iff, d.keptBy_excluding_iff s, decide_eq_true_eq]
  | pruneOrphans =>
    refine (d.keptTexts_scan_kept s _).trans ?_
    congr 2
    funext x
    rw [Bool.eq_iff_iff, Bool.and_eq_true, d.keptBy_onlyNamed_iff s, decide_eq_true_eq]

end Document

/-- The outcome of a document is made of the items that stay, each with all its lines. -/
theorem sieve_document (m : Mode) {s : NameSet} (hs : s.isEmpty = false) (d : Document) :
    (sieve m s d.text).text = Text.ofLines
      ((d.items.filter fun x => decide (x.Stays m s d.items)).flatMap Item.lines) := by
  rw [sieve_text m hs, d.keptTexts_run]

/-- A document in which A loses its only relationship and the one of C follows its block. -/
def lateReference : Document where
  items :=
    [.header "erDiagram" (by decide +kernel),
     .block ⟨"A", "A \x7b", [" int id"], "\x7d", by decide +kernel, by decide +kernel,
       by decide +kernel⟩,
     .loose "%% note" (by decide +kernel),
     .relationship "A ||--o\x7b B : has" ⟨some "A", some "B"⟩ (by decide +kernel),
     .block ⟨"C", "C \x7b", [" int id"], "\x7d", by decide +kernel, by decide +kernel,
       by decide +kernel⟩,
     .relationship "C o--o D : at" ⟨some "C", some "D"⟩ (by decide +kernel)]
  oneLine := by decide +kernel
  trimmed := by decide +kernel

theorem sieve_document_lateReference :
    (NameSet.ofList ["B"]).isEmpty = false ∧
      (sieve .pruneOrphans (NameSet.ofList ["B"]) lateReference.text).text =
        Text.ofLines ["erDiagram", "C \x7b", " int id", "\x7d", "C o--o D : at"] := by
  have hs : (NameSet.ofList ["B"]).isEmpty = false := by decide
  exact ⟨hs, (sieve_document .pruneOrphans hs lateReference).trans (by decide +kernel)⟩

end EntitySieve
