import EntitySieve.Text.Order

/-! Sets of entity names. The names ascend and none repeats, so sets with the same members are
equal. -/
namespace EntitySieve

abbrev Ascending (xs : List Text) : Prop := xs.Pairwise fun x y => Text.precedes x y = true

/-- Puts a name at its place among ascending names. -/
def placeName (x : Text) : List Text → List Text
  | [] => [x]
  | y :: ys =>
    if Text.precedes x y then x :: y :: ys
    else if x = y then y :: ys
    else y :: placeName x ys

@[simp] theorem mem_placeName {x z : Text} {ys : List Text} :
    z ∈ placeName x ys ↔ z = x ∨ z ∈ ys := by
  induction ys with
  | nil => simp [placeName]
  | cons y ys ih =>
    unfold placeName
    split
    · simp
    split
    · rename_i h
      subst h
      simp
    · simp [ih, or_left_comm]

theorem placeName_ascending {x : Text} {ys : List Text} (h : Ascending ys) :
    Ascending (placeName x ys) := by
  induction ys with
  | nil => simp [placeName]
  | cons y ys ih =>
    obtain ⟨hy, hys⟩ := List.pairwise_cons.1 h
    unfold placeName
    split
    · rename_i hxy
      refine List.pairwise_cons.2 ⟨fun z hz => ?_, h⟩
      rcases List.mem_cons.1 hz with rfl | hz
      · exact hxy
      · exact Text.precedes_trans hxy (hy z hz)
    split
    · exact h
    · rename_i hxy hne
      refine List.pairwise_cons.2 ⟨fun z hz => ?_, ih hys⟩
      rcases mem_placeName.1 hz with rfl | hz
      · exact Text.precedes_of_ne hne (Bool.eq_false_iff.2 hxy)
      · exact hy z hz

theorem Ascending.ne_of_mem {x z : Text} {xs : List Text} (h : Ascending (x :: xs)) (hz : z ∈ xs) :
    z ≠ x := by
  rintro rfl
  have := (List.pairwise_cons.1 h).1 z hz
  simp [Text.precedes_irrefl] at this

theorem Ascending.eq_of_mem_iff {xs ys : List Text} (hx : Ascending xs) (hy : Ascending ys)
    (h : ∀ z, z ∈ xs ↔ z ∈ ys) : xs = ys := by
  induction xs generalizing ys with
  | nil => exact (List.eq_nil_iff_forall_not_mem.2 fun z hz => by simpa using (h z).2 hz).symm
  | cons x xs ih =>
    cases ys with
    | nil => exact absurd ((h x).1 List.mem_cons_self) List.not_mem_nil
    | cons y ys =>
      have hxy : x = y := by
        rcases List.mem_cons.1 ((h x).1 List.mem_cons_self) with e | hxs
        · exact e
        rcases List.mem_cons.1 ((h y).2 List.mem_cons_self) with e | hys
        · exact e.symm
        · have hlt := Text.precedes_trans ((List.pairwise_cons.1 hx).1 y hys)
            ((List.pairwise_cons.1 hy).1 x hxs)
          simp [Text.precedes_irrefl] at hlt
      subst hxy
      have htail : ∀ z, z ∈ xs ↔ z ∈ ys := fun z =>
        ⟨fun hz => (List.mem_cons.1 ((h z).1 (List.mem_cons_of_mem x hz))).resolve_left
            (hx.ne_of_mem hz),
          fun hz => (List.mem_cons.1 ((h z).2 (List.mem_cons_of_mem x hz))).resolve_left
            (hy.ne_of_mem hz)⟩
      rw [ih (List.pairwise_cons.1 hx).2 (List.pairwise_cons.1 hy).2 htail]

structure NameSet where
  names : List Text
  ascending : Ascending names
  deriving DecidableEq

namespace NameSet

instance : EmptyCollection NameSet := ⟨⟨[], .nil⟩⟩

instance : Membership Text NameSet := ⟨fun s x => x ∈ s.names⟩

theorem mem_names {x : Text} {s : NameSet} : x ∈ s.names ↔ x ∈ s := Iff.rfl

instance (x : Text) (s : NameSet) : Decidable (x ∈ s) :=
  decidable_of_iff (s.names.any fun y => decide (y = x)) (by rw [← mem_names]; simp)

def insert (s : NameSet) (x : Text) : NameSet :=
  ⟨placeName x s.names, placeName_ascending s.ascending⟩

/-- Inserts a name and says whether it is new. -/
def add (s : NameSet) (x : Text) : NameSet × Bool := (s.insert x, decide (x ∉ s))

def insertAll (s : NameSet) (xs : List Text) : NameSet := xs.foldl insert s

def ofList (xs : List Text) : NameSet := insertAll ∅ xs

/-- The names between the commas of a list, less the empty ones. -/
def ofCommaList (t : Text) : NameSet := ofList ((t.splitOn ',').filter fun x => !x.isEmpty)

def union (s t : NameSet) : NameSet := s.insertAll t.names

instance : Union NameSet := ⟨union⟩

def size (s : NameSet) : Nat := s.names.length

def isEmpty (s : NameSet) : Bool := s.names.isEmpty

theorem eq_of_mem_iff {s t : NameSet} (h : ∀ x, x ∈ s ↔ x ∈ t) : s = t := by
  cases s with
  | mk xs hx =>
    cases t with
    | mk ys hy => simp only [NameSet.mk.injEq]; exact hx.eq_of_mem_iff hy h

@[simp] theorem mem_empty (x : Text) : x ∈ (∅ : NameSet) ↔ False :=
  ⟨fun h => List.not_mem_nil (show x ∈ [] from h), False.elim⟩

@[simp] theorem mem_insert {s : NameSet} {x z : Text} : z ∈ s.insert x ↔ z = x ∨ z ∈ s :=
  mem_placeName

@[simp] theorem mem_insertAll {s : NameSet} {xs : List Text} {z : Text} :
    z ∈ s.insertAll xs ↔ z ∈ s ∨ z ∈ xs := by
  induction xs generalizing s with
  | nil => simp [insertAll]
  | cons x xs ih =>
    change z ∈ (s.insert x).insertAll xs ↔ _
    rw [ih, mem_insert, List.mem_cons, or_comm (a := z = x), or_assoc]

@[simp] theorem mem_ofList {xs : List Text} {z : Text} : z ∈ ofList xs ↔ z ∈ xs := by
  simp [ofList]

@[simp] theorem mem_union {s t : NameSet} {z : Text} : z ∈ s ∪ t ↔ z ∈ s ∨ z ∈ t :=
  mem_insertAll

theorem isEmpty_iff {s : NameSet} : s.isEmpty = true ↔ ∀ x, x ∉ s :=
  List.isEmpty_iff.trans List.eq_nil_iff_forall_not_mem

theorem isEmpty_union_left {s : NameSet} (h : s.isEmpty = false) (t : NameSet) :
    (s ∪ t).isEmpty = false := by
  rw [← Bool.not_eq_true, isEmpty_iff] at h ⊢
  exact fun hall => h fun x hx => hall x (mem_union.2 (Or.inl hx))

end NameSet
end EntitySieve
