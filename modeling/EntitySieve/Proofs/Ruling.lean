import EntitySieve.Proofs.Scan

/-! Block structure by position. The line that rules a position is the nearest earlier one that
opens or closes a block, and a pass over any choice of the lines is in the block that it opens. -/
namespace EntitySieve

/-- Whether a line opens or closes a block. -/
def Line.isBoundary : Line → Bool
  | .opening _ | .closing => true
  | _ => false

def boundaryAt (ls : List Line) (i : Nat) : Bool := ls[i]?.any Line.isBoundary

/-- The nearest position before a position at which a chosen line opens or closes a block. -/
def ruling? (ls : List Line) (chosen : Nat → Bool) : Nat → Option Nat
  | 0 => none
  | i + 1 => if chosen i && boundaryAt ls i then some i else ruling? ls chosen i

/-- The entity that the ruling line opens a block of, if there is a ruling line and it does. -/
def owner? (ls : List Line) (chosen : Nat → Bool) (i : Nat) : Option Text :=
  (ruling? ls chosen i).bind fun j => ls[j]?.bind Line.entity?

/-- Every position, as a choice. -/
def everywhere : Nat → Bool := fun _ => true

/-- The lines at the chosen positions before a position, in order. -/
def linesAt {α : Type} (chosen : Nat → Bool) (ls : List α) (i : Nat) : List α :=
  ((List.range i).filter chosen).filterMap (ls[·]?)

section Ruling
variable {ls : List Line} {chosen : Nat → Bool} {i j : Nat} {l : Line} {e : Text}

theorem lt_length_of_boundaryAt (h : boundaryAt ls i = true) : i < ls.length := by
  obtain ⟨l, hl, -⟩ := (Option.any_eq_true _ _).mp h
  exact (List.getElem?_eq_some_iff.mp hl).1

theorem boundaryAt_of_eq_some (h : ls[i]? = some l) : boundaryAt ls i = l.isBoundary := by
  simp [boundaryAt, h]

theorem ruling?_eq_some_iff :
    ruling? ls chosen i = some j ↔
      j < i ∧ chosen j = true ∧ boundaryAt ls j = true ∧
        ∀ k, j < k → k < i → chosen k = true → boundaryAt ls k = false := by
  induction i with
  | zero => simp [ruling?]
  | succ i ih =>
    rw [ruling?]
    split
    · rename_i h
      obtain ⟨hc, hb⟩ := Bool.and_eq_true_iff.mp h
      constructor
      · intro hij
        obtain rfl := Option.some.inj hij
        exact ⟨Nat.lt_succ_self _, hc, hb, fun k hk hki => by omega⟩
      · rintro ⟨hj, -, -, hlast⟩
        by_cases hji : j = i
        · rw [hji]
        · have := hlast i (by omega) (Nat.lt_succ_self i) hc
          simp [this] at hb
    · rename_i h
      rw [ih]
      constructor
      · rintro ⟨hj, hcj, hbj, hlast⟩
        refine ⟨by omega, hcj, hbj, fun k hjk hki hck => ?_⟩
        by_cases hk : k = i
        · subst k
          simpa [hck] using h
        · exact hlast k hjk (by omega) hck
      · rintro ⟨hj, hcj, hbj, hlast⟩
        have hji : j ≠ i := by
          rintro rfl
          exact h (by simp [hcj, hbj])
        exact ⟨by omega, hcj, hbj, fun k hjk hki => hlast k hjk (by omega)⟩

theorem ruling?_eq_none_iff :
    ruling? ls chosen i = none ↔ ∀ k, k < i → chosen k = true → boundaryAt ls k = false := by
  constructor
  · intro h k hk hc
    induction i with
    | zero => omega
    | succ i ih =>
      rw [ruling?] at h
      split at h
      · contradiction
      · rename_i hi
        by_cases hki : k = i
        · subst k
          simpa [hc] using hi
        · exact ih h (by omega)
  · intro h
    cases hr : ruling? ls chosen i with
    | none => rfl
    | some j =>
      obtain ⟨hj, hc, hb, -⟩ := ruling?_eq_some_iff.mp hr
      simp [h j hj hc] at hb

theorem owner?_eq_some_iff :
    owner? ls chosen i = some e ↔
      ∃ j, ruling? ls chosen i = some j ∧ ls[j]? = some (.opening e) := by
  rw [owner?, Option.bind_eq_some_iff]
  refine exists_congr fun j => and_congr_right fun _ => ?_
  simp only [Option.bind_eq_some_iff, Line.entity?_eq_some_iff, exists_eq_right]

/-- Leaving lines out does not change what rules a position as long as its ruling line stays. -/
theorem ruling?_of_everywhere (h : ruling? ls everywhere i = some j) (hc : chosen j = true) :
    ruling? ls chosen i = some j := by
  obtain ⟨hj, -, hb, hlast⟩ := ruling?_eq_some_iff.mp h
  exact ruling?_eq_some_iff.mpr ⟨hj, hc, hb, fun k hjk hki _ => hlast k hjk hki rfl⟩

/-- After a boundary that is not the last one comes a next one. -/
theorem exists_ruling?_eq_some {x : Nat} (hj : boundaryAt ls j = true) (hx : boundaryAt ls x = true)
    (h : j < x) : ∃ k, boundaryAt ls k = true ∧ ruling? ls everywhere k = some j := by
  induction x using Nat.strongRecOn with
  | ind x ih =>
    cases hr : ruling? ls everywhere x with
    | none => simp [ruling?_eq_none_iff.mp hr j h rfl] at hj
    | some y =>
      obtain ⟨hyx, -, hy, hlast⟩ := ruling?_eq_some_iff.mp hr
      by_cases hjy : j = y
      · exact ⟨x, hx, hjy ▸ hr⟩
      by_cases hyj : y < j
      · simp [hlast j hyj h rfl] at hj
      · exact ih y hyx hy (by omega)

/-- If no block is open at the end, every opening line has a next boundary. -/
theorem exists_ruling?_of_owner?_eq_none (hl : ls[j]? = some (.opening e))
    (hout : owner? ls everywhere ls.length = none) :
    ∃ k, boundaryAt ls k = true ∧ ruling? ls everywhere k = some j := by
  obtain ⟨hj, -⟩ := List.getElem?_eq_some_iff.mp hl
  have hb : boundaryAt ls j = true := by rw [boundaryAt_of_eq_some hl]; rfl
  cases hx : ruling? ls everywhere ls.length with
  | none => simp [ruling?_eq_none_iff.mp hx j hj rfl] at hb
  | some x =>
    obtain ⟨-, -, hbx, hafter⟩ := ruling?_eq_some_iff.mp hx
    by_cases hjx : j = x
    · subst x
      rw [owner?_eq_some_iff.mpr ⟨j, hx, hl⟩] at hout
      contradiction
    by_cases hxj : x < j
    · simp [hafter j hxj hj rfl] at hb
    · exact exists_ruling?_eq_some hb hbx (by omega)

/-- One line further, a chosen line acts on the owner as it acts on the open block. -/
theorem owner?_succ (h : ls[i]? = some l) :
    owner? ls chosen (i + 1) =
      if chosen i then l.ownerAfter (owner? ls chosen i) else owner? ls chosen i := by
  unfold owner?
  rw [ruling?, boundaryAt_of_eq_some h]
  cases chosen i with
  | false => simp
  | true => cases l <;> simp [Line.isBoundary, Line.ownerAfter, Line.entity?, h]

end Ruling

section LinesAt
variable {α : Type} (chosen : Nat → Bool) (ls : List α)

@[simp] theorem linesAt_zero : linesAt chosen ls 0 = [] := rfl

theorem linesAt_succ (i : Nat) :
    linesAt chosen ls (i + 1) =
      linesAt chosen ls i ++ if chosen i then ls[i]?.toList else [] := by
  unfold linesAt
  rw [List.range_succ, List.filter_append, List.filterMap_append]
  congr 1
  cases h : chosen i <;> cases hl : ls[i]? <;> simp [h, hl]

theorem linesAt_everywhere (i : Nat) : linesAt everywhere ls i = ls.take i := by
  induction i with
  | zero => simp
  | succ i ih => rw [linesAt_succ, ih, List.take_add_one]; rfl

end LinesAt

/-- A pass over a choice of lines is in the block of the owner that the choice gives. -/
theorem Policy.after_linesAt (p : Policy) (ls : List Text) (chosen : Nat → Bool) {i : Nat}
    (hi : i ≤ ls.length) :
    p.after none (linesAt chosen ls i) =
      (owner? (ls.map Line.read) chosen i).map p.blockOf := by
  induction i with
  | zero => rfl
  | succ i ih =>
    obtain ⟨l, hl⟩ : ∃ l, ls[i]? = some l := ⟨ls[i], List.getElem?_eq_getElem (by omega)⟩
    have hr : (ls.map Line.read)[i]? = some (Line.read l) := by simp [hl]
    rw [linesAt_succ, after_append, ih (by omega), owner?_succ hr]
    split
    · simp [hl, after, step_owner]
    · rfl

theorem Policy.after_linesAt_eq_none_iff (p : Policy) (ls : List Text) (chosen : Nat → Bool) :
    p.after none (linesAt chosen ls ls.length) = none ↔
      owner? (ls.map Line.read) chosen ls.length = none := by
  rw [p.after_linesAt ls chosen (Nat.le_refl _), Option.map_eq_none_iff]

/-- After the lines before a place, a pass is in the block of the place's owner. -/
theorem Policy.after_eq_owner? (p : Policy) (ls : List Text) :
    p.after none ls = (owner? (ls.map Line.read) everywhere ls.length).map p.blockOf := by
  have h := p.after_linesAt ls everywhere (Nat.le_refl _)
  rwa [linesAt_everywhere, List.take_length] at h

/-- Whether the lines end in a block is the same for every policy. -/
theorem Policy.after_eq_none_of {p q : Policy} {ls : List Text} (h : p.after none ls = none) :
    q.after none ls = none := by
  rw [after_eq_owner?, Option.map_eq_none_iff] at h ⊢
  exact h

end EntitySieve
