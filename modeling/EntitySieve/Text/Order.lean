import EntitySieve.Text.Basic

/-! The order of texts by their code points. The UTF-8 bytes of texts are in the same order. -/
namespace EntitySieve.Text

/-- Whether a text comes before another one. -/
def precedes : Text → Text → Bool
  | _, [] => false
  | [], _ :: _ => true
  | c :: s, d :: t => decide (c.toNat < d.toNat) || (decide (c = d) && precedes s t)

theorem precedes_irrefl (s : Text) : precedes s s = false := by
  induction s with
  | nil => rfl
  | cons c s ih => simp [precedes, ih]

theorem precedes_trans {s t u : Text} (h : precedes s t = true) (k : precedes t u = true) :
    precedes s u = true := by
  induction s generalizing t u with
  | nil =>
    cases u with
    | nil => simp [precedes] at k
    | cons e u => rfl
  | cons c s ih =>
    cases t with
    | nil => simp [precedes] at h
    | cons d t =>
      cases u with
      | nil => simp [precedes] at k
      | cons e u =>
        simp only [precedes, Bool.or_eq_true, Bool.and_eq_true, decide_eq_true_eq] at h k ⊢
        rcases h with h | ⟨rfl, h⟩
        · rcases k with k | ⟨rfl, _⟩
          · exact Or.inl (Nat.lt_trans h k)
          · exact Or.inl h
        · rcases k with k | ⟨rfl, k⟩
          · exact Or.inl k
          · exact Or.inr ⟨rfl, ih h k⟩

/-- Of two different texts one comes first. -/
theorem precedes_of_ne {s t : Text} (hne : s ≠ t) (h : precedes s t = false) :
    precedes t s = true := by
  induction s generalizing t with
  | nil =>
    cases t with
    | nil => exact absurd rfl hne
    | cons d t => simp [precedes] at h
  | cons c s ih =>
    cases t with
    | nil => rfl
    | cons d t =>
      simp only [precedes, Bool.or_eq_false_iff, Bool.and_eq_false_iff,
        decide_eq_false_iff_not] at h
      obtain ⟨hlt, hst⟩ := h
      by_cases hcd : c = d
      · subst hcd
        have hst : precedes s t = false := hst.resolve_left (fun hc => hc rfl)
        simp [precedes, ih (fun e => hne (e ▸ rfl)) hst]
      · have hnat : c.toNat ≠ d.toNat := fun e => hcd (Char.ext (UInt32.toNat_inj.1 e))
        have hgt : d.toNat < c.toNat := by omega
        simp [precedes, hgt]

end EntitySieve.Text
