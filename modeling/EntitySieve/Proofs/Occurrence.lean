import EntitySieve.Text.Basic

/-! Where a word stands in a text: all its places, and the cut at the first of them. Of a text put
together from pieces the places are those of the pieces, when the pieces end with characters that
the word does not hold. -/
namespace EntitySieve.Text

/-- The places where the word `m` stands. -/
def positions (m : Text) : Text → List Nat
  | [] => []
  | c :: t => (if m <+: c :: t then [0] else []) ++ (positions m t).map (· + 1)

/-- The text before the first place of a word, and the text after the word. -/
def cut? (m : Text) : Text → Option (Text × Text)
  | [] => if m = [] then some ([], []) else none
  | c :: t =>
    if m <+: c :: t then some ([], (c :: t).drop m.length)
    else (cut? m t).map fun p => (c :: p.1, p.2)

variable {m s t u : Text}

theorem mem_positions {i : Nat} : i ∈ positions m t ↔ i < t.length ∧ m <+: t.drop i := by
  induction t generalizing i with
  | nil => simp [positions]
  | cons c t ih =>
    cases i with
    | zero => by_cases h : m <+: c :: t <;> simp [positions, h]
    | succ i => by_cases h : m <+: c :: t <;> simp [positions, h, ih]

section Prefix
variable {c : Char}

/-- A word does not reach past a character that it does not hold. -/
theorem prefix_append_cons_iff (hc : c ∉ m) (s t : Text) : m <+: s ++ c :: t ↔ m <+: s := by
  refine ⟨fun h => ?_, fun h => h.trans (List.prefix_append s _)⟩
  induction s generalizing m with
  | nil =>
    cases m with
    | nil => exact List.nil_prefix
    | cons d m => simp_all [List.cons_prefix_cons]
  | cons d s ih =>
    cases m with
    | nil => exact List.nil_prefix
    | cons e m =>
      simp only [List.cons_append, List.cons_prefix_cons, List.mem_cons, not_or] at h hc ⊢
      exact ⟨h.1, ih hc.2 h.2⟩

theorem infix_append_cons_iff (hc : c ∉ m) (s t : Text) :
    m <:+: s ++ c :: t ↔ m <:+: s ∨ m <:+: t := by
  induction s with
  | nil =>
    have hnil := prefix_append_cons_iff hc [] t
    rw [List.nil_append, List.prefix_nil] at hnil
    rw [List.nil_append, List.infix_cons_iff, hnil, List.infix_nil]
  | cons d s ih =>
    have hpre := prefix_append_cons_iff hc (d :: s) t
    rw [List.cons_append] at hpre
    rw [List.cons_append, List.infix_cons_iff, hpre, ih, List.infix_cons_iff, or_assoc]

theorem prefix_append_iff (hs : s.getLast? = some c) (hc : c ∉ m) (t : Text) :
    m <+: s ++ t ↔ m <+: s := by
  obtain ⟨u, rfl⟩ := List.getLast?_eq_some_iff.mp hs
  rw [List.append_assoc, List.singleton_append, prefix_append_cons_iff hc,
    prefix_append_cons_iff hc]

end Prefix

section Positions
variable {c : Char}

/-- The first piece ends with a character that the word does not hold. -/
theorem positions_append_of_getLast (hs : s.getLast? = some c) (hc : c ∉ m) (t : Text) :
    positions m (s ++ t) = positions m s ++ (positions m t).map (s.length + ·) := by
  induction s with
  | nil => contradiction
  | cons d s ih =>
    have hrest : positions m (s ++ t) = positions m s ++ (positions m t).map (s.length + ·) := by
      cases s with
      | nil => simp [positions]
      | cons e s => exact ih (by rwa [List.getLast?_cons_cons] at hs)
    have hpre := prefix_append_iff hs hc t
    rw [List.cons_append] at hpre ⊢
    simp only [positions, hpre, hrest, List.map_append, List.map_map, List.append_assoc,
      Function.comp_def, List.length_cons, Nat.add_right_comm]

/-- The first piece lacks the character that the word begins with. -/
theorem positions_append_of_notMem (hm : m.head? = some c) (hc : c ∉ s) (t : Text) :
    positions m (s ++ t) = (positions m t).map (s.length + ·) := by
  obtain ⟨m, rfl⟩ := List.head?_eq_some_iff.mp hm
  induction s with
  | nil => simp
  | cons d s ih =>
    simp only [List.mem_cons, not_or] at hc
    have hpre : ¬ c :: m <+: d :: (s ++ t) := by simp [List.cons_prefix_cons, hc.1]
    simp only [List.cons_append, positions, if_neg hpre, List.nil_append, ih hc.2, List.map_map,
      Function.comp_def, List.length_cons, Nat.add_right_comm]

theorem positions_eq_nil_iff (hm : m ≠ []) : positions m t = [] ↔ ¬ m <:+: t := by
  induction t with
  | nil => simp [positions, hm]
  | cons c t ih =>
    rw [positions, List.append_eq_nil_iff, List.map_eq_nil_iff, ih, List.infix_cons_iff, not_or]
    by_cases h : m <+: c :: t <;> simp [h]

end Positions

section Cut

theorem eq_of_cut? (h : cut? m t = some (s, u)) : t = s ++ (m ++ u) := by
  induction t generalizing s with
  | nil =>
    obtain ⟨rfl, rfl, rfl⟩ : m = [] ∧ s = [] ∧ u = [] := by simpa [cut?, eq_comm] using h
    rfl
  | cons c t ih =>
    rw [cut?] at h
    split at h
    case isTrue hm =>
      obtain ⟨v, hv⟩ := hm
      obtain ⟨rfl, rfl⟩ : s = [] ∧ u = v := by simpa [← hv, eq_comm] using h
      exact hv.symm
    case isFalse =>
      obtain ⟨p, hp, hsu⟩ := Option.map_eq_some_iff.mp h
      obtain ⟨rfl, rfl⟩ := Prod.mk.inj hsu
      rw [ih hp, List.cons_append]

/-- The first place in the first piece is the first of all. -/
theorem cut?_append_of_some (h : cut? m s = some (t, u)) (v : Text) :
    cut? m (s ++ v) = some (t, u ++ v) := by
  induction s generalizing t with
  | nil =>
    obtain ⟨rfl, rfl, rfl⟩ : m = [] ∧ t = [] ∧ u = [] := by simpa [cut?, eq_comm] using h
    cases v <;> simp [cut?]
  | cons c s ih =>
    rw [List.cons_append, cut?]
    rw [cut?] at h
    split at h
    case isTrue hm =>
      obtain ⟨w, hw⟩ := hm
      obtain ⟨rfl, rfl⟩ : t = [] ∧ u = w := by simpa [← hw, eq_comm] using h
      simp [← List.cons_append, ← hw]
    case isFalse hm =>
      obtain ⟨p, hp, htu⟩ := Option.map_eq_some_iff.mp h
      obtain ⟨rfl, rfl⟩ := Prod.mk.inj htu
      have hlength : m.length ≤ (c :: s).length := by simp [eq_of_cut? hp]; omega
      rw [if_neg, ih hp, Option.map_some]
      exact fun hpre => hm (List.prefix_of_prefix_length_le hpre (List.prefix_append (c :: s) v)
        hlength)

/-- The first piece lacks the character that the word begins with. -/
theorem cut?_append_of_notMem {c : Char} (hm : m.head? = some c) (hc : c ∉ s) (t : Text) :
    cut? m (s ++ t) = (cut? m t).map fun p => (s ++ p.1, p.2) := by
  obtain ⟨m, rfl⟩ := List.head?_eq_some_iff.mp hm
  induction s with
  | nil => simp
  | cons d s ih =>
    simp only [List.mem_cons, not_or] at hc
    rw [List.cons_append, cut?, if_neg (by simp [List.cons_prefix_cons, hc.1]), ih hc.2,
      Option.map_map]
    rfl

end Cut
end EntitySieve.Text
