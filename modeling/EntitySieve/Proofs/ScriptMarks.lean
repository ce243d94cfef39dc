import Mathlib.Tactic.SplitIfs
import EntitySieve.Proofs.Occurrence

/-! What a reader of markup acts on inside a script, other than its end: a comment may start there,
and a script tag inside such a comment makes the next end tag of a script end that tag's script
only. -/
namespace EntitySieve.Script

inductive Mark where
  | commentStart
  | commentEnd
  | scriptTag
  deriving DecidableEq

def commentOpening : Text := "<!--"

def commentEnding : Text := "-->"

/-- Whether a script tag stands at the start of the text; one of the characters `p` ends its
name. -/
def isScriptTag (p : Char → Bool) : Text → Bool
  | '<' :: t => (t.take 6).map Char.toLower == ("script" : Text) && (t.drop 6).head?.any p
  | _ => false

def markAt? (p : Char → Bool) (t : Text) : Option Mark :=
  if commentOpening <+: t then some .commentStart
  else if commentEnding <+: t then some .commentEnd
  else if isScriptTag p t then some .scriptTag
  else none

/-- The marks in the order of their places. -/
def marks (p : Char → Bool) : Text → List Mark
  | [] => []
  | c :: t => (markAt? p (c :: t)).toList ++ marks p t

/-- Whether a script tag comes before a comment end. -/
def reaches : List Mark → Bool
  | .commentStart :: ms => reaches ms
  | .scriptTag :: _ => true
  | _ => false

/-- Whether a script tag comes after a comment start with no comment end between them. -/
def traps : List Mark → Bool
  | [] => false
  | .commentStart :: ms => reaches ms || traps ms
  | _ :: ms => traps ms

/-- A comment start stands at some place and a script tag at a later one, and at no place between
them a comment end; an end may share its hyphens with the start. -/
def Traps (p : Char → Bool) (t : Text) : Prop :=
  ∃ i k, i < k ∧ commentOpening <+: t.drop i ∧ isScriptTag p (t.drop k) = true ∧
    ∀ j, i < j → j < k → ¬ commentEnding <+: t.drop j

/-- A script tag stands at some place, and at no place before it a comment end. -/
def Reaches (p : Char → Bool) (t : Text) : Prop :=
  ∃ k, isScriptTag p (t.drop k) = true ∧ ∀ j < k, ¬ commentEnding <+: t.drop j

variable {p : Char → Bool} {c : Char} {t : Text}

section Words

/-- A script tag is one of many words. -/
theorem isScriptTag_iff : isScriptTag p t = true ↔
    ∃ (n : Text) (d : Char), n.map Char.toLower = ("script" : Text) ∧ p d = true ∧
      '<' :: (n ++ [d]) <+: t := by
  constructor
  · intro h
    unfold isScriptTag at h
    split at h
    case h_1 t =>
      simp only [Bool.and_eq_true, beq_iff_eq] at h
      cases hrest : t.drop 6 with
      | nil => simp [hrest] at h
      | cons d u =>
        refine ⟨t.take 6, d, h.1, by simpa [hrest] using h.2, u, ?_⟩
        simp [← hrest]
    case h_2 => contradiction
  · rintro ⟨n, d, hname, hp, u, rfl⟩
    have hlength : n.length = 6 := by simpa using congrArg List.length hname
    simp [isScriptTag, hlength, hname, hp]

theorem isAlpha_of_toLower {n : Text} (hn : n.map Char.toLower = ("script" : Text)) :
    ∀ c ∈ n, c.isAlpha = true := by
  intro c hc
  have hlower : c.toLower ∈ ("script" : Text) := hn ▸ List.mem_map_of_mem hc
  by_cases hupper : c.isUpper = true
  · exact Bool.or_eq_true_iff.mpr (.inl hupper)
  · have hsame : c.toLower = c := dif_neg fun h => hupper (decide_eq_true h)
    have hletters : ∀ d ∈ ("script" : Text), d.isAlpha = true := List.all_eq_true.mp (by decide)
    exact hletters c (hsame ▸ hlower)

end Words

section MarkAt

theorem markAt?_of_ne (hlt : c ≠ '<') (hdash : c ≠ '-') (t : Text) : markAt? p (c :: t) = none := by
  have htag : isScriptTag p (c :: t) = false := by
    unfold isScriptTag
    split
    case h_1 h => exact absurd (List.cons.inj h).1 hlt
    case h_2 => rfl
  simp [markAt?, commentOpening, commentEnding, List.cons_prefix_cons, htag, hlt.symm, hdash.symm]

theorem markAt?_eq_commentStart_iff :
    markAt? p t = some .commentStart ↔ commentOpening <+: t := by
  unfold markAt?
  split_ifs <;> simp [*]

theorem markAt?_eq_commentEnd_iff : markAt? p t = some .commentEnd ↔ commentEnding <+: t := by
  unfold markAt?
  split_ifs with hstart
  · obtain ⟨u, rfl⟩ := hstart
    simp [commentOpening, commentEnding]
  all_goals simp [*]

theorem markAt?_eq_scriptTag_iff : markAt? p t = some .scriptTag ↔ isScriptTag p t = true := by
  unfold markAt?
  split_ifs with hstart hend
  · obtain ⟨u, rfl⟩ := hstart
    simp [commentOpening, isScriptTag]
  · obtain ⟨u, rfl⟩ := hend
    simp [commentEnding, isScriptTag]
  all_goals simp [*]

end MarkAt

section Places

theorem reaches_cons : Reaches p (c :: t) ↔
    markAt? p (c :: t) = some .scriptTag ∨
      markAt? p (c :: t) ≠ some .commentEnd ∧ Reaches p t := by
  rw [markAt?_eq_scriptTag_iff, Ne, markAt?_eq_commentEnd_iff]
  constructor
  · rintro ⟨k, htag, hend⟩
    cases k with
    | zero => exact .inl htag
    | succ k => exact .inr ⟨hend 0 (by omega), k, htag, fun j hj => hend (j + 1) (by omega)⟩
  · rintro (htag | ⟨hend, k, htag, hbefore⟩)
    · exact ⟨0, htag, fun j hj => absurd hj (by omega)⟩
    · refine ⟨k + 1, htag, fun j hj => ?_⟩
      cases j with
      | zero => exact hend
      | succ j => exact hbefore j (by omega)

theorem traps_cons : Traps p (c :: t) ↔
    markAt? p (c :: t) = some .commentStart ∧ Reaches p t ∨ Traps p t := by
  rw [markAt?_eq_commentStart_iff]
  constructor
  · rintro ⟨i, k, hik, hstart, htag, hend⟩
    obtain ⟨k, rfl⟩ : ∃ k', k = k' + 1 := ⟨k - 1, by omega⟩
    cases i with
    | zero => exact .inl ⟨hstart, k, htag, fun j hj => hend (j + 1) (by omega) (by omega)⟩
    | succ i =>
      exact .inr ⟨i, k, by omega, hstart, htag, fun j hi hk =>
        hend (j + 1) (by omega) (by omega)⟩
  · rintro (⟨hstart, k, htag, hbefore⟩ | ⟨i, k, hik, hstart, htag, hend⟩)
    · refine ⟨0, k + 1, by omega, hstart, htag, fun j hi hk => ?_⟩
      obtain ⟨j, rfl⟩ : ∃ j', j = j' + 1 := ⟨j - 1, by omega⟩
      exact hbefore j (by omega)
    · refine ⟨i + 1, k + 1, by omega, hstart, htag, fun j hi hk => ?_⟩
      obtain ⟨j, rfl⟩ : ∃ j', j = j' + 1 := ⟨j - 1, by omega⟩
      exact hend j (by omega) (by omega)

/-- The order of the marks decides. -/
theorem reaches_iff : Reaches p t ↔ reaches (marks p t) = true := by
  induction t with
  | nil => simp [Reaches, isScriptTag, marks, reaches]
  | cons c t ih =>
    rw [reaches_cons, ih, marks]
    rcases markAt? p (c :: t) with _ | _ | _ | _ <;> simp [reaches]

theorem traps_iff : Traps p t ↔ traps (marks p t) = true := by
  induction t with
  | nil => simp [Traps, isScriptTag, marks, traps]
  | cons c t ih =>
    rw [traps_cons, reaches_iff, ih, marks]
    rcases markAt? p (c :: t) with _ | _ | _ | _ <;> simp [traps]

end Places

section Append

/-- A piece without less-than signs and hyphens has no marks, and ends none of those before it. -/
theorem marks_append_of_ne {s : Text} (hs : ∀ c ∈ s, c ≠ '<' ∧ c ≠ '-') (t : Text) :
    marks p (s ++ t) = marks p t := by
  induction s with
  | nil => rfl
  | cons c s ih =>
    obtain ⟨⟨hlt, hdash⟩, hs⟩ := List.forall_mem_cons.mp hs
    rw [List.cons_append, marks, markAt?_of_ne hlt hdash, ih hs]
    rfl

theorem isScriptTag_append (hp : p '"' = false) (s t : Text) :
    isScriptTag p (s ++ '"' :: t) = isScriptTag p s := by
  rw [Bool.eq_iff_iff, isScriptTag_iff, isScriptTag_iff]
  refine exists_congr fun n => exists_congr fun d => and_congr_right fun hn =>
    and_congr_right fun hd => Text.prefix_append_cons_iff ?_ s t
  have hname : '"' ∉ n := fun h => absurd (isAlpha_of_toLower hn '"' h) (by decide)
  have hend : d ≠ '"' := by
    rintro rfl
    simp [hp] at hd
  simp [hname, hend.symm]

/-- No mark goes across a quote. -/
theorem marks_append (hp : p '"' = false) (s t : Text) :
    marks p (s ++ '"' :: t) = marks p s ++ marks p t := by
  induction s with
  | nil => exact marks_append_of_ne (s := ['"']) (by simp) t
  | cons c s ih =>
    have hmark : markAt? p (c :: s ++ '"' :: t) = markAt? p (c :: s) := by
      simp only [markAt?, Text.prefix_append_cons_iff (m := commentOpening) (c := '"') (by decide),
        Text.prefix_append_cons_iff (m := commentEnding) (c := '"') (by decide), isScriptTag_append hp]
    rw [List.cons_append] at hmark ⊢
    rw [marks, marks, hmark, ih, List.append_assoc]

end Append
end EntitySieve.Script
