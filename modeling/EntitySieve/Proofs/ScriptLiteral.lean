import EntitySieve.Proofs.SettingsJson
import EntitySieve.Render.Page

/-! JSON inside a script. Shielding the end tags leaves no start of one, and the value that is read
is the one that was written. -/
namespace EntitySieve.Page
open Json

/-- A solidus gets a backslash before it where a less-than sign stands before it. -/
theorem shieldEndTags_cons (c : Char) (t : Text) :
    shieldEndTags (c :: t) =
      if c = '<' ∧ t.head? = some '/' then '<' :: '\\' :: shieldEndTags t
      else c :: shieldEndTags t := by
  by_cases h : c = '<' ∧ t.head? = some '/'
  · obtain ⟨rfl, ht⟩ := h
    obtain ⟨u, rfl⟩ := List.head?_eq_some_iff.mp ht
    simp [shieldEndTags]
  · rw [if_neg h, shieldEndTags.eq_2]
    rintro u rfl rfl
    exact h ⟨rfl, rfl⟩

theorem shieldEndTags_of_notMem {t : Text} (h : '<' ∉ t) : shieldEndTags t = t := by
  induction t with
  | nil => rfl
  | cons c t ih =>
    simp only [List.mem_cons, not_or] at h
    rw [shieldEndTags_cons, if_neg fun hc => h.1 hc.1.symm, ih h.2]

theorem head?_shieldEndTags (t : Text) : (shieldEndTags t).head? = t.head? := by
  cases t with
  | nil => rfl
  | cons c t =>
    rw [shieldEndTags_cons]
    split
    case isTrue h => simp [h.1]
    case isFalse => rfl

theorem not_endTag_shieldEndTags (t : Text) : ¬ ['<', '/'] <:+: shieldEndTags t := by
  induction t with
  | nil => simp [shieldEndTags]
  | cons c t ih =>
    rw [shieldEndTags_cons]
    split
    case isTrue => simpa [List.infix_cons_iff, List.cons_prefix_cons] using ih
    case isFalse h =>
      rw [List.infix_cons_iff, not_or]
      refine ⟨fun hpre => h ?_, ih⟩
      obtain ⟨rfl, u, hu⟩ := List.cons_prefix_cons.mp hpre
      exact ⟨rfl, by rw [← head?_shieldEndTags, ← hu]; rfl⟩

theorem shieldEndTags_append {c : Char} (hc : c ≠ '/') (s t : Text) :
    shieldEndTags (s ++ c :: t) = shieldEndTags s ++ shieldEndTags (c :: t) := by
  induction s with
  | nil => rfl
  | cons d s ih =>
    have hhead : (s ++ c :: t).head? = some '/' ↔ s.head? = some '/' := by
      cases s <;> simp [hc]
    simp only [List.cons_append, shieldEndTags_cons d, hhead, ih]
    split <;> rfl

section Body
variable {b : Text}

/-- A solidus and an escaped one are the same. -/
theorem codePoints?_escaped_solidus (h : b.head? = some '/') :
    codePoints? ('\\' :: b) = codePoints? b := by
  obtain ⟨u, rfl⟩ := List.head?_eq_some_iff.mp h
  rw [codePoints?_short (by decide), codePoints?_plain (by decide) (by decide) (by decide)]
  rfl

theorem codePoints?_shieldEndTags (h : isBody b = true) :
    codePoints? (shieldEndTags b) = codePoints? b := by
  have hb := body_of_isBody h
  clear h
  induction hb with
  | nil => rfl
  | @hex a b c d t hn _ ih =>
    have hlt := notMem_of_hexNumber? hn '<' (by decide)
    have hgroup : shieldEndTags ('\\' :: 'u' :: a :: b :: c :: d :: t) =
        '\\' :: 'u' :: a :: b :: c :: d :: shieldEndTags t := by
      simp only [List.mem_cons, List.not_mem_nil, or_false, not_or] at hlt
      simp [shieldEndTags_cons, Ne.symm, hlt]
    rw [hgroup, codePoints?_hex, codePoints?_hex, ih]
  | @short e t he _ ih =>
    have hu : e ≠ 'u' := by rintro rfl; contradiction
    have hlt : e ≠ '<' := by rintro rfl; contradiction
    have hgroup : shieldEndTags ('\\' :: e :: t) = '\\' :: e :: shieldEndTags t := by
      simp [shieldEndTags_cons, hlt]
    rw [hgroup, codePoints?_short hu, codePoints?_short hu, ih]
  | @plain c t hs hq hc _ ih =>
    rw [shieldEndTags_cons, codePoints?_plain hs hq hc, ← ih]
    split
    case isTrue htag =>
      rw [codePoints?_plain (by decide) (by decide) (by decide), htag.1,
        codePoints?_escaped_solidus (by rw [head?_shieldEndTags, htag.2])]
    case isFalse => rw [codePoints?_plain hs hq hc]

theorem isBody_shieldEndTags (h : isBody b = true) : isBody (shieldEndTags b) = true := by
  rw [isBody, codePoints?_shieldEndTags h, ← isBody, h]

theorem unescape?_shieldEndTags (h : isBody b = true) :
    unescape? (shieldEndTags b) = unescape? b := by
  rw [unescape?, codePoints?_shieldEndTags h, ← unescape?]

end Body

theorem scriptLiteral_ofText (t : Text) :
    scriptLiteral (.ofText t) = quoted (shieldEndTags (escape t)) := by
  have hquote : shieldEndTags ['"'] = ['"'] := rfl
  rw [scriptLiteral, ofText, compact, write, quoted, quoted, shieldEndTags_cons, if_neg (by simp),
    shieldEndTags_append (by decide), hquote]

theorem not_endTag_scriptLiteral (v : Json) : ¬ ['<', '/'] <:+: scriptLiteral v :=
  not_endTag_shieldEndTags v.compact

theorem scriptLiteral_settings (s : Settings) : scriptLiteral s.toJson = s.text :=
  shieldEndTags_of_notMem fun h => (Settings.ne_of_mem_text h).1 rfl

/-- The text of a string value. -/
def stringText? : Json → Option Text
  | .string body => unescape? body
  | _ => none

theorem spells_scriptLiteral_ofText (t : Text) :
    Spells (.string (shieldEndTags (escape t))) (scriptLiteral (.ofText t)) := by
  rw [scriptLiteral_ofText]
  exact .string (isBody_shieldEndTags (isBody_escape t))

theorem stringText?_shieldEndTags_escape (t : Text) :
    stringText? (.string (shieldEndTags (escape t))) = some t := by
  rw [stringText?, unescape?_shieldEndTags (isBody_escape t), unescape?_escape]

theorem spells_scriptLiteral_settings (s : Settings) :
    Spells s.toJson (scriptLiteral s.toJson) := by
  rw [scriptLiteral_settings]
  exact spells_write spaced_compact 0 s.wellFormed_toJson

end EntitySieve.Page
