import Mathlib.Data.Bool.AllAny
import EntitySieve.Json.Reader

/-! Bodies of JSON strings. Escaping a text gives a body that stands for it, and every body is read
up to the quote that closes it, whatever follows. -/
namespace EntitySieve.Json

/-- No character is a surrogate. -/
theorem not_isSurrogate (c : Char) :
    isHighSurrogate c.toNat = false ∧ isLowSurrogate c.toNat = false := by
  have hvalid : c.toNat < 0xD800 ∨ 0xDFFF < c.toNat ∧ c.toNat < 0x110000 := c.valid
  simp only [isHighSurrogate, isLowSurrogate, Bool.and_eq_false_iff, decide_eq_false_iff_not]
  omega

theorem pairSurrogates?_map_toNat (t : Text) : pairSurrogates? (t.map Char.toNat) = some t := by
  induction t with
  | nil => rfl
  | cons c t ih =>
    obtain ⟨hhigh, hlow⟩ := not_isSurrogate c
    cases t with
    | nil => simp [pairSurrogates?, hhigh, hlow]
    | cons d t =>
      simp only [List.map_cons] at ih ⊢
      simp [pairSurrogates?, hhigh, hlow, ih]

section CodePoints
variable {c : Char} {t : Text}

theorem codePoints?_short (h : c ≠ 'u') :
    codePoints? ('\\' :: c :: t) =
      (shortEscape? c).bind fun d => (codePoints? t).map (d.toNat :: ·) := by
  rw [codePoints?.eq_3 c t (by simp [h])]
  cases shortEscape? c <;> cases codePoints? t <;> rfl

theorem codePoints?_hex {a b d : Char} :
    codePoints? ('\\' :: 'u' :: a :: b :: c :: d :: t) =
      (hexNumber? [a, b, c, d]).bind fun n => (codePoints? t).map (n :: ·) := by
  rw [codePoints?.eq_2]
  cases hexNumber? [a, b, c, d] <;> cases codePoints? t <;> rfl

theorem codePoints?_plain (hs : c ≠ '\\') (hq : c ≠ '"') (hc : 0x20 ≤ c.toNat) :
    codePoints? (c :: t) = (codePoints? t).map (c.toNat :: ·) := by
  rw [codePoints?.eq_4 c t (by simp [hs]) (by simp [hs]), if_neg]
  simp [hs, hq]
  omega

end CodePoints

/-- What a character is escaped as: itself, or a group that starts with a backslash. -/
theorem escapeChar_cases (c : Char) :
    (∃ e, (e, c) ∈ shortEscapes ∧ escapeChar c = ['\\', e]) ∨
      (c.toNat < 0x20 ∧ ∃ a ∈ hexDigits, ∃ b ∈ hexDigits,
        hexNumber? ['0', '0', a, b] = some c.toNat ∧ escapeChar c = ['\\', 'u', '0', '0', a, b]) ∨
      (c ≠ '\\' ∧ c ≠ '"' ∧ 0x20 ≤ c.toNat ∧ escapeChar c = [c]) := by
  have hhex : ∀ n < 0x20, hexDigits.getD (n / 16) '0' ∈ hexDigits ∧
      hexDigits.getD (n % 16) '0' ∈ hexDigits ∧ hexNumber?
        ['0', '0', hexDigits.getD (n / 16) '0', hexDigits.getD (n % 16) '0'] = some n := by decide
  unfold escapeChar
  cases hfind : shortEscapes.find? fun e => e.2 == c with
  | some e =>
    obtain rfl : e.2 = c := by simpa using List.find?_some hfind
    exact .inl ⟨e.1, List.mem_of_find?_eq_some hfind, rfl⟩
  | none =>
    have hne : ∀ e ∈ shortEscapes, e.2 ≠ c := by simpa using List.find?_eq_none.mp hfind
    by_cases hc : c.toNat < 0x20
    · obtain ⟨ha, hb, hn⟩ := hhex c.toNat hc
      exact .inr (.inl ⟨hc, _, ha, _, hb, hn, by simp [hc]⟩)
    · have hslash := hne ('\\', '\\') (by decide)
      have hquote := hne ('"', '"') (by decide)
      exact .inr (.inr ⟨hslash.symm, hquote.symm, by omega, if_neg hc⟩)

theorem shortEscape?_of_mem {e c : Char} (h : (e, c) ∈ shortEscapes) :
    e ≠ 'u' ∧ shortEscape? e = some c := by
  have hall : ∀ p ∈ shortEscapes, p.1 ≠ 'u' ∧ shortEscape? p.1 = some p.2 := by decide
  exact hall _ h

theorem codePoints?_escapeChar_append (c : Char) (t : Text) :
    codePoints? (escapeChar c ++ t) = (codePoints? t).map (c.toNat :: ·) := by
  rcases escapeChar_cases c with ⟨e, he, h⟩ | ⟨-, a, -, b, -, hhex, h⟩ | ⟨hs, hq, hc, h⟩
  · simp [h, codePoints?_short (shortEscape?_of_mem he).1, (shortEscape?_of_mem he).2]
  · simp only [h, List.cons_append, List.nil_append, codePoints?_hex, hhex, Option.bind_some]
  · simp [h, codePoints?_plain hs hq hc]

theorem codePoints?_escape (t : Text) : codePoints? (escape t) = some (t.map Char.toNat) := by
  induction t with
  | nil => rfl
  | cons c t ih => rw [escape, List.flatMap_cons, codePoints?_escapeChar_append, ← escape, ih]; rfl

@[simp] theorem unescape?_escape (t : Text) : unescape? (escape t) = some t := by
  simp [unescape?, codePoints?_escape, pairSurrogates?_map_toNat]

@[simp] theorem isBody_escape (t : Text) : isBody (escape t) = true := by
  simp [isBody, codePoints?_escape]

/-- The bodies of strings, by what stands first. -/
inductive Body : Text → Prop where
  | nil : Body []
  | hex {a b c d : Char} {t : Text} (h : (hexNumber? [a, b, c, d]).isSome = true) (ht : Body t) :
      Body ('\\' :: 'u' :: a :: b :: c :: d :: t)
  | short {e : Char} {t : Text} (he : (shortEscape? e).isSome = true) (ht : Body t) :
      Body ('\\' :: e :: t)
  | plain {c : Char} {t : Text} (hs : c ≠ '\\') (hq : c ≠ '"') (hc : 0x20 ≤ c.toNat)
      (ht : Body t) : Body (c :: t)

theorem body_of_isBody {b : Text} (h : isBody b = true) : Body b := by
  rw [isBody] at h
  induction b using codePoints?.induct with
  | case1 => exact .nil
  | case2 a b c d t ih =>
    rw [codePoints?_hex] at h
    cases hn : hexNumber? [a, b, c, d] with
    | none => simp [hn] at h
    | some n => exact .hex (Option.isSome_of_eq_some hn) (ih (by simpa [hn] using h))
  | case3 e t hu ih =>
    rw [codePoints?.eq_3 e t hu] at h
    cases he : shortEscape? e with
    | none => simp [he] at h
    | some c =>
      refine .short (Option.isSome_of_eq_some he) (ih ?_)
      cases hp : codePoints? t <;> simp_all
  | case4 c t hu he hc =>
    rw [codePoints?.eq_4 c t hu he, if_pos hc] at h
    contradiction
  | case5 c t hu he hc ih =>
    rw [codePoints?.eq_4 c t hu he, if_neg hc] at h
    simp only [not_or, Nat.not_lt] at hc
    exact .plain hc.1 hc.2.1 hc.2.2 (ih (by simpa using h))

/-- No hexadecimal digit ends a body, starts an escape in it or opens a tag. -/
theorem notMem_of_hexNumber? {a b c d : Char} (h : (hexNumber? [a, b, c, d]).isSome = true) :
    ∀ e ∈ ['\\', '"', '<'], e ∉ [a, b, c, d] := by
  have hother : ∀ e ∈ ['\\', '"', '<'], hexValue? e = none :=
    List.all_iff_forall_prop.mp (by decide)
  intro e he hmem
  simp only [hexNumber?, List.foldl_cons, List.foldl_nil] at h
  simp only [List.mem_cons, List.not_mem_nil, or_false] at hmem
  rcases hmem with rfl | rfl | rfl | rfl <;> simp [hother _ he] at h

theorem splitBody_plain {c : Char} {t : Text} (hs : c ≠ '\\') (hq : c ≠ '"') :
    splitBody (c :: t) = (splitBody t).map fun p => (c :: p.1, p.2) :=
  splitBody.eq_4 c t hq fun _ _ h => absurd h hs

/-- A body ends at the first quote that no backslash escapes. -/
theorem splitBody_append {b : Text} (h : isBody b = true) (rest : Text) :
    splitBody (b ++ '"' :: rest) = some (b, rest) := by
  have hb := body_of_isBody h
  clear h
  induction hb with
  | nil => rfl
  | hex hn _ ih =>
    have hs := notMem_of_hexNumber? hn '\\' (by decide)
    have hq := notMem_of_hexNumber? hn '"' (by decide)
    simp only [List.mem_cons, List.not_mem_nil, or_false, not_or] at hs hq
    simp [splitBody, splitBody_plain, Ne.symm, hs, hq, ih]
  | short _ _ ih => simp [splitBody, ih]
  | plain hs hq _ _ ih => simp [splitBody_plain hs hq, ih]

theorem readBody_append {b : Text} (h : isBody b = true) (rest : Text) :
    readBody (b ++ '"' :: rest) = some (b, rest) := by
  rw [readBody, splitBody_append h, Option.filter_some, if_pos h]

end EntitySieve.Json
