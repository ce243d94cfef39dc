import Mathlib.Data.List.DropRight
import EntitySieve.Proofs.JsonStrings

/-! The texts of JSON values, with any space between the tokens. The reader finds the value of every
such text and leaves what follows it; the writer, which puts only space between the tokens, writes
such texts. -/
namespace EntitySieve.Json

/-- Whether there is nothing but space. -/
def IsGap (t : Text) : Prop := ∀ c ∈ t, isSpace c = true

mutual

/-- The texts that spell a value. -/
inductive Spells : Json → Text → Prop where
  | null : Spells .null "null"
  | true : Spells (.bool Bool.true) "true"
  | false : Spells (.bool Bool.false) "false"
  | number {l : Text} (h : isNumber l = Bool.true) : Spells (.number l) l
  | string {b : Text} (h : isBody b = Bool.true) : Spells (.string b) (quoted b)
  | emptyArray {s : Text} (hs : IsGap s) : Spells (.array []) ('[' :: (s ++ [']']))
  | array {xs : List Json} {t : Text} (h : SpellsItems xs t) :
      Spells (.array xs) ('[' :: (t ++ [']']))
  | emptyObject {s : Text} (hs : IsGap s) : Spells (.object []) ('{' :: (s ++ ['}']))
  | object {ms : List (Text × Json)} {t : Text} (h : SpellsMembers ms t) :
      Spells (.object ms) ('{' :: (t ++ ['}']))

/-- The texts of items in a row; at least one. -/
inductive SpellsItems : List Json → Text → Prop where
  | last {x : Json} {s t s' : Text} (hs : IsGap s) (h : Spells x t) (hs' : IsGap s') :
      SpellsItems [x] (s ++ (t ++ s'))
  | more {x : Json} {xs : List Json} {s t s' u : Text} (hs : IsGap s) (h : Spells x t)
      (hs' : IsGap s') (hu : SpellsItems xs u) :
      SpellsItems (x :: xs) (s ++ (t ++ (s' ++ ',' :: u)))

/-- The texts of members in a row; at least one. -/
inductive SpellsMembers : List (Text × Json) → Text → Prop where
  | last {k : Text} {x : Json} {s s₁ s₂ t s' : Text} (hs : IsGap s) (hk : isBody k = Bool.true)
      (h₁ : IsGap s₁) (h₂ : IsGap s₂) (h : Spells x t) (hs' : IsGap s') :
      SpellsMembers [(k, x)] (s ++ (quoted k ++ (s₁ ++ ':' :: (s₂ ++ (t ++ s')))))
  | more {k : Text} {x : Json} {ms : List (Text × Json)} {s s₁ s₂ t s' u : Text} (hs : IsGap s)
      (hk : isBody k = Bool.true) (h₁ : IsGap s₁) (h₂ : IsGap s₂) (h : Spells x t) (hs' : IsGap s')
      (hu : SpellsMembers ms u) :
      SpellsMembers ((k, x) :: ms)
        (s ++ (quoted k ++ (s₁ ++ ':' :: (s₂ ++ (t ++ (s' ++ ',' :: u))))))

end

section Gap
variable {s t : Text} {c : Char} {fuel : Nat}

@[simp] theorem isGap_nil : IsGap [] := fun _ h => absurd h List.not_mem_nil

theorem isGap_newline : IsGap ['\n'] := by simp [IsGap, isSpace]

theorem skipSpace_gap (hs : IsGap s) (t : Text) : skipSpace (s ++ t) = skipSpace t :=
  List.dropWhile_append_of_pos hs

theorem skipSpace_cons (hc : isSpace c = false) (t : Text) : skipSpace (c :: t) = c :: t :=
  List.dropWhile_cons_of_neg (by simp [hc])

theorem skipSpace_gap_cons (hs : IsGap s) (hc : isSpace c = false) (t : Text) :
    skipSpace (s ++ c :: t) = c :: t := by
  rw [skipSpace_gap hs, skipSpace_cons hc]

theorem skipSpace_gap_quoted (hs : IsGap s) (k t : Text) :
    skipSpace (s ++ (quoted k ++ t)) = quoted k ++ t :=
  skipSpace_gap_cons hs (by decide) _

@[simp] theorem skipSpace_skipSpace (t : Text) : skipSpace (skipSpace t) = skipSpace t :=
  List.dropWhile_idempotent isSpace t

theorem readValue_skipSpace (fuel : Nat) (t : Text) :
    readValue fuel (skipSpace t) = readValue fuel t := by
  cases fuel with
  | zero => rfl
  | succ fuel => simp only [readValue, skipSpace_skipSpace]

theorem readValue_gap (fuel : Nat) (hs : IsGap s) (t : Text) :
    readValue fuel (s ++ t) = readValue fuel t := by
  rw [← readValue_skipSpace, skipSpace_gap hs, readValue_skipSpace]

theorem readItems_skipSpace (fuel : Nat) (t : Text) :
    readItems fuel (skipSpace t) = readItems fuel t := by
  cases fuel with
  | zero => rfl
  | succ fuel => simp only [readItems, readValue_skipSpace]

theorem readMembers_skipSpace (fuel : Nat) (t : Text) :
    readMembers fuel (skipSpace t) = readMembers fuel t := by
  cases fuel with
  | zero => rfl
  | succ fuel => simp only [readMembers, skipSpace_skipSpace]

end Gap

/-- Whether a number that stands before the text ends there. -/
def EndsNumber (t : Text) : Prop := ∀ c ∈ t.head?, isNumberChar c = false

theorem isNumberChar_of_isSpace {c : Char} (h : isSpace c = true) : isNumberChar c = false := by
  simp only [isSpace, Bool.or_eq_true, beq_iff_eq] at h
  rcases h with ((rfl | rfl) | rfl) | rfl <;> decide

theorem endsNumber_of_isGap {s : Text} (hs : IsGap s) : EndsNumber s :=
  fun c hc => isNumberChar_of_isSpace (hs c (List.mem_of_mem_head? hc))

theorem endsNumber_gap {s : Text} {c : Char} (hs : IsGap s) (hc : isNumberChar c = false)
    (t : Text) : EndsNumber (s ++ c :: t) := by
  cases s with
  | nil => simpa [EndsNumber] using hc
  | cons d s =>
    have hd := isNumberChar_of_isSpace (hs d List.mem_cons_self)
    simpa [EndsNumber] using hd

theorem endsNumber_append {t : Text} {c : Char} (ht : t.head? = some c)
    (hc : isNumberChar c = false) (u : Text) : EndsNumber (t ++ u) := by
  obtain ⟨t, rfl⟩ := List.head?_eq_some_iff.mp ht
  simpa [EndsNumber] using hc

section Number
variable {t : Text}

theorem isNumberChar_of_isDigits (h : Text.isDigits t = true) : ∀ c ∈ t, isNumberChar c = true := by
  simp only [Text.isDigits, Bool.and_eq_true, List.all_eq_true] at h
  intro c hc
  simp [isNumberChar, h.2 c hc]

theorem isNumberChar_of_isExponent (h : isExponent t = true) : ∀ c ∈ t, isNumberChar c = true := by
  unfold isExponent at h
  split at h
  · simp
  · rename_i c t
    simp only [Bool.and_eq_true, Bool.or_eq_true, beq_iff_eq] at h
    obtain ⟨hc, h⟩ := h
    have hc : isNumberChar c = true := by rcases hc with rfl | rfl <;> decide
    have hsign : isNumberChar '+' = true ∧ isNumberChar '-' = true := by decide
    split at h <;> simpa [hc, hsign] using isNumberChar_of_isDigits h

theorem forall_mem_of_digits {p : Char → Bool}
    (hdigits : ∀ c ∈ t.takeWhile Char.isDigit, p c = true)
    (hrest : ∀ c ∈ t.dropWhile Char.isDigit, p c = true) : ∀ c ∈ t, p c = true := by
  intro c hc
  rw [← List.takeWhile_append_dropWhile (p := Char.isDigit) (l := t), List.mem_append] at hc
  exact hc.elim (hdigits c) (hrest c)

theorem isNumberChar_of_isFraction (h : isFraction t = true) : ∀ c ∈ t, isNumberChar c = true := by
  unfold isFraction at h
  split at h
  · rename_i t
    simp only [Bool.and_eq_true] at h
    have ht := forall_mem_of_digits (isNumberChar_of_isDigits h.1) (isNumberChar_of_isExponent h.2)
    have hpoint : isNumberChar '.' = true := by decide
    simpa [hpoint] using ht
  · exact isNumberChar_of_isExponent h

theorem isNumberChar_of_isUnsigned (h : isUnsigned t = true) : ∀ c ∈ t, isNumberChar c = true := by
  simp only [isUnsigned, Bool.and_eq_true] at h
  exact forall_mem_of_digits (isNumberChar_of_isDigits h.1.1) (isNumberChar_of_isFraction h.2)

theorem exists_cons_of_isUnsigned (h : isUnsigned t = true) :
    ∃ c u, t = c :: u ∧ c.isDigit = true := by
  simp only [isUnsigned, Text.isDigits, Bool.and_eq_true, Bool.not_eq_true',
    List.isEmpty_eq_false_iff] at h
  obtain ⟨c, u, hcu⟩ := List.exists_cons_of_ne_nil h.1.1.1
  cases t with
  | nil => contradiction
  | cons d t =>
    refine ⟨d, t, rfl, ?_⟩
    by_contra hd
    simp [hd] at hcu

/-- A number starts with a digit or a minus sign, and no other character stands in it than those
that make the reader go on. -/
theorem isNumber_cases (h : isNumber t = true) :
    (∃ c u, t = c :: u ∧ (c = '-' ∨ c.isDigit = true)) ∧ ∀ c ∈ t, isNumberChar c = true := by
  unfold isNumber at h
  split at h
  · have hsign : isNumberChar '-' = true := by decide
    exact ⟨⟨_, _, rfl, .inl rfl⟩, by simpa [hsign] using isNumberChar_of_isUnsigned h⟩
  · obtain ⟨c, u, hcu, hc⟩ := exists_cons_of_isUnsigned h
    exact ⟨⟨c, u, hcu, .inr hc⟩, isNumberChar_of_isUnsigned h⟩

end Number

/-- What a number starts with tells it from space and from all other tokens. -/
theorem not_mem_of_startsNumber {c : Char} (h : c = '-' ∨ c.isDigit = true) :
    c ∉ [' ', '\n', '\t', '\r', '"', '[', ']', '{', 'n', 't', 'f'] := by
  rcases h with rfl | h
  · decide
  · have hother : ∀ d ∈ [' ', '\n', '\t', '\r', '"', '[', ']', '{', 'n', 't', 'f'],
        d.isDigit = false := List.all_iff_forall_prop.mp (by decide)
    intro hc
    simp [hother c hc] at h

theorem readNumber_append {l rest : Text} (h : isNumber l = true) (hrest : EndsNumber rest) :
    readNumber (l ++ rest) = some (.number l, rest) := by
  have hl := (isNumber_cases h).2
  have htake : (l ++ rest).takeWhile isNumberChar = l := by
    rw [List.takeWhile_append_of_pos hl]
    cases rest with
    | nil => simp
    | cons c rest => simp [hrest c rfl]
  have hdrop : (l ++ rest).dropWhile isNumberChar = rest := by
    rw [List.dropWhile_append_of_pos hl]
    cases rest with
    | nil => rfl
    | cons c rest => simp [hrest c rfl]
  rw [readNumber, htake, hdrop, if_pos h]

section Step
variable {t u w rest : Text} {x : Json} {fuel : Nat}

theorem readValue_plain {c : Char} (fuel : Nat) (hspace : isSpace c = false) (hquote : c ≠ '"')
    (hbracket : c ≠ '[') (hbrace : c ≠ '{') :
    readValue (fuel + 1) (c :: t) = (readWord (c :: t) <|> readNumber (c :: t)) := by
  rw [readValue, skipSpace_cons hspace]
  split <;> simp_all

theorem readValue_number {l : Text} (fuel : Nat) (h : isNumber l = true)
    (hrest : EndsNumber rest) : readValue (fuel + 1) (l ++ rest) = some (.number l, rest) := by
  have hread := readNumber_append h hrest
  obtain ⟨⟨c, u, rfl, hc⟩, -⟩ := isNumber_cases h
  rw [List.cons_append] at hread ⊢
  have hother := not_mem_of_startsNumber hc
  simp only [List.mem_cons, List.not_mem_nil, or_false, not_or, @eq_comm Char c] at hother
  have hspace : isSpace c = false := by simp [isSpace, @eq_comm Char c, hother]
  have hword : readWord (c :: (u ++ rest)) = none := by simp [readWord, after?, hother]
  rw [readValue_plain fuel hspace, hword, hread] <;> simp [@eq_comm Char c, hother]

theorem readValue_string {b : Text} (fuel : Nat) (h : isBody b = true) (rest : Text) :
    readValue (fuel + 1) (quoted b ++ rest) = some (.string b, rest) := by
  have hspace : isSpace '"' = false := by decide
  simp [quoted, readValue, skipSpace_cons hspace, readBody_append h]

theorem readValue_emptyArray {s : Text} (fuel : Nat) (hs : IsGap s) (rest : Text) :
    readValue (fuel + 1) ('[' :: (s ++ ']' :: rest)) = some (.array [], rest) := by
  have hopen : isSpace '[' = false := by decide
  have hclose : isSpace ']' = false := by decide
  simp [readValue, skipSpace_cons hopen, skipSpace_gap_cons hs hclose]

theorem readValue_array {xs : List Json} (ht : ∀ u, skipSpace t ≠ ']' :: u)
    (h : readItems fuel t = some (xs, rest)) :
    readValue (fuel + 1) ('[' :: t) = some (.array xs, rest) := by
  have hopen : isSpace '[' = false := by decide
  simp only [readValue, skipSpace_cons hopen]
  rw [readItems_skipSpace, h]
  rfl

theorem readItems_last (h : readValue fuel t = some (x, u)) (hu : skipSpace u = ']' :: rest) :
    readItems (fuel + 1) t = some ([x], rest) := by
  simp [readItems, h, hu]

theorem readItems_more {xs : List Json} (h : readValue fuel t = some (x, u))
    (hu : skipSpace u = ',' :: w) (hw : readItems fuel w = some (xs, rest)) :
    readItems (fuel + 1) t = some (x :: xs, rest) := by
  simp [readItems, h, hu, hw]

theorem readValue_emptyObject {s : Text} (fuel : Nat) (hs : IsGap s) (rest : Text) :
    readValue (fuel + 1) ('{' :: (s ++ '}' :: rest)) = some (.object [], rest) := by
  have hopen : isSpace '{' = false := by decide
  have hclose : isSpace '}' = false := by decide
  simp [readValue, skipSpace_cons hopen, skipSpace_gap_cons hs hclose]

theorem readValue_object {ms : List (Text × Json)} (ht : ∀ u, skipSpace t ≠ '}' :: u)
    (h : readMembers fuel t = some (ms, rest)) :
    readValue (fuel + 1) ('{' :: t) = some (.object ms, rest) := by
  have hopen : isSpace '{' = false := by decide
  simp only [readValue, skipSpace_cons hopen]
  rw [readMembers_skipSpace, h]
  rfl

theorem readMembers_last {k : Text} (ht : skipSpace t = quoted k ++ u) (hk : isBody k = true)
    (hu : skipSpace u = ':' :: w) {v : Text} (h : readValue fuel w = some (x, v))
    (hv : skipSpace v = '}' :: rest) : readMembers (fuel + 1) t = some ([(k, x)], rest) := by
  simp [readMembers, ht, quoted, readBody_append hk, hu, after?, h, hv]

theorem readMembers_more {k : Text} {ms : List (Text × Json)} (ht : skipSpace t = quoted k ++ u)
    (hk : isBody k = true) (hu : skipSpace u = ':' :: w) {v y : Text}
    (h : readValue fuel w = some (x, v)) (hv : skipSpace v = ',' :: y)
    (hy : readMembers fuel y = some (ms, rest)) :
    readMembers (fuel + 1) t = some ((k, x) :: ms, rest) := by
  simp [readMembers, ht, quoted, readBody_append hk, hu, after?, h, hv, hy]

end Step

/-- What a value starts with is no space, and closes no array. -/
theorem Spells.exists_cons {v : Json} {t : Text} (h : Spells v t) :
    ∃ c u, t = c :: u ∧ isSpace c = Bool.false ∧ c ≠ ']' := by
  cases h with
  | null | true | false | string | emptyArray | array | emptyObject | object =>
    exact ⟨_, _, rfl, by decide, by decide⟩
  | number h =>
    obtain ⟨⟨c, u, rfl, hc⟩, -⟩ := isNumber_cases h
    have hother := not_mem_of_startsNumber hc
    simp only [List.mem_cons, List.not_mem_nil, or_false, not_or] at hother
    exact ⟨c, u, rfl, by simp [isSpace, hother], by simp [hother]⟩

theorem Spells.length_pos {v : Json} {t : Text} (h : Spells v t) : 0 < t.length := by
  obtain ⟨c, u, rfl, -⟩ := h.exists_cons
  simp

theorem SpellsItems.skipSpace_ne {xs : List Json} {t : Text} (h : SpellsItems xs t)
    (rest u : Text) : skipSpace (t ++ rest) ≠ ']' :: u := by
  cases h with
  | last hs h _ | more hs h _ _ =>
    obtain ⟨c, w, rfl, hspace, hc⟩ := h.exists_cons
    simp only [List.append_assoc, List.cons_append, skipSpace_gap_cons hs hspace]
    simp [hc]

theorem SpellsMembers.skipSpace_ne {ms : List (Text × Json)} {t : Text} (h : SpellsMembers ms t)
    (rest u : Text) : skipSpace (t ++ rest) ≠ '}' :: u := by
  cases h with
  | last hs | more hs =>
    simp only [List.append_assoc, skipSpace_gap_quoted hs]
    simp [quoted]

-- The fuel is spent on values, items and members, and each has a character of its own.
mutual

theorem Spells.readValue {v : Json} {t : Text} {fuel : Nat} {rest : Text} :
    Spells v t → 2 * t.length ≤ fuel + 1 → EndsNumber rest →
      Json.readValue (fuel + 1) (t ++ rest) = some (v, rest)
  | .null, _, _ | .true, _, _ | .false, _, _ => by
    simp [Json.readValue, readWord, after?, skipSpace, isSpace]
  | .number h, _, hrest => readValue_number fuel h hrest
  | .string h, _, _ => readValue_string fuel h rest
  | .emptyArray hs, _, _ => by simpa using readValue_emptyArray fuel hs rest
  | .array h, hfuel, _ => by
    simp only [List.length_cons, List.length_append] at hfuel
    have hitems : Json.readItems fuel (_ ++ ']' :: rest) = some (_, rest) := h.readItems (by omega)
    simpa using readValue_array (h.skipSpace_ne _) hitems
  | .emptyObject hs, _, _ => by simpa using readValue_emptyObject fuel hs rest
  | .object h, hfuel, _ => by
    simp only [List.length_cons, List.length_append] at hfuel
    have hmembers : Json.readMembers fuel (_ ++ '}' :: rest) = some (_, rest) :=
      h.readMembers (by omega)
    simpa using readValue_object (h.skipSpace_ne _) hmembers

theorem SpellsItems.readItems {xs : List Json} {t : Text} {fuel : Nat} {rest : Text} :
    SpellsItems xs t → 2 * t.length < fuel →
      Json.readItems fuel (t ++ ']' :: rest) = some (xs, rest)
  | @SpellsItems.last x s t s' hs h hs', hfuel => by
    have hpos := h.length_pos
    simp only [List.length_append] at hfuel
    obtain ⟨f, rfl⟩ : ∃ f, fuel = f + 2 := ⟨fuel - 2, by omega⟩
    have hvalue : Json.readValue (f + 1) (t ++ (s' ++ ']' :: rest)) = some (x, s' ++ ']' :: rest) :=
      h.readValue (by omega) (endsNumber_gap hs' (by decide) rest)
    simp only [List.append_assoc]
    refine readItems_last ?_ (skipSpace_gap_cons hs' (by decide) rest)
    rw [readValue_gap _ hs, hvalue]
  | @SpellsItems.more x xs s t s' u hs h hs' hu, hfuel => by
    have hpos := h.length_pos
    simp only [List.length_append, List.length_cons] at hfuel
    obtain ⟨f, rfl⟩ : ∃ f, fuel = f + 2 := ⟨fuel - 2, by omega⟩
    have hvalue : Json.readValue (f + 1) (t ++ (s' ++ ',' :: (u ++ ']' :: rest))) =
        some (x, s' ++ ',' :: (u ++ ']' :: rest)) :=
      h.readValue (by omega) (endsNumber_gap hs' (by decide) _)
    have hitems : Json.readItems (f + 1) (u ++ ']' :: rest) = some (xs, rest) :=
      hu.readItems (by omega)
    simp only [List.append_assoc, List.cons_append]
    refine readItems_more ?_ (skipSpace_gap_cons hs' (by decide) _) hitems
    rw [readValue_gap _ hs, hvalue]

theorem SpellsMembers.readMembers {ms : List (Text × Json)} {t : Text} {fuel : Nat} {rest : Text} :
    SpellsMembers ms t → 2 * t.length < fuel →
      Json.readMembers fuel (t ++ '}' :: rest) = some (ms, rest)
  | @SpellsMembers.last k x s s₁ s₂ t s' hs hk h₁ h₂ h hs', hfuel => by
    have hpos := h.length_pos
    simp only [List.length_append, List.length_cons] at hfuel
    obtain ⟨f, rfl⟩ : ∃ f, fuel = f + 2 := ⟨fuel - 2, by omega⟩
    have hvalue : Json.readValue (f + 1) (t ++ (s' ++ '}' :: rest)) = some (x, s' ++ '}' :: rest) :=
      h.readValue (by omega) (endsNumber_gap hs' (by decide) rest)
    simp only [List.append_assoc, List.cons_append]
    refine readMembers_last (skipSpace_gap_quoted hs k _) hk (skipSpace_gap_cons h₁ (by decide) _)
      ?_ (skipSpace_gap_cons hs' (by decide) rest)
    rw [readValue_gap _ h₂, hvalue]
  | @SpellsMembers.more k x ms s s₁ s₂ t s' u hs hk h₁ h₂ h hs' hu, hfuel => by
    have hpos := h.length_pos
    simp only [List.length_append, List.length_cons] at hfuel
    obtain ⟨f, rfl⟩ : ∃ f, fuel = f + 2 := ⟨fuel - 2, by omega⟩
    have hvalue : Json.readValue (f + 1) (t ++ (s' ++ ',' :: (u ++ '}' :: rest))) =
        some (x, s' ++ ',' :: (u ++ '}' :: rest)) :=
      h.readValue (by omega) (endsNumber_gap hs' (by decide) _)
    have hmembers : Json.readMembers (f + 1) (u ++ '}' :: rest) = some (ms, rest) :=
      hu.readMembers (by omega)
    simp only [List.append_assoc, List.cons_append]
    refine readMembers_more (skipSpace_gap_quoted hs k _) hk (skipSpace_gap_cons h₁ (by decide) _)
      ?_ (skipSpace_gap_cons hs' (by decide) _) hmembers
    rw [readValue_gap _ h₂, hvalue]

end

/-- The reader finds the value that a text starts with, and stops where the value ends. -/
theorem readFirst?_append {v : Json} {t rest : Text} (h : Spells v t) (hrest : EndsNumber rest) :
    readFirst? (t ++ rest) = some (v, rest) :=
  h.readValue (by simp only [List.length_append]; omega) hrest

/-- The texts of a value, with nothing but space around it. -/
def IsTextOf (v : Json) (t : Text) : Prop :=
  ∃ s u s', t = s ++ (u ++ s') ∧ IsGap s ∧ Spells v u ∧ IsGap s'

theorem IsTextOf.read? {v : Json} {t : Text} (h : IsTextOf v t) : Json.read? t = some v := by
  obtain ⟨s, u, s', rfl, hs, hu, hs'⟩ := h
  have hfirst : readFirst? (s ++ (u ++ s')) = some (v, s') := by
    rw [readFirst?, readValue_gap _ hs]
    exact hu.readValue (by simp only [List.length_append]; omega) (endsNumber_of_isGap hs')
  rw [Json.read?, hfirst]
  exact if_pos (List.all_eq_true.mpr hs')

/-- A value whose number literals are numbers and whose strings are bodies of strings. -/
inductive WellFormed : Json → Prop where
  | null : WellFormed .null
  | bool (b : Bool) : WellFormed (.bool b)
  | number {l : Text} (h : isNumber l = true) : WellFormed (.number l)
  | string {b : Text} (h : isBody b = true) : WellFormed (.string b)
  | array {xs : List Json} (h : ∀ x ∈ xs, WellFormed x) : WellFormed (.array xs)
  | object {ms : List (Text × Json)} (hk : ∀ m ∈ ms, isBody m.1 = true)
      (h : ∀ m ∈ ms, WellFormed m.2) : WellFormed (.object ms)

/-- A layout that puts only space between the tokens. -/
structure Spaced (l : JsonLayout) : Prop where
  lineBreak : ∀ depth, IsGap (l.lineBreak depth)
  colon : ∃ s, IsGap s ∧ l.colon = ':' :: s

theorem spaced_compact : Spaced .compact := ⟨fun _ => isGap_nil, [], isGap_nil, rfl⟩

theorem spaced_indented : Spaced .indented where
  lineBreak depth := by
    intro c hc
    rcases List.mem_cons.mp hc with rfl | hc
    · rfl
    · rw [List.eq_of_mem_replicate hc]
      rfl
  colon := ⟨[' '], by simp [IsGap, isSpace], rfl⟩

section Write
variable {l : JsonLayout} (hl : Spaced l) (depth : Nat)
include hl

theorem spellsItems_write {x : Json} {xs : List Json} {s s' : Text} (hs : IsGap s)
    (hs' : IsGap s') (h : ∀ y ∈ x :: xs, Spells y (y.write l depth)) :
    SpellsItems (x :: xs) (s ++ (x.write l depth ++ (writeItems l depth xs ++ s'))) := by
  induction xs generalizing x s with
  | nil => simpa [writeItems] using SpellsItems.last hs (h x List.mem_cons_self) hs'
  | cons y ys ih =>
    have hrest := ih (hl.lineBreak depth) fun z hz => h z (List.mem_cons_of_mem x hz)
    have hitems := SpellsItems.more hs (h x List.mem_cons_self) isGap_nil hrest
    simpa [writeItems] using hitems

theorem spellsMembers_write {k : Text} {x : Json} {ms : List (Text × Json)} {s s' : Text}
    (hs : IsGap s) (hs' : IsGap s') (hk : ∀ m ∈ (k, x) :: ms, isBody m.1 = true)
    (h : ∀ m ∈ (k, x) :: ms, Spells m.2 (m.2.write l depth)) :
    SpellsMembers ((k, x) :: ms) (s ++ (quoted k ++ (l.colon ++
      (x.write l depth ++ (writeMembers l depth ms ++ s'))))) := by
  obtain ⟨s₂, h₂, hcolon⟩ := hl.colon
  induction ms generalizing k x s with
  | nil =>
    have hmember := SpellsMembers.last hs (hk _ List.mem_cons_self) isGap_nil h₂
      (h _ List.mem_cons_self) hs'
    simpa [writeMembers, hcolon] using hmember
  | cons m ms ih =>
    obtain ⟨k', y⟩ := m
    have hrest := ih (hl.lineBreak depth) (fun z hz => hk z (List.mem_cons_of_mem _ hz))
      fun z hz => h z (List.mem_cons_of_mem _ hz)
    have hmembers := SpellsMembers.more hs (hk _ List.mem_cons_self) isGap_nil h₂
      (h _ List.mem_cons_self) isGap_nil hrest
    simpa [writeMembers, hcolon] using hmembers

/-- What the writer writes spells the value. -/
theorem spells_write {v : Json} (h : WellFormed v) : Spells v (v.write l depth) := by
  induction h generalizing depth with
  | null => exact .null
  | bool b =>
    cases b with
    | false => exact .false
    | true => exact .true
  | number h => exact .number h
  | string h => exact .string h
  | @array xs _ ih =>
    cases xs with
    | nil => exact .emptyArray isGap_nil
    | cons x xs =>
      have hitems := spellsItems_write hl (depth + 1) (hl.lineBreak (depth + 1))
        (hl.lineBreak depth) fun y hy => ih y hy (depth + 1)
      simpa [write] using Spells.array hitems
  | @object ms hk _ ih =>
    cases ms with
    | nil => exact .emptyObject isGap_nil
    | cons m ms =>
      obtain ⟨k, x⟩ := m
      have hmembers := spellsMembers_write hl (depth + 1) (hl.lineBreak (depth + 1))
        (hl.lineBreak depth) hk fun m hm => ih m hm (depth + 1)
      simpa [write] using Spells.object hmembers

/-- Space may follow what the writer writes. -/
theorem isTextOf_write {v : Json} (h : WellFormed v) {s : Text} (hs : IsGap s) :
    IsTextOf v (v.write l depth ++ s) :=
  ⟨[], v.write l depth, s, rfl, isGap_nil, spells_write hl depth h, hs⟩

end Write

theorem isTextOf_compact {v : Json} (h : WellFormed v) : IsTextOf v v.compact := by
  have ht := isTextOf_write spaced_compact 0 h isGap_nil
  rwa [List.append_nil] at ht

theorem isTextOf_indented {v : Json} (h : WellFormed v) {s : Text} (hs : IsGap s) :
    IsTextOf v (v.indented ++ s) :=
  isTextOf_write spaced_indented 0 h hs

end EntitySieve.Json
