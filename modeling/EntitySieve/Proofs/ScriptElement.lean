import EntitySieve.Proofs.PageReading
import EntitySieve.Proofs.ScriptMarks

/-! The script of a page as a reader of markup sees it. No end tag of a script stands in it, but a
comment may be left open: shielding covers end tags only. -/
namespace EntitySieve.Page
open Json Script

/-- What may end the name of a tag. -/
def isTagBreak (c : Char) : Bool := ['\t', '\n', '\x0c', '\r', ' ', '/', '>'].contains c

/-- Those of them that a string's body holds as themselves. -/
def isBareBreak (c : Char) : Bool := [' ', '/', '>'].contains c

section Encoded

/-- The body of a string inside a script. -/
def encode (t : Text) : Text := shieldEndTags (escape t)

theorem head?_escape (t : Text) : (escape t).head? = some '/' ↔ t.head? = some '/' := by
  have hslash : escapeChar '/' = ['/'] := by decide
  cases t with
  | nil => rfl
  | cons c t =>
    rw [escape, List.flatMap_cons]
    rcases escapeChar_cases c with ⟨e, -, h⟩ | ⟨-, a, -, b, -, -, h⟩ | ⟨-, -, -, h⟩
    · have hc : c ≠ '/' := by rintro rfl; simp [hslash] at h
      simp [h, hc]
    · have hc : c ≠ '/' := by rintro rfl; simp [hslash] at h
      simp [h, hc]
    · simp [h]

/-- What a character is written as: an escape, or itself, with a backslash where an end tag would
start. -/
theorem encode_cases (c : Char) (t : Text) :
    (escapeChar c ≠ [c] ∧ ∃ s, encode (c :: t) = '\\' :: (s ++ encode t) ∧
        ∀ e ∈ s, (e ≠ '<' ∧ e ≠ '-') ∧ 0x20 ≤ e.toNat) ∨
      (escapeChar c = [c] ∧ 0x20 ≤ c.toNat ∧ encode (c :: t) =
        if c = '<' ∧ t.head? = some '/' then '<' :: '\\' :: encode t else c :: encode t) := by
  have hshort : ∀ e ∈ shortEscapes, (e.1 ≠ '<' ∧ e.1 ≠ '-') ∧ 0x20 ≤ e.1.toNat := by decide
  have hhex : ∀ a ∈ hexDigits, (a ≠ '<' ∧ a ≠ '-') ∧ 0x20 ≤ a.toNat :=
    List.all_iff_forall_prop.mp (by decide)
  rw [encode, escape, List.flatMap_cons, ← escape]
  rcases escapeChar_cases c with ⟨e, he, h⟩ | ⟨-, a, ha, b, hb, -, h⟩ | ⟨-, -, hc, h⟩
  · have hgood := hshort _ he
    refine .inl ⟨by simp [h], [e], ?_, by simpa using hgood⟩
    simp [h, shieldEndTags_cons, hgood.1, encode]
  · have hgood : ∀ e ∈ ['u', '0', '0', a, b], (e ≠ '<' ∧ e ≠ '-') ∧ 0x20 ≤ e.toNat := by
      simpa using ⟨hhex a ha, hhex b hb⟩
    refine .inl ⟨by simp [h], ['u', '0', '0', a, b], ?_, hgood⟩
    simp [h, shieldEndTags_cons, hhex a ha, hhex b hb, encode]
  · refine .inr ⟨h, hc, ?_⟩
    rw [h, List.singleton_append, shieldEndTags_cons]
    simp only [head?_escape, encode]

/-- A character is written as one that may start a mark and others that do not. -/
theorem encode_cons (c : Char) (t : Text) :
    ∃ d s, encode (c :: t) = d :: (s ++ encode t) ∧ 0x20 ≤ d.toNat ∧
      ∀ e ∈ s, (e ≠ '<' ∧ e ≠ '-') ∧ 0x20 ≤ e.toNat := by
  rcases encode_cases c t with ⟨-, s, heq, hs⟩ | ⟨-, hc, heq⟩
  · exact ⟨'\\', s, heq, by decide, hs⟩
  · split at heq
    case isTrue => exact ⟨'<', ['\\'], heq, by decide, by simp⟩
    case isFalse => exact ⟨c, [], heq, hc, by simp⟩

/-- No control character is left. -/
theorem toNat_of_mem_encode {c : Char} {t : Text} (h : c ∈ encode t) : 0x20 ≤ c.toNat := by
  induction t with
  | nil => contradiction
  | cons d t ih =>
    obtain ⟨e, s, heq, he, hs⟩ := encode_cons d t
    rw [heq, List.mem_cons, List.mem_append] at h
    rcases h with rfl | h | h
    · exact he
    · exact (hs c h).2
    · exact ih h

/-- A word that is written as itself stands at the start of a body where it stands at the start of
the text. -/
theorem prefix_encode_iff {m : Text} (hplain : ∀ c ∈ m, escapeChar c = [c])
    (hm : ¬ ['<', '/'] <:+: m) (t : Text) : m <+: encode t ↔ m <+: t := by
  induction t generalizing m with
  | nil => rfl
  | cons c t ih =>
    cases m with
    | nil => simp
    | cons d m =>
      obtain ⟨hd, hplain⟩ := List.forall_mem_cons.mp hplain
      rw [List.infix_cons_iff, not_or] at hm
      rcases encode_cases c t with ⟨hc, s, heq, -⟩ | ⟨-, -, heq⟩
      · have hslash : d ≠ '\\' := by rintro rfl; contradiction
        have hdc : d ≠ c := by rintro rfl; contradiction
        simp [heq, List.cons_prefix_cons, hslash, hdc]
      · rw [heq]
        split
        case isTrue htag =>
          obtain ⟨rfl, hhead⟩ := htag
          obtain ⟨u, rfl⟩ := List.head?_eq_some_iff.mp hhead
          cases m with
          | nil => simp [List.cons_prefix_cons]
          | cons e m =>
            have he : e ≠ '\\' := by
              rintro rfl
              exact absurd (hplain _ List.mem_cons_self) (by decide)
            have htag : ¬ (d = '<' ∧ e = '/') := by
              rintro ⟨rfl, rfl⟩
              exact hm.1 (by simp [List.cons_prefix_cons])
            simp only [List.cons_prefix_cons]
            exact ⟨fun h => absurd h.2.1 he, fun h => absurd ⟨h.1, h.2.1⟩ htag⟩
        case isFalse => rw [List.cons_prefix_cons, List.cons_prefix_cons, ih hplain hm.2]

/-- The letters of a tag's name are written as themselves. -/
theorem escapeChar_of_isAlpha {c : Char} (h : c.isAlpha = true) : escapeChar c = [c] := by
  rcases escapeChar_cases c with ⟨e, he, -⟩ | ⟨hc, -⟩ | ⟨-, -, -, h⟩
  · have hnone : ∀ p ∈ shortEscapes, p.2.isAlpha = false := by decide
    simp [hnone _ he] at h
  · have hnone : ∀ n < 0x20, (Char.ofNat n).isAlpha = false := by decide
    have hc := hnone _ hc
    rw [Char.ofNat_toNat, h] at hc
    contradiction
  · exact h

theorem of_isBareBreak {d : Char} (h : isBareBreak d = true) :
    isTagBreak d = true ∧ escapeChar d = [d] ∧ d ≠ '<' := by
  have hall : ∀ d ∈ [' ', '/', '>'], isTagBreak d = true ∧ escapeChar d = [d] ∧ d ≠ '<' :=
    List.all_iff_forall_prop.mp (by decide)
  exact hall d (by simpa [isBareBreak] using h)

/-- The other characters that end a name are control characters. -/
theorem isBareBreak_of_isTagBreak {d : Char} (h : isTagBreak d = true) (hd : 0x20 ≤ d.toNat) :
    isBareBreak d = true := by
  have hall : ∀ d ∈ ['\t', '\n', '\x0c', '\r', ' ', '/', '>'],
      0x20 ≤ d.toNat → isBareBreak d = true := List.all_iff_forall_prop.mp (by decide)
  exact hall d (by simpa [isTagBreak] using h) hd

theorem prefix_encode_tag_iff {n : Text} {d : Char} (hn : n.map Char.toLower = ("script" : Text))
    (hd : isBareBreak d = true) (t : Text) :
    '<' :: (n ++ [d]) <+: encode t ↔ '<' :: (n ++ [d]) <+: t := by
  obtain ⟨-, hplain, hlt⟩ := of_isBareBreak hd
  have hletter := isAlpha_of_toLower hn
  refine prefix_encode_iff ?_ ?_ t
  · have hopen : escapeChar '<' = ['<'] := by decide
    simpa [or_imp, forall_and, hopen, hplain] using fun c hc => escapeChar_of_isAlpha (hletter c hc)
  · rw [List.infix_cons_iff]
    rintro (hpre | hinfix)
    · cases n with
      | nil => contradiction
      | cons a n =>
        obtain rfl : '/' = a := by simpa [List.cons_prefix_cons] using hpre
        exact absurd (hletter '/' List.mem_cons_self) (by decide)
    · have hmem : '<' ∈ n ++ [d] := hinfix.subset List.mem_cons_self
      rcases List.mem_append.mp hmem with hmem | hmem
      · exact absurd (hletter '<' hmem) (by decide)
      · exact hlt.symm (List.mem_singleton.mp hmem)

theorem isScriptTag_encode (t : Text) :
    isScriptTag isTagBreak (encode t) = isScriptTag isBareBreak t := by
  rw [Bool.eq_iff_iff, isScriptTag_iff, isScriptTag_iff]
  constructor
  · rintro ⟨n, d, hn, hd, hpre⟩
    have hmem : d ∈ encode t := hpre.subset (by simp)
    have hd := isBareBreak_of_isTagBreak hd (toNat_of_mem_encode hmem)
    exact ⟨n, d, hn, hd, (prefix_encode_tag_iff hn hd t).mp hpre⟩
  · rintro ⟨n, d, hn, hd, hpre⟩
    exact ⟨n, d, hn, (of_isBareBreak hd).1, (prefix_encode_tag_iff hn hd t).mpr hpre⟩

theorem markAt?_encode (t : Text) : markAt? isTagBreak (encode t) = markAt? isBareBreak t := by
  have hopening : commentOpening <+: encode t ↔ commentOpening <+: t :=
    prefix_encode_iff (List.all_iff_forall_prop.mp (by decide)) (by decide) t
  have hending : commentEnding <+: encode t ↔ commentEnding <+: t :=
    prefix_encode_iff (List.all_iff_forall_prop.mp (by decide)) (by decide) t
  simp only [markAt?, hopening, hending, isScriptTag_encode]

theorem marks_encode (t : Text) : marks isTagBreak (encode t) = marks isBareBreak t := by
  induction t with
  | nil => rfl
  | cons c t ih =>
    have hmark := markAt?_encode (c :: t)
    obtain ⟨d, s, heq, -, hs⟩ := encode_cons c t
    rw [heq] at hmark ⊢
    rw [marks, hmark, marks_append_of_ne (fun e he => (hs e he).1), ih, marks]

end Encoded

/-- The template around the tag that starts the script: after the title, and before the values. -/
def aroundStart : Text × Text :=
  (Text.cut? "<script type=\"module\">" beforeModule).getD ([], [])

/-- The template around the tag that ends the script, after the values. -/
def aroundEnd : Text × Text := (Text.cut? "</script>" ending).getD ([], [])

/-- The text between the tags of the script. -/
def Contents.script (c : Contents) : Text := aroundStart.2 ++ (c.values ++ aroundEnd.1)

/-- The template has both tags, and its own part of the script has no mark. -/
theorem template_script :
    Text.cut? "<script type=\"module\">" beforeModule = some (aroundStart.1, aroundStart.2) ∧
      Text.cut? "</script>" ending = some (aroundEnd.1, aroundEnd.2) ∧
        ([aroundStart.2, beforeSettings, beforeDiagram, aroundEnd.1].all fun t =>
          t.all fun c => c ≠ '<' ∧ c ≠ '-') = true := by
  decide +kernel

namespace Contents

theorem page_eq_around_script (c : Contents) :
    c.page = c.upToTitle ++ (aroundStart.1 ++ ("<script type=\"module\">" ++
      (c.script ++ ("</script>" ++ aroundEnd.2)))) := by
  obtain ⟨hstart, hend, -⟩ := template_script
  have hmodule := Text.eq_of_cut? hstart
  have hending := Text.eq_of_cut? hend
  rw [page_eq, hmodule, hending]
  simp only [upToTitle, script, List.append_assoc]

theorem not_endTag_script (c : Contents) : ¬ ['<', '/'] <:+: c.script := by
  obtain ⟨-, -, htemplate⟩ := template_script
  simp only [List.all_eq_true, decide_eq_true_eq] at htemplate
  have hstart : '<' ∉ aroundStart.2 := fun h => (htemplate _ (by simp) '<' h).1 rfl
  have hend : '<' ∉ aroundEnd.1 := fun h => (htemplate _ (by simp) '<' h).1 rfl
  rw [← Text.positions_eq_nil_iff (by simp), script, Text.positions_append_of_notMem rfl hstart,
    Text.positions_append_of_getLast c.getLast?_values (by decide),
    (Text.positions_eq_nil_iff (by simp)).mpr c.not_endTag_values,
    (Text.positions_eq_nil_iff (by simp)).mpr fun h => hend (h.subset List.mem_cons_self)]
  rfl

/-- The marks of the script are those of the two texts in it. -/
theorem marks_script (c : Contents) :
    marks isTagBreak c.script = marks isBareBreak (c.url ++ '"' :: c.diagram) := by
  obtain ⟨-, -, htemplate⟩ := template_script
  simp only [List.all_eq_true, decide_eq_true_eq, List.forall_mem_cons] at htemplate
  obtain ⟨hstart, hbeforeSettings, hbeforeDiagram, hend, -⟩ := htemplate
  have hquote : isTagBreak '"' = false ∧ isBareBreak '"' = false := by decide
  have hliteral (t u : Text) : marks isTagBreak (scriptLiteral (.ofText t) ++ u) =
      marks isBareBreak t ++ marks isTagBreak u := by
    have hshape : scriptLiteral (.ofText t) ++ u = ['"'] ++ (encode t ++ '"' :: u) := by
      rw [scriptLiteral_ofText, quoted, encode, List.cons_append, List.append_assoc]
      rfl
    rw [hshape, marks_append_of_ne (by simp), marks_append hquote.1, marks_encode]
  have hsettings : ∀ e ∈ scriptLiteral c.settings.toJson, e ≠ '<' ∧ e ≠ '-' := by
    rw [scriptLiteral_settings]
    exact fun e => Settings.ne_of_mem_text
  have htail : marks isTagBreak aroundEnd.1 = [] := by
    rw [← List.append_nil aroundEnd.1, marks_append_of_ne hend]
    rfl
  rw [script, values, marks_append_of_ne hstart]
  simp only [List.append_assoc]
  rw [hliteral, marks_append_of_ne hbeforeSettings, marks_append_of_ne hsettings,
    marks_append_of_ne hbeforeDiagram, hliteral, htail, List.append_nil, marks_append hquote.2]

end Contents

/-- Whatever a page is made of, no end tag of a script stands inside its script. A script tag after
an open comment does exactly if one does in the address and the diagram, in a row, with the name
ended by a character that is written as itself. -/
theorem script_trapped_iff (c : Contents) :
    c.page = c.upToTitle ++ (aroundStart.1 ++ ("<script type=\"module\">" ++
        (c.script ++ ("</script>" ++ aroundEnd.2)))) ∧
      (∀ n : Text, n.map Char.toLower = ("script" : Text) → ¬ '<' :: '/' :: n <:+: c.script) ∧
        (Traps isTagBreak c.script ↔ Traps isBareBreak (c.url ++ '"' :: c.diagram)) := by
  refine ⟨c.page_eq_around_script, fun n _ hinfix => ?_, ?_⟩
  · exact c.not_endTag_script ((List.prefix_append ['<', '/'] n).isInfix.trans hinfix)
  · rw [traps_iff, traps_iff, c.marks_script]

/-- So the script of a page may run past its end tag. -/
theorem script_trapped_by_diagram :
    Traps isTagBreak (Contents.script ⟨defaultTitle, moduleUrl, default, "<!--<script>"⟩) := by
  rw [traps_iff, Contents.marks_script]
  decide

end EntitySieve.Page
