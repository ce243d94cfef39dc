import EntitySieve.Proofs.Occurrence
import EntitySieve.Proofs.ScriptLiteral
import EntitySieve.Render.Renderer

/-! Reading a page back. What was put into the template is found again by the fixed words around
it, so a page has one content; and the page has the end tags of the template and no other. -/
namespace EntitySieve.Page

/-- What goes into the template. -/
structure Contents where
  title : Text
  url : Text
  settings : Settings
  diagram : Text
  deriving DecidableEq

namespace Contents

def page (c : Contents) : Text := text c.title c.url c.settings c.diagram

/-- The page up to the end of the title. -/
def upToTitle (c : Contents) : Text := beforeTitle ++ escapeMarkup c.title

/-- The page from the module's address to the diagram. -/
def values (c : Contents) : Text :=
  scriptLiteral (.ofText c.url) ++ (beforeSettings ++ (scriptLiteral c.settings.toJson ++
    (beforeDiagram ++ scriptLiteral (.ofText c.diagram))))

/-- The page up to the end of the diagram. -/
def upToDiagram (c : Contents) : Text := c.upToTitle ++ beforeModule ++ c.values

theorem page_eq (c : Contents) :
    c.page = beforeTitle ++ (escapeMarkup c.title ++ (beforeModule ++ (c.values ++ ending))) := by
  simp only [page, text, values, List.append_assoc]

end Contents

/-- Undoes the escapes of markup. -/
def unescapeMarkup : Text → Text
  | '&' :: 'l' :: 't' :: ';' :: t => '<' :: unescapeMarkup t
  | '&' :: 'g' :: 't' :: ';' :: t => '>' :: unescapeMarkup t
  | '&' :: 'q' :: 'u' :: 'o' :: 't' :: ';' :: t => '"' :: unescapeMarkup t
  | '&' :: 'a' :: 'm' :: 'p' :: ';' :: t => '&' :: unescapeMarkup t
  | c :: t => c :: unescapeMarkup t
  | [] => []

/-- Goes on to the word `m`, and reads the JSON value after it. -/
def readAfter? {α : Type} (decode : Json → Option α) (m t : Text) : Option (α × Text) := do
  let (_, t) ← Text.cut? m t
  let (v, t) ← Json.readFirst? t
  return (← decode v, t)

/-- The title stands in its element, and each of the other three after a word of the script. -/
def read? (t : Text) : Option Contents := do
  let (_, t) ← Text.cut? "<title>" t
  let (title, t) ← Text.cut? "</title>" t
  let (url, t) ← readAfter? stringText? "await import(" t
  let (settings, t) ← readAfter? Settings.ofJson? "mermaid.initialize(" t
  let (diagram, _) ← readAfter? stringText? "mermaid.render(\"graphDiv\", " t
  return ⟨unescapeMarkup title, url, settings, diagram⟩

section Title

theorem unescapeMarkup_escapeMarkupChar_append (c : Char) (t : Text) :
    unescapeMarkup (escapeMarkupChar c ++ t) = c :: unescapeMarkup t := by
  unfold escapeMarkupChar
  split_ifs with hamp hlt hgt hquot
  · subst hamp; simp [unescapeMarkup]
  · subst hlt; simp [unescapeMarkup]
  · subst hgt; simp [unescapeMarkup]
  · subst hquot; simp [unescapeMarkup]
  · rw [List.singleton_append, unescapeMarkup.eq_5] <;> simp [hamp]

@[simp] theorem unescapeMarkup_escapeMarkup (t : Text) : unescapeMarkup (escapeMarkup t) = t := by
  induction t with
  | nil => rfl
  | cons c t ih =>
    rw [escapeMarkup, List.flatMap_cons, unescapeMarkup_escapeMarkupChar_append, ← escapeMarkup, ih]

theorem lt_notMem_escapeMarkup (t : Text) : '<' ∉ escapeMarkup t := by
  intro h
  obtain ⟨c, -, hc⟩ := List.mem_flatMap.mp h
  revert hc
  unfold escapeMarkupChar
  split_ifs with hamp hlt <;> simp [eq_comm, *]

end Title

/-- A literal is read where the piece before it ends with the word that is looked for. -/
theorem readAfter?_append {α : Type} {decode : Json → Option α} {m lead literal rest : Text}
    {v : Json} {a : α} (hlead : (Text.cut? m lead).map Prod.snd = some [])
    (hspells : v.Spells literal) (hrest : Json.EndsNumber rest) (hdecode : decode v = some a) :
    readAfter? decode m (lead ++ (literal ++ rest)) = some (a, rest) := by
  obtain ⟨⟨s, t⟩, hs, rfl⟩ := Option.map_eq_some_iff.mp hlead
  rw [readAfter?, Text.cut?_append_of_some hs, List.nil_append]
  simp [Json.readFirst?_append hspells hrest, hdecode]

/-- The template between the title's element and the module's address. -/
def afterTitle : Text := beforeModule.drop 8

/-- Each piece of the template has the word that its reader looks for at its end, or, after the
title, at its start, and nowhere before. -/
theorem template_words :
    (Text.cut? "<title>" beforeTitle).map Prod.snd = some [] ∧
      Text.cut? "</title>" beforeModule = some ([], afterTitle) ∧
        (Text.cut? "await import(" afterTitle).map Prod.snd = some [] ∧
          (Text.cut? "mermaid.initialize(" beforeSettings).map Prod.snd = some [] ∧
            (Text.cut? "mermaid.render(\"graphDiv\", " beforeDiagram).map Prod.snd = some [] := by
  decide +kernel

/-- Only the pieces around the script have end tags, and one of them ends a script. -/
theorem template_endTags :
    Text.contains "</" beforeTitle = false ∧ beforeTitle.getLast? = some '>' ∧
      Text.positions "</script" beforeModule = [] ∧ beforeModule.getLast? = some '(' ∧
        '<' ∉ beforeSettings ∧ '<' ∉ beforeDiagram ∧
          (Text.positions "</script" ending).length = 1 := by
  decide +kernel

theorem read?_page (c : Contents) : read? c.page = some c := by
  obtain ⟨hopen, hclose, himport, hinitialize, hrender⟩ := template_words
  obtain ⟨⟨lead, _⟩, hlead, rfl⟩ := Option.map_eq_some_iff.mp hopen
  have htitle : Text.cut? "</title>" (escapeMarkup c.title ++
      (beforeModule ++ (c.values ++ ending))) =
        some (escapeMarkup c.title, afterTitle ++ (c.values ++ ending)) := by
    rw [Text.cut?_append_of_notMem rfl (lt_notMem_escapeMarkup c.title),
      Text.cut?_append_of_some hclose, Option.map_some, List.append_nil]
  have hurl (rest : Text) := readAfter?_append himport (spells_scriptLiteral_ofText c.url)
    (Json.endsNumber_append (t := beforeSettings) rfl rfl rest)
    (stringText?_shieldEndTags_escape c.url)
  have hsettings (rest : Text) := readAfter?_append hinitialize
    (spells_scriptLiteral_settings c.settings)
    (Json.endsNumber_append (t := beforeDiagram) rfl rfl rest) (Settings.ofJson?_toJson c.settings)
  have hdiagram := readAfter?_append hrender (spells_scriptLiteral_ofText c.diagram)
    (Json.endsNumber_append (t := ending) rfl rfl []) (stringText?_shieldEndTags_escape c.diagram)
  rw [List.append_nil] at hdiagram
  rw [c.page_eq, read?, Text.cut?_append_of_some hlead, List.nil_append]
  simp only [Option.bind_eq_bind, Option.bind_some, htitle]
  simp only [Contents.values, List.append_assoc, hurl, hsettings, hdiagram, Option.bind_some,
    unescapeMarkup_escapeMarkup]
  rfl

theorem page_injective : Function.Injective Contents.page := by
  intro c d h
  have hread : some c = some d := by rw [← read?_page c, h, read?_page d]
  exact Option.some.inj hread

theorem getLast?_scriptLiteral_ofText (t : Text) :
    (scriptLiteral (.ofText t)).getLast? = some '"' := by
  rw [scriptLiteral_ofText, Json.quoted, ← List.cons_append, List.getLast?_concat]

theorem Contents.getLast?_values (c : Contents) : c.values.getLast? = some '"' := by
  simp [values, getLast?_scriptLiteral_ofText]

/-- No value holds an end tag, and none starts where two pieces meet. -/
theorem Contents.not_endTag_values (c : Contents) : ¬ ['<', '/'] <:+: c.values := by
  obtain ⟨-, -, -, -, hbeforeSettings, hbeforeDiagram, -⟩ := template_endTags
  have hnone (v : Json) : Text.positions ['<', '/'] (scriptLiteral v) = [] :=
    (Text.positions_eq_nil_iff (by simp)).mpr (not_endTag_scriptLiteral v)
  have hsettings : '<' ∉ scriptLiteral c.settings.toJson := by
    rw [scriptLiteral_settings]
    exact fun h => (Settings.ne_of_mem_text h).1 rfl
  rw [← Text.positions_eq_nil_iff (by simp), values,
    Text.positions_append_of_getLast (getLast?_scriptLiteral_ofText c.url) (by decide), hnone,
    Text.positions_append_of_notMem rfl hbeforeSettings,
    Text.positions_append_of_notMem rfl hsettings,
    Text.positions_append_of_notMem rfl hbeforeDiagram, hnone]
  rfl

/-- A word that begins like an end tag stands where the template has it, if it holds none of the
characters that the pieces of the template end with. -/
theorem positions_page {m : Text} (htag : ['<', '/'] <+: m) (hm : ∀ d ∈ ['>', '(', '"'], d ∉ m)
    (c : Contents) :
    Text.positions m c.page =
      (Text.positions m beforeModule).map (c.upToTitle.length + ·) ++
        (Text.positions m ending).map (c.upToDiagram.length + ·) := by
  obtain ⟨htitle, hgt, -, hparen, -⟩ := template_endTags
  obtain ⟨u, rfl⟩ := htag
  have hnone {t : Text} (ht : ¬ ['<', '/'] <:+: t) : Text.positions (['<', '/'] ++ u) t = [] :=
    (Text.positions_eq_nil_iff (by simp)).mpr fun h =>
      ht ((List.prefix_append ['<', '/'] u).isInfix.trans h)
  have hclosed : ¬ ['<', '/'] <:+: beforeTitle := by
    rw [← Text.contains_iff, Bool.not_eq_true]
    exact htitle
  rw [c.page_eq, Text.positions_append_of_getLast hgt (hm '>' (by decide)), hnone hclosed,
    Text.positions_append_of_notMem rfl (lt_notMem_escapeMarkup c.title),
    Text.positions_append_of_getLast hparen (hm '(' (by decide)),
    Text.positions_append_of_getLast c.getLast?_values (hm '"' (by decide)),
    hnone c.not_endTag_values]
  simp [Contents.upToDiagram, Contents.upToTitle, Function.comp_def, Nat.add_assoc]

/-- A page can be drawn from every content and has that content only; and the template's end tags
are its only ones, so that one of them ends a script. -/
theorem page_reads_back (c : Contents) :
    ((Renderer.page c.title c.url).render c.diagram c.settings).value = .ok c.page ∧
      read? c.page = some c ∧ (∀ d : Contents, d.page = c.page ↔ d = c) ∧
        Text.positions "</" c.page =
          (Text.positions "</" beforeModule).map (c.upToTitle.length + ·) ++
            (Text.positions "</" ending).map (c.upToDiagram.length + ·) ∧
          ∃ i, Text.positions "</script" c.page = [i] := by
  have hscript := positions_page (m := "</script") (by decide)
    (List.all_iff_forall_prop.mp (by decide)) c
  obtain ⟨-, -, hmodule, -, -, -, hending⟩ := template_endTags
  obtain ⟨i, hi⟩ := List.length_eq_one_iff.mp hending
  rw [hmodule, hi] at hscript
  exact ⟨rfl, read?_page c, fun d => page_injective.eq_iff,
    positions_page (by decide) (List.all_iff_forall_prop.mp (by decide)) c, _, hscript⟩

end EntitySieve.Page
