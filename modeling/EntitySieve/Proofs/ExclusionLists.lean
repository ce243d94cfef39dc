import EntitySieve.Embedding
import EntitySieve.Proofs.Delivery
import EntitySieve.Proofs.Lines

/-! Lists of names to exclude. A list of names between commas and the values of an option mean the
same set, however the names are spread over the values, and empty names count nowhere. -/
namespace EntitySieve

/-- Texts with a comma between any two. -/
def Text.commaList (ts : List Text) : Text := [','].intercalate ts

namespace Text

theorem commaList_cons_cons (t u : Text) (ts : List Text) :
    commaList (t :: u :: ts) = t ++ ',' :: commaList (u :: ts) := by
  simp [commaList]

/-- Joining comes to nothing when the pieces are split again. -/
theorem splitOn_commaList {ts : List Text} (h : ts ≠ []) :
    (commaList ts).splitOn ',' = ts.flatMap (·.splitOn ',') := by
  match ts, h with
  | [t], _ => simp [commaList]
  | t :: u :: ts, _ =>
    have ih := splitOn_commaList (List.cons_ne_nil u ts)
    rw [commaList_cons_cons, List.splitOn_append_cons_self, ih, ← List.flatMap_cons]

end Text

namespace NameSet

theorem mem_ofCommaList {t x : Text} : x ∈ ofCommaList t ↔ x ≠ [] ∧ x ∈ t.splitOn ',' := by
  simp [ofCommaList, and_comm]

theorem ofCommaList_append_comma (a b : Text) :
    ofCommaList (a ++ ',' :: b) = ofCommaList a ∪ ofCommaList b := by
  apply eq_of_mem_iff
  intro x
  rw [mem_union, mem_ofCommaList, mem_ofCommaList, mem_ofCommaList, List.splitOn_append_cons_self,
    List.mem_append, and_or_left]

theorem mem_ofCommaList_commaList {ts : List Text} {x : Text} :
    x ∈ ofCommaList (Text.commaList ts) ↔ x ≠ [] ∧ ∃ t ∈ ts, x ∈ t.splitOn ',' := by
  rw [mem_ofCommaList]
  by_cases hts : ts = []
  · simp [hts, Text.commaList]
  · rw [Text.splitOn_commaList hts, List.mem_flatMap]

/-- A list of its names gives a set back exactly if each of the names can stand in a list. -/
theorem ofCommaList_names_iff {s : NameSet} :
    ofCommaList (Text.commaList s.names) = s ↔ ∀ x ∈ s, x ≠ [] ∧ ',' ∉ x := by
  constructor
  · intro h x hx
    rw [← h, mem_ofCommaList_commaList] at hx
    obtain ⟨hne, t, -, hpiece⟩ := hx
    exact ⟨hne, not_mem_of_mem_splitOn hpiece⟩
  · intro h
    apply eq_of_mem_iff
    intro x
    rw [mem_ofCommaList_commaList]
    constructor
    · rintro ⟨-, t, ht, hx⟩
      rw [List.splitOn_eq_singleton (h t ht).2, List.mem_singleton] at hx
      exact hx ▸ ht
    · intro hx
      refine ⟨(h x hx).1, x, hx, ?_⟩
      rw [List.splitOn_eq_singleton (h x hx).2]
      exact List.mem_singleton_self x

end NameSet

open OptionUse

/-- The names to exclude are those of one list that joins all values. -/
theorem excludedNames_eq (us : List OptionUse) :
    excludedNames us = NameSet.ofCommaList (Text.commaList (values .exclude us)) := by
  apply NameSet.eq_of_mem_iff
  intro x
  rw [NameSet.mem_ofCommaList_commaList]
  simp [excludedNames, items, and_comm]

theorem values_map_mk (k : OptionKey) (vs : List Text) :
    values k (vs.map (OptionUse.mk k)) = vs := by
  have hall : ∀ u ∈ vs.map (OptionUse.mk k), decide (u.key = k) = true := by simp
  rw [values, List.filter_eq_self.mpr hall, List.map_map]
  exact List.map_id vs

theorem filterDiagram_value (t exclude : Text) (pruneOrphans : Bool) :
    (Embedding.filterDiagram t exclude pruneOrphans).value =
      (sieve (if pruneOrphans then .pruneOrphans else .exclusionOnly) (.ofCommaList exclude)
        t).text := rfl

section Render
variable {args : List Text} {us : List OptionUse} {q : Request}

theorem command_of_readAs (hq : Request.ofArguments args = .ok q) (h : ReadAs args .render us) :
    q.command = .render (RenderRequest.ofUses us) ∧ (RenderRequest.ofUses us).Fits us := by
  obtain ⟨c, us', hread, hproper, hcommand⟩ := readAs_of_ofArguments hq
  obtain ⟨rfl, rfl⟩ := h.unique hread
  exact ⟨hcommand, hproper.render_fits⟩

/-- One argument for each of the values, in a form in which a value may hold anything. -/
def excludingArguments (vs : List Text) : List Text :=
  "render".toList :: vs.map ("--exclude=".toList ++ ·)

theorem read_exclude (v : Text) :
    Argument.read CommandName.render.options ("--exclude=".toList ++ v) =
      .options [⟨.exclude, v⟩] .nothing := rfl

theorem addUse_exclude (us : List OptionUse) (v : Text) :
    addUse us ⟨.exclude, v⟩ = .ok (us ++ [⟨.exclude, v⟩]) := by
  simp [addUse, OptionKey.repeats, OptionKey.accepts]

theorem readOptions_exclude (us : List OptionUse) (vs : List Text) :
    readOptions CommandName.render.options us (vs.map ("--exclude=".toList ++ ·)) =
      .ok (us ++ vs.map (OptionUse.mk .exclude), []) := by
  -- The uses read so far grow with each value, so the induction is for any of them.
  induction vs generalizing us with
  | nil => simp [readOptions]
  | cons v vs ih =>
    rw [List.map_cons, readOptions, read_exclude]
    dsimp only
    rw [List.foldlM_cons, addUse_exclude]
    show readOptions _ (us ++ [⟨.exclude, v⟩]) _ = _
    rw [ih, List.map_cons, List.append_assoc, List.singleton_append]

/-- Every list of values can be given. -/
theorem exists_ofArguments_excluding (vs : List Text) :
    ∃ q, Request.ofArguments (excludingArguments vs) = .ok q ∧
      ReadAs (excludingArguments vs) .render (vs.map (OptionUse.mk .exclude)) := by
  have hbefore : readOptions OptionKey.beforeCommand [] (excludingArguments vs) =
      .ok ([], excludingArguments vs) := rfl
  have hafter := readOptions_exclude [] vs
  refine ⟨.ofUses .render [] (vs.map (OptionUse.mk .exclude)), ?_, [], _,
    (readOptions_nil hbefore).1, (readOptions_nil hafter).1⟩
  have hname : CommandName.ofText? "render" = some .render := by decide
  rw [Request.ofArguments, bind_eq_ok_iff]
  refine ⟨_, hbefore, ?_⟩
  simp only [excludingArguments, hname]
  rw [bind_eq_ok_iff]
  exact ⟨_, hafter, rfl⟩

/-- Where no page is made around it, what is delivered is the text that the sieve leaves. -/
theorem RenderRequest.delivers_sieved {φ : Type} [FileStore φ] {r : RenderRequest} {files : φ}
    {stdin : ByteArray} {t : Text} {verbose : Bool} {o : Outcome φ} (hne : r.sources.files ≠ [])
    (hformat : r.format = .mmd)
    (hjoined : Loader.joined (sourceText files r.sources.root stdin) r.sources.files = .ok t)
    (h : o.Shows files (r.run verbose files stdin).value.result) :
    ∃ out, r.pipeline files stdin = .ok out ∧
      out.rendered = (sieve r.mode r.exclude t).text ∧ r.Delivers files out.rendered o := by
  have hrenderer : r.renderer = .source := by rw [renderer, hformat]
  have hpipeline : r.pipeline files stdin = .ok ⟨(sieve r.mode r.exclude t).text,
      (sieve r.mode r.exclude t).text, (sieve r.mode r.exclude t).stats⟩ := by
    rw [r.pipeline_eq files stdin hne, hjoined]
    refine Plan.finish_value_ok ?_
    rw [hrenderer]
    exact Renderer.render_source ..
  rw [r.run_result, hpipeline] at h
  exact ⟨_, hpipeline, rfl, r.delivers_of_shows files h⟩

end Render

/-- A list of names means one set, wherever it is given. Joining lists joins their sets; a set comes
back from its own list unless a name of it cannot stand there; and a run of the program excludes
what the one list of all its values names, and leaves the text that a caller gets for that list. -/
theorem exclusion_lists_agree :
    (∀ a b : Text,
      NameSet.ofCommaList (a ++ ',' :: b) = NameSet.ofCommaList a ∪ NameSet.ofCommaList b) ∧
    (∀ s : NameSet,
      NameSet.ofCommaList (Text.commaList s.names) = s ↔ ∀ x ∈ s, x ≠ [] ∧ ',' ∉ x) ∧
    (∀ vs : List Text, ∃ args us q, Request.ofArguments args = .ok q ∧ ReadAs args .render us ∧
      values .exclude us = vs) ∧
    ∀ (args : List Text) (us : List OptionUse) (q : Request), Request.ofArguments args = .ok q →
      ReadAs args .render us →
        let excluded := Text.commaList (values .exclude us)
        ∃ r, q.command = .render r ∧ r.exclude = .ofCommaList excluded ∧
          ∀ (φ : Type) [FileStore φ] (env : LogEnvironment) (files : φ) (stdin : ByteArray)
            (t : Text), r.format = .mmd →
            ((Loader.ofFunction (sourceText files r.sources.root stdin)).combine r.sources.files
              ()).value.1 = .ok t →
            ∃ out, r.pipeline files stdin = .ok out ∧
              out.rendered =
                (Embedding.filterDiagram t excluded (!isUsed .noPruneOrphans us)).value ∧
              r.Delivers files out.rendered (runProgram args env files stdin) := by
  refine ⟨NameSet.ofCommaList_append_comma, fun _ => NameSet.ofCommaList_names_iff, ?_, ?_⟩
  · intro vs
    obtain ⟨q, hq, hread⟩ := exists_ofArguments_excluding vs
    exact ⟨_, _, q, hq, hread, values_map_mk _ vs⟩
  · intro args us q hq hread excluded
    obtain ⟨hcommand, hfits⟩ := command_of_readAs hq hread
    refine ⟨_, hcommand, excludedNames_eq us, ?_⟩
    intro φ _ env files stdin t hformat hjoined
    have hshown := q.run_shows env files stdin
    rw [hcommand, ← runProgram_eq hq] at hshown
    rw [Loader.combine_ofFunction] at hjoined
    obtain ⟨out, hout, hrendered, hdelivers⟩ :=
      RenderRequest.delivers_sieved hfits.sources.files_ne_nil hformat hjoined hshown
    refine ⟨out, hout, hrendered.trans ?_, hdelivers⟩
    rw [filterDiagram_value, ← excludedNames_eq]
    cases hused : isUsed .noPruneOrphans us <;> simp [RenderRequest.ofUses, hused]

/-- Values with commas at either end, two in a row, and nothing between them. -/
def unevenArguments : List Text :=
  ["render", "-x", ",A,", "--no-prune-orphans", "--exclude=", "-f", "-", "-xB,,"]

def unevenUses : List OptionUse :=
  [⟨.exclude, ",A,"⟩, ⟨.noPruneOrphans, []⟩, ⟨.exclude, []⟩, ⟨.file, "-"⟩, ⟨.exclude, "B,,"⟩]

def unevenStdin : Text := Text.ofLines ["A \x7b", "\x7d", "C || D", "B || C", "E \x7b", "\x7d"]

theorem readAs_unevenArguments : ReadAs unevenArguments .render unevenUses := by
  have hbefore : readOptions OptionKey.beforeCommand [] unevenArguments =
      .ok ([], unevenArguments) := rfl
  have hafter : readOptions CommandName.render.options [] unevenArguments.tail =
      .ok (unevenUses, []) := eq_ok_of_toOption (by decide +kernel)
  exact ⟨[], _, (readOptions_nil hbefore).1, (readOptions_nil hafter).1⟩

theorem exclusion_lists_agree_unevenArguments :
    Text.commaList (values .exclude unevenUses) = (",A,,,B,," : Text) ∧
      NameSet.ofCommaList ",A,,,B,," = .ofList ["A", "B"] ∧
      (runProgram unevenArguments ⟨none, none, none⟩ (⟨[], []⟩ : FileTree)
          (Text.toUtf8 unevenStdin)).stdout =
        (Embedding.filterDiagram (unevenStdin ++ ['\n']) ",A,,,B,," false).value ++ ['\n'] ∧
      (Embedding.filterDiagram (unevenStdin ++ ['\n']) ",A,,,B,," false).value =
        Text.ofLines ["C || D", "E \x7b", "\x7d"] := by
  have hlist : Text.commaList (values .exclude unevenUses) = (",A,,,B,," : Text) := by decide
  have hset : NameSet.ofCommaList ",A,,,B,," = .ofList ["A", "B"] := by decide
  have hleft : (Embedding.filterDiagram (unevenStdin ++ ['\n']) ",A,,,B,," false).value =
      Text.ofLines ["C || D", "E \x7b", "\x7d"] := by decide +kernel
  have hq : Request.ofArguments unevenArguments =
      .ok (.ofUses .render [] unevenUses) := eq_ok_of_toOption (by decide +kernel)
  obtain ⟨-, -, -, hruns⟩ := exclusion_lists_agree
  obtain ⟨r, hr, -, hdelivers⟩ := hruns _ _ _ hq readAs_unevenArguments
  obtain rfl := Command.render.inj hr
  obtain ⟨out, -, hout, hshown⟩ := hdelivers FileTree ⟨none, none, none⟩ ⟨[], []⟩
    (Text.toUtf8 unevenStdin) (unevenStdin ++ ['\n']) rfl (eq_ok_of_toOption (by decide +kernel))
  obtain ⟨-, -, hstdout⟩ := hshown.shown rfl
  have hflag : (!isUsed .noPruneOrphans unevenUses) = false := rfl
  rw [hlist, hflag] at hout
  refine ⟨hlist, hset, ?_, hleft⟩
  rw [hstdout, hout, hleft]
  rfl

end EntitySieve
