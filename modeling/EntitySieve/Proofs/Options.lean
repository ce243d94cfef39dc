import EntitySieve.Command.Run
import EntitySieve.Proofs.Steps

/-! What a request takes from the options of its command line. Reading passes over no option, and
accepts no value without a meaning and no second use of an option that may be used once. So an
option that is used decides what is asked for, and no default replaces it. -/
namespace EntitySieve

namespace OptionUse

/-- Uses that have been read: their values are accepted, and what may be used once is. -/
structure Proper (us : List OptionUse) : Prop where
  accepted : ∀ u ∈ us, u.key.accepts u.value = true
  once : us.Pairwise fun u v => u.key = v.key → u.key.repeats = true

/-- An option is set to what its value means, and to a default where it is not used. -/
structure Sets {α : Type} (us : List OptionUse) (k : OptionKey) (meaning : Text → Option α)
    (default x : α) : Prop where
  used : ∀ v, ⟨k, v⟩ ∈ us → meaning v = some x
  unused : (∀ v, ⟨k, v⟩ ∉ us) → x = default

section Values
variable {k : OptionKey} {us : List OptionUse} {v : Text}

theorem mem_values : v ∈ values k us ↔ ⟨k, v⟩ ∈ us := by
  simp only [values, List.mem_map, List.mem_filter, decide_eq_true_eq]
  constructor
  · rintro ⟨⟨_, _⟩, ⟨hu, rfl⟩, rfl⟩
    exact hu
  · intro h
    exact ⟨_, ⟨h, rfl⟩, rfl⟩

theorem isUsed_iff : isUsed k us = true ↔ ∃ v, ⟨k, v⟩ ∈ us := by
  simp only [isUsed, List.any_eq_true, decide_eq_true_eq]
  constructor
  · rintro ⟨⟨_, v⟩, hu, rfl⟩
    exact ⟨v, hu⟩
  · rintro ⟨v, hv⟩
    exact ⟨_, hv, rfl⟩

theorem mem_items {x : Text} : x ∈ items k us ↔ ∃ v, ⟨k, v⟩ ∈ us ∧ x ∈ v.splitOn ',' := by
  simp only [items, List.mem_flatMap, mem_values]

theorem items_ne_nil (h : isUsed k us = true) : items k us ≠ [] := by
  obtain ⟨v, hv⟩ := isUsed_iff.mp h
  obtain ⟨x, hx⟩ := List.exists_mem_of_ne_nil _ (List.splitOn_ne_nil ',' v)
  exact List.ne_nil_of_mem (mem_items.mpr ⟨v, hv, hx⟩)

theorem addUse_eq_ok {u : OptionUse} {us' : List OptionUse} (h : addUse us u = .ok us') :
    us' = us ++ [u] ∧ (u.key.repeats = false → isUsed u.key us = false) ∧
      u.key.accepts u.value = true := by
  unfold addUse at h
  split at h
  · contradiction
  · contradiction
  split at h
  · contradiction
  rename_i hok
  simp only [Bool.or_eq_true, Bool.and_eq_true, Bool.not_eq_true', not_or, not_and,
    Bool.not_eq_true, Bool.not_eq_false] at hok
  exact ⟨(Except.ok.inj h).symm, hok⟩

theorem eq_append_of_addUse {more us' : List OptionUse} (h : more.foldlM addUse us = .ok us') :
    us' = us ++ more := by
  induction more generalizing us with
  | nil =>
    cases h
    exact (List.append_nil _).symm
  | cons u more ih =>
    rw [List.foldlM_cons, bind_eq_ok_iff] at h
    obtain ⟨next, hnext, h⟩ := h
    rw [ih h, (addUse_eq_ok hnext).1, List.append_assoc, List.singleton_append]

end Values

namespace Proper

theorem nil : Proper [] := ⟨by simp, .nil⟩

variable {us : List OptionUse} {k : OptionKey}

/-- An option that may be used once has its value where any use of it has. -/
theorem last?_eq_some_iff (h : Proper us) (hk : k.repeats = false) {v : Text} :
    last? k us = some v ↔ ⟨k, v⟩ ∈ us := by
  have hvalues : (values k us).Pairwise fun _ _ => False := by
    refine List.pairwise_map.mpr (List.pairwise_filter.mpr (h.once.imp ?_))
    intro u w hrepeats hu hw
    simp only [decide_eq_true_eq] at hu hw
    simp [hu, hw, hk] at hrepeats
  rw [← mem_values, last?]
  match values k us, hvalues with
  | [], _ => simp
  | [w], _ => simp [eq_comm]
  | _ :: w :: _, hvalues => exact ((List.pairwise_cons.mp hvalues).1 w List.mem_cons_self).elim

/-- A value that was accepted has a meaning, so its default never stands for it. -/
theorem sets {α : Type} {meaning : Text → Option α} (h : Proper us) (hk : k.repeats = false)
    (hmeaning : ∀ v, k.accepts v = true → (meaning v).isSome = true) (default : α) :
    Sets us k meaning default (((last? k us).bind meaning).getD default) where
  used v hv := by
    obtain ⟨x, hx⟩ := Option.isSome_iff_exists.mp (hmeaning v (h.accepted _ hv))
    simp [(h.last?_eq_some_iff hk).mpr hv, hx]
  unused hnone := by
    have hlast : last? k us = none :=
      Option.eq_none_iff_forall_ne_some.mpr fun v hv => hnone v ((h.last?_eq_some_iff hk).mp hv)
    rw [hlast]
    rfl

theorem addUse {u : OptionUse} {us' : List OptionUse} (h : Proper us)
    (hadd : addUse us u = .ok us') : Proper us' := by
  obtain ⟨rfl, hrepeats, haccepts⟩ := addUse_eq_ok hadd
  constructor
  · intro w hw
    rcases List.mem_append.mp hw with hw | hw
    · exact h.accepted w hw
    · exact List.mem_singleton.mp hw ▸ haccepts
  · refine List.pairwise_append.mpr ⟨h.once, List.pairwise_singleton .., ?_⟩
    intro w hw w' hw' hkey
    obtain rfl := List.mem_singleton.mp hw'
    rw [hkey]
    cases hu : w'.key.repeats with
    | true => rfl
    | false =>
      have hunused := hrepeats hu
      rw [← Bool.not_eq_true, isUsed_iff] at hunused
      exact absurd ⟨w.value, hkey ▸ hw⟩ hunused

end Proper
end OptionUse

open OptionUse

/-- Sources are those that the options name, in their order, with nothing left out. -/
structure Sources.Fits (s : Sources) (us : List OptionUse) : Prop where
  files_used : ∀ v, ⟨.file, v⟩ ∈ us → s.files = (values .file us).flatMap (·.splitOn ',')
  files_unused : (∀ v, ⟨.file, v⟩ ∉ us) → s.files = [defaultFile]
  root : ∀ v, s.root = some v ↔ ⟨.root, v⟩ ∈ us

/-- A request to render asks for what the options say, for all of that and for nothing else. -/
structure RenderRequest.Fits (r : RenderRequest) (us : List OptionUse) : Prop where
  sources : r.sources.Fits us
  exclude : ∀ x, x ∈ r.exclude ↔ x ≠ [] ∧ ∃ v, ⟨.exclude, v⟩ ∈ us ∧ x ∈ v.splitOn ','
  mode : r.mode = .exclusionOnly ↔ ∃ v, ⟨.noPruneOrphans, v⟩ ∈ us
  format : Sets us .format OutputFormat.ofName? .mmd r.format
  source : r.format = .mmd → r.renderer = .source
  page : r.format = .html →
    ∃ title, Sets us .title some Page.defaultTitle title ∧ r.renderer = .page title Page.moduleUrl
  startOnLoad : r.settings.startOnLoad = true ↔ ∃ v, ⟨.startOnLoad, v⟩ ∈ us
  securityLevel : Sets us .securityLevel SecurityLevel.ofName? .loose r.settings.securityLevel
  padding : Sets us .padding paddingOfText? 20 r.settings.diagramPadding
  output : ∀ path, r.output = some path ↔ ⟨.output, path⟩ ∈ us ∧ path ≠ ['-']

/-- What a command's name and its options ask for. -/
inductive Command.Asked (us : List OptionUse) : CommandName → Command → Prop where
  | render {r : RenderRequest} (h : r.Fits us) : Asked us .render (.render r)
  | entities {s : Sources} {json : Bool} (h : s.Fits us)
      (hjson : json = true ↔ ∃ v, ⟨.json, v⟩ ∈ us) : Asked us .entities (.entities s json)
  | detect {s : Sources} (h : s.Fits us) : Asked us .detect (.detect s)

theorem Sources.Fits.files_ne_nil {s : Sources} {us : List OptionUse} (h : s.Fits us) :
    s.files ≠ [] := by
  by_cases hused : ∃ v, ⟨.file, v⟩ ∈ us
  · obtain ⟨v, hv⟩ := hused
    rw [h.files_used v hv]
    exact items_ne_nil (isUsed_iff.mpr ⟨v, hv⟩)
  · rw [h.files_unused (not_exists.mp hused)]
    exact List.cons_ne_nil _ _

theorem OptionUse.Proper.sources_fits {us : List OptionUse} (h : Proper us) :
    (Sources.ofUses us).Fits us where
  files_used v hv := if_pos (isUsed_iff.mpr ⟨v, hv⟩)
  files_unused hnone := if_neg (by simpa [isUsed_iff] using hnone)
  root _ := h.last?_eq_some_iff rfl

theorem OptionUse.Proper.render_fits {us : List OptionUse} (h : Proper us) :
    (RenderRequest.ofUses us).Fits us where
  sources := h.sources_fits
  exclude x := by
    simp [RenderRequest.ofUses, excludedNames, mem_items, and_comm]
  mode := by
    rw [← isUsed_iff]
    simp [RenderRequest.ofUses]
  format := h.sets rfl (fun _ => id) _
  source hformat := by rw [RenderRequest.renderer, hformat]
  page hformat := by
    have htitle : Sets us .title some Page.defaultTitle
        (((last? .title us).bind some).getD Page.defaultTitle) := h.sets rfl (fun _ _ => rfl) _
    rw [Option.bind_fun_some] at htitle
    exact ⟨_, htitle, by rw [RenderRequest.renderer, hformat]; rfl⟩
  startOnLoad := isUsed_iff
  securityLevel := h.sets rfl (fun _ => id) _
  padding := h.sets rfl (fun _ => id) _
  output path := by
    rw [← h.last?_eq_some_iff rfl]
    simp [RenderRequest.ofUses, Option.filter_eq_some_iff]

/-- Arguments that give these uses one after another, and what is left of them. An option that has
no value in its own argument has the whole next one. -/
inductive Gives (keys : List OptionKey) : List Text → List OptionUse → List Text → Prop where
  | nothing : Gives keys [] [] []
  | word {a : Text} {as : List Text} (ha : Argument.read keys a = .word) :
      Gives keys (a :: as) [] (a :: as)
  | terminator {a : Text} (ha : Argument.read keys a = .terminator) : Gives keys [a] [] []
  | options {a : Text} {as rest : List Text} {more us : List OptionUse}
      (ha : Argument.read keys a = .options more .nothing) (has : Gives keys as us rest) :
      Gives keys (a :: as) (more ++ us) rest
  | value {a v : Text} {as rest : List Text} {more us : List OptionUse} {k : OptionKey}
      (ha : Argument.read keys a = .options more (.value k)) (hv : Argument.isValue v = true)
      (has : Gives keys as us rest) : Gives keys (a :: v :: as) (more ++ ⟨k, v⟩ :: us) rest

/-- Arguments are read in one way only. -/
theorem Gives.unique {keys : List OptionKey} {args rest rest' : List Text}
    {us us' : List OptionUse} (h : Gives keys args us rest) (h' : Gives keys args us' rest') :
    us = us' ∧ rest = rest' := by
  -- How the first argument is read decides by which rule it is given.
  induction h generalizing us' rest' with
  | nothing =>
    cases h' with
    | nothing => exact ⟨rfl, rfl⟩
  | word ha =>
    cases h' with
    | word _ => exact ⟨rfl, rfl⟩
    | terminator ha' | options ha' _ | value ha' _ _ => nomatch ha.symm.trans ha'
  | terminator ha =>
    cases h' with
    | terminator _ => exact ⟨rfl, rfl⟩
    | word ha' | options ha' _ => nomatch ha.symm.trans ha'
  | options ha _ ih =>
    cases h' with
    | options ha' hrest =>
      obtain ⟨rfl, -⟩ := Argument.options.inj (ha.symm.trans ha')
      obtain ⟨rfl, rfl⟩ := ih hrest
      exact ⟨rfl, rfl⟩
    | word ha' | terminator ha' | value ha' _ _ => nomatch ha.symm.trans ha'
  | value ha _ _ ih =>
    cases h' with
    | value ha' _ hrest =>
      obtain ⟨rfl, hexpected⟩ := Argument.options.inj (ha.symm.trans ha')
      obtain rfl := Expectation.value.inj hexpected
      obtain ⟨rfl, rfl⟩ := ih hrest
      exact ⟨rfl, rfl⟩
    | word ha' | options ha' _ => nomatch ha.symm.trans ha'

theorem gives_of_readOptions {keys : List OptionKey} {us us' : List OptionUse}
    {args rest : List Text} (h : readOptions keys us args = .ok (us', rest)) :
    ∃ more, Gives keys args more rest ∧ more.foldlM addUse us = .ok us' := by
  match args with
  | [] =>
    cases h
    exact ⟨[], .nothing, rfl⟩
  | a :: as =>
    rw [readOptions] at h
    split at h
    · rename_i ha
      cases h
      exact ⟨[], .word ha, rfl⟩
    · rename_i ha
      cases as with
      | nil =>
        cases h
        exact ⟨[], .terminator ha, rfl⟩
      | cons => contradiction
    rename_i more expected ha
    obtain ⟨us₁, hmore, h⟩ := bind_eq_ok_iff.mp h
    cases expected with
    | unknown => contradiction
    | nothing =>
      obtain ⟨others, hgives, hothers⟩ := gives_of_readOptions h
      refine ⟨more ++ others, .options ha hgives, ?_⟩
      rw [List.foldlM_append, bind_eq_ok_iff]
      exact ⟨us₁, hmore, hothers⟩
    | value k =>
      cases as with
      | nil => contradiction
      | cons v as =>
        dsimp only at h
        split at h
        · rename_i hv
          obtain ⟨us₂, hvalue, h⟩ := bind_eq_ok_iff.mp h
          obtain ⟨others, hgives, hothers⟩ := gives_of_readOptions h
          refine ⟨more ++ ⟨k, v⟩ :: others, .value ha hv hgives, ?_⟩
          rw [List.foldlM_append, bind_eq_ok_iff]
          refine ⟨us₁, hmore, ?_⟩
          rw [List.foldlM_cons, bind_eq_ok_iff]
          exact ⟨us₂, hvalue, hothers⟩
        · contradiction
termination_by args.length
decreasing_by all_goals grind

/-- What is read of options is what the arguments give, and it is proper. -/
theorem readOptions_nil {keys : List OptionKey} {us : List OptionUse} {args rest : List Text}
    (h : readOptions keys [] args = .ok (us, rest)) : Gives keys args us rest ∧ Proper us := by
  obtain ⟨more, hgives, hmore⟩ := gives_of_readOptions h
  obtain rfl : us = more := eq_append_of_addUse hmore
  exact ⟨hgives, foldlM_keeps Proper.addUse hmore .nil⟩

/-- A command line in which a command's name stands, and just these options after it. -/
def ReadAs (args : List Text) (c : CommandName) (us : List OptionUse) : Prop :=
  ∃ before rest, Gives OptionKey.beforeCommand args before (c.text :: rest) ∧
    Gives c.options rest us []

theorem CommandName.text_eq_of_ofText? {t : Text} {c : CommandName} (h : ofText? t = some c) :
    c.text = t := by
  have htext := List.find?_some h
  exact of_decide_eq_true htext

theorem CommandName.text_injective {c c' : CommandName} (h : c.text = c'.text) : c = c' := by
  cases c <;> cases c' <;> first | rfl | exact absurd h (by decide)

theorem ReadAs.unique {args : List Text} {c c' : CommandName} {us us' : List OptionUse}
    (h : ReadAs args c us) (h' : ReadAs args c' us') : c = c' ∧ us = us' := by
  obtain ⟨before, rest, hbefore, hafter⟩ := h
  obtain ⟨before', rest', hbefore', hafter'⟩ := h'
  obtain ⟨hc, rfl⟩ := List.cons.inj (hbefore.unique hbefore').2
  obtain rfl := CommandName.text_injective hc
  exact ⟨rfl, (hafter.unique hafter').1⟩

theorem readAs_of_ofArguments {args : List Text} {q : Request}
    (h : Request.ofArguments args = .ok q) :
    ∃ c us, ReadAs args c us ∧ Proper us ∧ q.command = Command.ofUses c us := by
  obtain ⟨⟨before, words⟩, hbefore, h⟩ := bind_eq_ok_iff.mp h
  cases words with
  | nil => contradiction
  | cons w rest =>
    dsimp only at h
    split at h
    · rename_i c hc
      obtain ⟨⟨after, words⟩, hafter, h⟩ := bind_eq_ok_iff.mp h
      obtain rfl := CommandName.text_eq_of_ofText? hc
      cases words with
      | nil =>
        cases h
        obtain ⟨hgives, hproper⟩ := readOptions_nil hafter
        exact ⟨c, after, ⟨before, rest, (readOptions_nil hbefore).1, hgives⟩, hproper, rfl⟩
      | cons => contradiction
    · contradiction

theorem asked_of_ofArguments {args : List Text} {q : Request}
    (h : Request.ofArguments args = .ok q) :
    ∃ c us, ReadAs args c us ∧ q.command.Asked us c := by
  obtain ⟨c, us, hread, hproper, hcommand⟩ := readAs_of_ofArguments h
  refine ⟨c, us, hread, hcommand ▸ ?_⟩
  cases c with
  | render => exact .render hproper.render_fits
  | entities => exact .entities hproper.sources_fits isUsed_iff
  | detect => exact .detect hproper.sources_fits

end EntitySieve
