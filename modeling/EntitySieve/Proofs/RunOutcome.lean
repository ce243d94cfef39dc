import EntitySieve.Plan
import EntitySieve.Proofs.Loading

/-! How a run ends. The first source that cannot be loaded ends it with its own failure; else a
renderer that fails ends it with a failure to render; else its output is what the renderer makes of
the text that the sieve leaves of all sources. Nothing depends on what the text looks like. -/
namespace EntitySieve

/-- What a renderer's failure says: its own message if it is one to render, and else all of it. -/
def Failure.reason : Failure → Text
  | .render m => m
  | f => f.message

@[simp] theorem Failure.asRender_eq (f : Failure) : f.asRender = .render f.reason := by
  cases f <;> rfl

/-- A file that cannot be loaded is named by its failure. -/
theorem eq_source_of_loadFile {φ : Type} [FileStore φ] {files : φ} {root : Option Text} {id : Text}
    {f : Failure} (h : loadFile files root id = .error f) : ∃ cause, f = .source id cause := by
  unfold loadFile at h
  split at h
  · contradiction
  · rename_i cause _
    exact ⟨cause, (Except.error.inj h).symm⟩

inductive Ending where
  /-- The source of this name is the first that cannot be loaded. -/
  | unloaded (id : Text)
  | unrendered
  | rendered
  deriving DecidableEq

namespace Plan
variable {σ : Type}

/-- The ways in which a job can end, each with its result. Of the plan they need no loader, only
what it loads for each name. -/
inductive Ends (load : Text → Except Failure Text) (p : Plan σ) (job : Job) :
    Ending → Except Failure Output → Prop where
  | unloaded {id : Text} {f : Failure}
      (hfirst : job.files.find? (fun i => !(load i).isOk) = some id) (hload : load id = .error f) :
      Ends load p job (.unloaded id) (.error f)
  | unrendered {ts : List Text} {f : Failure} (hload : job.files.map load = ts.map .ok)
      (hrender : (p.renderer.render (sieve p.mode job.exclude (joinSources ts)).text
        p.settings).value = .error f) :
      Ends load p job .unrendered (.error (.render f.reason))
  | rendered {ts : List Text} {rendered : Text} (hload : job.files.map load = ts.map .ok)
      (hrender : (p.renderer.render (sieve p.mode job.exclude (joinSources ts)).text
        p.settings).value = .ok rendered) :
      Ends load p job .rendered
        (.ok ⟨rendered, (sieve p.mode job.exclude (joinSources ts)).text,
          (sieve p.mode job.exclude (joinSources ts)).stats⟩)

section Value
variable {p : Plan σ} {exclude : NameSet} {t : Text}

theorem finish_value_ok {rendered : Text}
    (h : (p.renderer.render (sieve p.mode exclude t).text p.settings).value = .ok rendered) :
    (p.finish exclude t).value =
      .ok ⟨rendered, (sieve p.mode exclude t).text, (sieve p.mode exclude t).stats⟩ := by
  simp [finish, h]

theorem finish_value_error {f : Failure}
    (h : (p.renderer.render (sieve p.mode exclude t).text p.settings).value = .error f) :
    (p.finish exclude t).value = .error (.render f.reason) := by
  simp [finish, h]

/-- A run needs nothing from its sources but the joined text. -/
theorem run_value (p : Plan σ) (job : Job) (s : σ) :
    (p.run job s).value.1 =
      match (p.loader.combine job.files s).value.1 with
      | .ok t => (p.finish job.exclude t).value
      | .error f => .error f := by
  simp only [run, Logged.within_value, Logged.bind_value]
  generalize (p.loader.combine job.files s).value = x
  obtain ⟨r, s'⟩ := x
  cases r <;> rfl

end Value

section Ends
variable {load : Text → Except Failure Text} {p : Plan σ} {job : Job}

theorem ends_run {s : σ}
    (h : (p.loader.combine job.files s).value.1 = Loader.joined load job.files) :
    ∃ e, Ends load p job e (p.run job s).value.1 := by
  rw [run_value, h]
  cases hjoined : Loader.joined load job.files with
  | error f =>
    obtain ⟨id, hfirst, hload⟩ := Loader.joined_eq_error_iff.mp hjoined
    exact ⟨.unloaded id, .unloaded hfirst hload⟩
  | ok t =>
    obtain ⟨ts, hload, rfl⟩ := Loader.joined_eq_ok_iff.mp hjoined
    cases hrender : (p.renderer.render (sieve p.mode job.exclude (joinSources ts)).text
        p.settings).value with
    | error f =>
      simp only [finish_value_error hrender]
      exact ⟨.unrendered, .unrendered hload hrender⟩
    | ok rendered =>
      simp only [finish_value_ok hrender]
      exact ⟨.rendered, .rendered hload hrender⟩

/-- A source that cannot be loaded is not among sources that all are. -/
theorem find?_ne_some_of_map_eq {ts : List Text} {id : Text}
    (h : job.files.map load = ts.map .ok) :
    job.files.find? (fun i => !(load i).isOk) ≠ some id := by
  intro hfirst
  have hid := List.find?_some hfirst
  have hmem : load id ∈ ts.map Except.ok :=
    h ▸ List.mem_map_of_mem (List.mem_of_find?_eq_some hfirst)
  obtain ⟨t, -, ht⟩ := List.mem_map.mp hmem
  simp [← ht, Except.isOk, Except.toBool] at hid

/-- Texts that are loaded from the same sources are the same. -/
theorem eq_of_map_eq {ts us : List Text} (ht : job.files.map load = ts.map .ok)
    (hu : job.files.map load = us.map .ok) : ts = us :=
  (List.map_inj_right fun _ _ h => Except.ok.inj h).mp (ht.symm.trans hu)

theorem Ends.unique {e e' : Ending} {x y : Except Failure Output} (h : Ends load p job e x)
    (h' : Ends load p job e' y) : e = e' ∧ x = y := by
  cases h with
  | unloaded hfirst hload =>
    cases h' with
    | unloaded hfirst' hload' =>
      obtain rfl := Option.some.inj (hfirst.symm.trans hfirst')
      exact ⟨rfl, congrArg _ (Except.error.inj (hload.symm.trans hload'))⟩
    | unrendered hload' _ | rendered hload' _ =>
      exact absurd hfirst (find?_ne_some_of_map_eq hload')
  | unrendered hload hrender =>
    cases h' with
    | unloaded hfirst' _ => exact absurd hfirst' (find?_ne_some_of_map_eq hload)
    | unrendered hload' hrender' =>
      obtain rfl := eq_of_map_eq hload hload'
      obtain rfl := Except.error.inj (hrender.symm.trans hrender')
      exact ⟨rfl, rfl⟩
    | rendered hload' hrender' =>
      obtain rfl := eq_of_map_eq hload hload'
      simp [hrender] at hrender'
  | rendered hload hrender =>
    cases h' with
    | unloaded hfirst' _ => exact absurd hfirst' (find?_ne_some_of_map_eq hload)
    | unrendered hload' hrender' =>
      obtain rfl := eq_of_map_eq hload hload'
      simp [hrender] at hrender'
    | rendered hload' hrender' =>
      obtain rfl := eq_of_map_eq hload hload'
      obtain rfl := Except.ok.inj (hrender.symm.trans hrender')
      exact ⟨rfl, rfl⟩

end Ends

/-- A job ends in exactly one way and with its result. If a file cannot be loaded, the first such
file is the one that the failure names; a failure to render names none. -/
theorem run_ends_once (load : Text → Except Failure Text) (m : Mode) (r : Renderer) (c : Settings)
    (job : Job) :
    let p : Plan Unit := ⟨.ofFunction load, m, r, c⟩
    (∃ e, ∀ e' x, Ends load p job e' x ↔ e' = e ∧ x = (p.run job ()).value.1) ∧
      (∀ (φ : Type) [FileStore φ] (files : φ) (root : Option Text) (id : Text) (f : Failure),
        load = loadFile files root → Ends load p job (.unloaded id) (.error f) →
          f.file? = some id ∧ ∃ cause, f = .source id cause) ∧
      (∀ f, Ends load p job .unrendered (.error f) →
        f.file? = none ∧ ∃ message, f = .render message) := by
  intro p
  refine ⟨?_, ?_, ?_⟩
  · obtain ⟨e, he⟩ := ends_run (p := p) (Loader.combine_ofFunction load job.files)
    refine ⟨e, fun e' x => ⟨fun h => h.unique he, ?_⟩⟩
    rintro ⟨rfl, rfl⟩
    exact he
  · rintro φ _ files root id f rfl h
    cases h with
    | unloaded _ hload =>
      obtain ⟨cause, rfl⟩ := eq_source_of_loadFile hload
      exact ⟨rfl, cause, rfl⟩
  · intro f h
    cases h with
    | unrendered _ _ => exact ⟨rfl, _, rfl⟩

end Plan
end EntitySieve
