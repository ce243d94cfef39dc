import EntitySieve.Proofs.FileWrites
import EntitySieve.Proofs.HeldInput
import EntitySieve.Proofs.Options
import EntitySieve.Proofs.RunOutcome

/-! How an accepted command line comes out. A run is decided by one result, the report of its
command: what fails leaves an exit code and nothing else, and what succeeds delivers all of its
output to one place. For rendering the output is that of a pipeline over the same sources, with
standard input as one more source that can be loaded at any time. -/
namespace EntitySieve

variable {φ : Type} [FileStore φ]

/-- Every one of the sources can be loaded. -/
def Sources.Loads (s : Sources) (files : φ) (stdin : ByteArray) : Prop :=
  ∀ id ∈ s.files, ∃ t, sourceText files s.root stdin id = .ok t

/-- A run that fails prints nothing to standard output and leaves the files as they were. -/
def Outcome.Failed (o : Outcome φ) (files : φ) : Prop :=
  o.code = 1 ∧ o.stdout = [] ∧ o.files = files

/-- What an outcome shows of the result that decides it. -/
def Outcome.Shows (o : Outcome φ) (files : φ) : Except Text (Text × φ) → Prop
  | .ok (out, after) => o.code = 0 ∧ o.stdout = out ∧ o.files = after
  | .error _ => o.Failed files

theorem Request.run_shows (q : Request) (env : LogEnvironment) (files : φ) (stdin : ByteArray) :
    (q.run env files stdin).Shows files (q.command.run q.verbose files stdin).value.result := by
  simp only [Request.run]
  generalize (q.command.run q.verbose files stdin).value = report
  obtain ⟨before, after, result⟩ := report
  cases result with
  | error m => exact ⟨rfl, rfl, rfl⟩
  | ok done => exact ⟨rfl, rfl, rfl⟩

/-- What a pipeline makes of a request's sources, whichever way each of them is loaded. -/
def RenderRequest.pipeline (r : RenderRequest) (files : φ) (stdin : ByteArray) :
    Except Failure Output :=
  let plan : Plan Unit :=
    ⟨.ofFunction (sourceText files r.sources.root stdin), r.mode, r.renderer, r.settings⟩
  (plan.run (Job.of r.sources.files r.exclude) ()).value.1

/-- Where rendered text goes, and that it goes nowhere if it cannot be written. -/
structure RenderRequest.Delivers (r : RenderRequest) (files : φ) (rendered : Text) (o : Outcome φ) :
    Prop where
  shown : r.output = none → o.code = 0 ∧ o.files = files ∧ o.stdout =
    rendered ++ if rendered ≠ [] ∧ rendered.getLast? ≠ some '\n' then ['\n'] else []
  written : ∀ path after, r.output = some path →
    FileStore.write files path (Text.toUtf8 rendered) = .ok after →
      o.code = 0 ∧ o.stdout = [] ∧ o.files = after
  refused : ∀ path cause, r.output = some path →
    FileStore.write files path (Text.toUtf8 rendered) = .error cause → o.Failed files

/-- What a command has to come to. -/
inductive Command.Accords (files : φ) (stdin : ByteArray) (o : Outcome φ) : Command → Prop where
  | render {r : RenderRequest} (hunloaded : ¬ r.sources.Loads files stdin → o.Failed files)
      (hloaded : r.sources.Loads files stdin →
        ∃ out, r.pipeline files stdin = .ok out ∧ r.Delivers files out.rendered o) :
      Accords files stdin o (.render r)
  | entities {s : Sources} {json : Bool} (hfiles : o.files = files)
      (hunloaded : ¬ s.Loads files stdin → o.Failed files) :
      Accords files stdin o (.entities s json)
  | detect {s : Sources} (hfiles : o.files = files)
      (hunloaded : ¬ s.Loads files stdin → o.Failed files)
      (hdetects : o.code = 0 ↔ ∃ t,
        ((Loader.ofFunction (sourceText files s.root stdin)).combine s.files ()).value.1 = .ok t ∧
          (Confidence.ofText t).detects = true) :
      Accords files stdin o (.detect s)

theorem combine_value (files : φ) (root : Option Text) (stdin : ByteArray) (ids : List Text) :
    ((consoleLoader files root).combine ids (Stdin.fresh stdin)).value.1 =
      Loader.joined (sourceText files root stdin) ids :=
  ((serves_consoleLoader files root stdin).loadAll ids .unread).1

section Sources
variable (s : Sources) (files : φ) (stdin : ByteArray)

theorem Sources.load_value :
    (s.load files stdin).value = Loader.joined (sourceText files s.root stdin) s.files :=
  combine_value files s.root stdin s.files

theorem Sources.exists_load_eq_ok_iff :
    (∃ t, (s.load files stdin).value = .ok t) ↔ s.Loads files stdin := by
  rw [load_value]
  exact Loader.exists_joined_eq_ok_iff

end Sources

theorem ended_eq (t : Text) :
    ended t = t ++ if t ≠ [] ∧ t.getLast? ≠ some '\n' then ['\n'] else [] := by
  by_cases hempty : t = [] <;> by_cases hlast : t.getLast? = some '\n' <;>
    simp [ended, hempty, hlast]

namespace RenderRequest
variable (r : RenderRequest) (files : φ) (stdin : ByteArray)

/-- Standard input is as good as a source that can be loaded again. -/
theorem run_plan_value :
    ((r.plan files).run r.job (Stdin.fresh stdin)).value.1 = r.pipeline files stdin := by
  simp only [pipeline, Plan.run_value, Loader.combine_ofFunction]
  simp only [plan, combine_value]
  rfl

theorem run_result (verbose : Bool) :
    (r.run verbose files stdin).value.result =
      match r.pipeline files stdin with
      | .error f => .error f.message
      | .ok out => r.deliver files out.rendered := by
  rw [← run_plan_value]
  simp only [run, Logged.bind_value]
  generalize ((r.plan files).run r.job (Stdin.fresh stdin)).value = x
  obtain ⟨outcome, s⟩ := x
  cases outcome <;> rfl

theorem exists_render_eq_ok (diagram : Text) :
    ∃ rendered, (r.renderer.render diagram r.settings).value = .ok rendered := by
  unfold renderer
  cases r.format with
  | mmd => exact ⟨_, Renderer.render_source ..⟩
  | html => exact ⟨_, Renderer.render_page ..⟩

theorem pipeline_eq (hne : r.sources.files ≠ []) :
    r.pipeline files stdin =
      match Loader.joined (sourceText files r.sources.root stdin) r.sources.files with
      | .ok t =>
        (Plan.finish (⟨.ofFunction (sourceText files r.sources.root stdin), r.mode, r.renderer,
          r.settings⟩ : Plan Unit) r.exclude t).value
      | .error f => .error f := by
  have hfiles : (Job.of r.sources.files r.exclude).files = r.sources.files :=
    if_neg (by simpa using hne)
  simp only [pipeline, Plan.run_value, Loader.combine_ofFunction, hfiles]
  rfl

theorem exists_pipeline_eq_ok_iff (hne : r.sources.files ≠ []) :
    (∃ out, r.pipeline files stdin = .ok out) ↔ r.sources.Loads files stdin := by
  rw [Sources.Loads, ← Loader.exists_joined_eq_ok_iff, r.pipeline_eq files stdin hne]
  cases Loader.joined (sourceText files r.sources.root stdin) r.sources.files with
  | error f => simp
  | ok t =>
    obtain ⟨rendered, hrendered⟩ := r.exists_render_eq_ok (sieve r.mode r.exclude t).text
    simp only [Except.ok.injEq, exists_eq', iff_true]
    exact ⟨_, Plan.finish_value_ok hrendered⟩

theorem delivers_of_shows {rendered : Text} {o : Outcome φ}
    (h : o.Shows files (r.deliver files rendered)) : r.Delivers files rendered o where
  shown hnone := by
    rw [deliver, hnone] at h
    obtain ⟨hcode, hstdout, hfiles⟩ := h
    exact ⟨hcode, hfiles, hstdout.trans (ended_eq rendered)⟩
  written path after hpath hwrite := by
    simp only [deliver, hpath, hwrite] at h
    exact h
  refused path cause hpath hwrite := by
    simp only [deliver, hpath, hwrite] at h
    exact h

theorem accords {verbose : Bool} {o : Outcome φ} (hne : r.sources.files ≠ [])
    (h : o.Shows files (r.run verbose files stdin).value.result) :
    Command.Accords files stdin o (.render r) := by
  rw [run_result] at h
  refine .render (fun hunloaded => ?_) fun hloaded => ?_
  · rw [← r.exists_pipeline_eq_ok_iff files stdin hne] at hunloaded
    cases hpipeline : r.pipeline files stdin with
    | ok out => exact absurd ⟨out, hpipeline⟩ hunloaded
    | error f =>
      rw [hpipeline] at h
      exact h
  · obtain ⟨out, hout⟩ := (r.exists_pipeline_eq_ok_iff files stdin hne).mpr hloaded
    rw [hout] at h
    exact ⟨out, hout, r.delivers_of_shows files h⟩

end RenderRequest

section Reading
variable (s : Sources) (files : φ) (stdin : ByteArray) {o : Outcome φ}

theorem runEntities_result (json : Bool) :
    (runEntities s json files stdin).value.result =
      match (s.load files stdin).value with
      | .error f => .error f.message
      | .ok t =>
        .ok (printed (if json then [(Summary.ofText t).toJson.indented]
          else (Summary.ofText t).listing), files) := by
  simp only [runEntities, Logged.bind_value]
  cases (s.load files stdin).value <;> rfl

theorem runDetect_result (verbose : Bool) :
    (runDetect s verbose files stdin).value.result =
      match (s.load files stdin).value with
      | .error f => .error f.message
      | .ok t =>
        if (Confidence.ofText t).detects then .ok (printed [diagramType], files)
        else .error "Could not detect an ER diagram".toList := by
  simp only [runDetect, Logged.bind_value]
  cases (s.load files stdin).value <;> rfl

/-- A command that makes something of its joined sources and leaves the files alone. -/
theorem reading_accords {make : Text → Except Text (Text × φ)}
    (hmake : ∀ t out after, make t = .ok (out, after) → after = files)
    (h : o.Shows files (match (s.load files stdin).value with
      | .error f => .error f.message
      | .ok t => make t)) :
    o.files = files ∧ (¬ s.Loads files stdin → o.Failed files) := by
  rw [← s.exists_load_eq_ok_iff files stdin]
  cases hload : (s.load files stdin).value with
  | error f =>
    rw [hload] at h
    exact ⟨h.2.2, fun _ => h⟩
  | ok t =>
    rw [hload] at h
    refine ⟨?_, fun hno => absurd ⟨t, rfl⟩ hno⟩
    dsimp only at h
    cases hresult : make t with
    | error m =>
      rw [hresult] at h
      exact h.2.2
    | ok done =>
      rw [hresult] at h
      exact h.2.2.trans (hmake t _ _ hresult)

theorem entities_accords {json : Bool}
    (h : o.Shows files (runEntities s json files stdin).value.result) :
    Command.Accords files stdin o (.entities s json) := by
  rw [runEntities_result] at h
  obtain ⟨hfiles, hunloaded⟩ := reading_accords s files stdin (by rintro t _ _ ⟨⟩; rfl) h
  exact .entities hfiles hunloaded

theorem detect_accords {verbose : Bool}
    (h : o.Shows files (runDetect s verbose files stdin).value.result) :
    Command.Accords files stdin o (.detect s) := by
  rw [runDetect_result] at h
  have hmake : ∀ t out after, (if (Confidence.ofText t).detects then
      Except.ok (printed [diagramType], files)
      else .error "Could not detect an ER diagram".toList) = .ok (out, after) → after = files := by
    intro t out after hmade
    split at hmade <;> cases hmade
    rfl
  obtain ⟨hfiles, hunloaded⟩ := reading_accords s files stdin hmake h
  refine .detect hfiles hunloaded ?_
  rw [Loader.combine_ofFunction, ← s.load_value]
  cases hload : (s.load files stdin).value with
  | error f =>
    rw [hload] at h
    simp [h.1]
  | ok t =>
    simp only [hload] at h
    split at h
    · rename_i hdetects
      simp [h.1, hdetects]
    · rename_i hno
      simp [h.1, hno]

end Reading

theorem Command.run_accords {us : List OptionUse} {c : CommandName} {command : Command}
    (hasked : command.Asked us c) (verbose : Bool) (files : φ) (stdin : ByteArray) {o : Outcome φ}
    (h : o.Shows files (command.run verbose files stdin).value.result) :
    command.Accords files stdin o := by
  cases hasked with
  | render hfits => exact RenderRequest.accords _ files stdin hfits.sources.files_ne_nil h
  | entities => exact entities_accords _ files stdin h
  | detect => exact detect_accords _ files stdin h

theorem runProgram_eq {args : List Text} {q : Request} (h : Request.ofArguments args = .ok q)
    (env : LogEnvironment) (files : φ) (stdin : ByteArray) :
    runProgram args env files stdin = q.run env files stdin := by
  rw [runProgram, h]

/-- A run that succeeds in rendering to a file has written that file and nothing else. -/
theorem Command.Accords.wroteOnly {κ : Type} {file : φ → Text → κ} {r : RenderRequest}
    {files : φ} {stdin : ByteArray} {o : Outcome φ} {path : Text}
    (h : Command.Accords files stdin o (.render r)) (hlawful : FileStore.Lawful file)
    (hpath : r.output = some path) (hcode : o.code = 0) :
    ∃ out, r.pipeline files stdin = .ok out ∧
      FileStore.WroteOnly file files path (Text.toUtf8 out.rendered) o.files := by
  cases h with
  | render hunloaded hloaded =>
    have hsucceeds : ¬ o.Failed files := by
      intro hfailed
      simp [hfailed.1] at hcode
    obtain ⟨out, hout, hdelivers⟩ := hloaded (Classical.not_not.mp (mt hunloaded hsucceeds))
    refine ⟨out, hout, ?_⟩
    cases hwrite : FileStore.write files path (Text.toUtf8 out.rendered) with
    | error cause => exact absurd (hdelivers.refused path cause hpath hwrite) hsucceeds
    | ok after =>
      rw [(hdelivers.written path after hpath hwrite).2.2]
      exact hlawful.wroteOnly hwrite

/-- An accepted command line writes all of its output or none of it: what is rendered is what a
pipeline renders that is set up as the options say, and it goes to the one place they name. Where
that is a file, it holds the output and no other file has changed. -/
theorem run_writes_all_or_nothing {args : List Text} {q : Request}
    (haccepted : Request.ofArguments args = .ok q) (env : LogEnvironment) (stdin : ByteArray) :
    (∃ c us, ReadAs args c us ∧ q.command.Asked us c) ∧
      (∀ (φ : Type) [FileStore φ] (files : φ),
        q.command.Accords files stdin (runProgram args env files stdin)) ∧
      ∀ (φ κ : Type) [FileStore φ] (file : φ → Text → κ), FileStore.Lawful file →
        ∀ (files : φ) (r : RenderRequest) (path : Text), q.command = .render r →
          r.output = some path → (runProgram args env files stdin).code = 0 →
            ∃ out, r.pipeline files stdin = .ok out ∧
              FileStore.WroteOnly file files path (Text.toUtf8 out.rendered)
                (runProgram args env files stdin).files := by
  obtain ⟨c, us, hread, hasked⟩ := asked_of_ofArguments haccepted
  have haccords : ∀ (φ : Type) [FileStore φ] (files : φ),
      q.command.Accords files stdin (runProgram args env files stdin) := by
    intro φ _ files
    rw [runProgram_eq haccepted]
    exact Command.run_accords hasked q.verbose files stdin (q.run_shows env files stdin)
  refine ⟨⟨c, us, hread, hasked⟩, haccords, ?_⟩
  intro φ κ _ file hlawful files r path hrender hpath hcode
  have hr := haccords φ files
  rw [hrender] at hr
  exact hr.wroteOnly hlawful hpath hcode

/-- Two sources, one of them standard input and the other outside the working directory, and an
empty name among the excluded ones. -/
def outputArguments : List Text :=
  ["-v", "render", "-f", "/tmp/a.mmd,-", "-x", "B,,C", "--no-prune-orphans", "-o", "/tmp/out.mmd"]

def outputRequest : RenderRequest where
  sources := ⟨["/tmp/a.mmd", "-"], none⟩
  exclude := .ofList ["B", "C"]
  mode := .exclusionOnly
  format := .mmd
  title := none
  settings := default
  output := some "/tmp/out.mmd"

def outputTree : FileTree ["tmp", "work"] :=
  ⟨[(["/", "tmp", "a.mmd"], Text.toUtf8 (Text.ofLines ["A || B", "A || D", "B \x7b", "\x7d"]))], []⟩

def outputStdin : ByteArray := Text.toUtf8 (Text.ofLines ["E \x7b", "\x7d"])

def outputRun : Outcome (FileTree ["tmp", "work"]) :=
  runProgram outputArguments ⟨none, none, none⟩ outputTree outputStdin

def outputText : Text := Text.ofLines ["A || D", "E \x7b", "\x7d"]

/-- The file is read back by its absolute path and by one from the working directory, and the source
reads as it did. -/
theorem run_writes_all_or_nothing_outputFile :
    Request.ofArguments outputArguments = .ok ⟨true, none, none, .render outputRequest⟩ ∧
      outputRun.files.read "/tmp/out.mmd" = .ok (Text.toUtf8 outputText) ∧
      outputRun.files.read "../out.mmd" = .ok (Text.toUtf8 outputText) ∧
      (outputRun.files.read "../a.mmd").toOption = (outputTree.read "../a.mmd").toOption := by
  have haccepted : Request.ofArguments outputArguments =
      .ok ⟨true, none, none, .render outputRequest⟩ := eq_ok_of_toOption (by decide +kernel)
  have hcode : outputRun.code = 0 := by decide +kernel
  have hrendered : (outputRequest.pipeline outputTree outputStdin).toOption.map (·.rendered) =
      some outputText := by decide +kernel
  have hpath : outputTree.target "/tmp/out.mmd" = .ok ["/", "tmp", "out.mmd"] :=
    eq_ok_of_toOption (by decide +kernel)
  have hrelative : outputTree.target "../out.mmd" = .ok ["/", "tmp", "out.mmd"] :=
    eq_ok_of_toOption (by decide +kernel)
  have hsource : outputTree.target "../a.mmd" = .ok ["/", "tmp", "a.mmd"] :=
    eq_ok_of_toOption (by decide +kernel)
  have hother : outputTree.target "../a.mmd" ≠ outputTree.target "/tmp/out.mmd" := by
    rw [hsource, hpath]
    exact fun h => absurd (Except.ok.inj h) (by decide)
  obtain ⟨-, -, hwrites⟩ := run_writes_all_or_nothing haccepted ⟨none, none, none⟩ outputStdin
  obtain ⟨out, hout, hwrote⟩ := hwrites _ _ _ FileTree.lawful outputTree outputRequest
    "/tmp/out.mmd" rfl rfl hcode
  simp only [hout, Except.toOption, Option.map_some, Option.some.injEq] at hrendered
  rw [hrendered] at hwrote
  exact ⟨haccepted, hwrote.there _ rfl, hwrote.there _ (hrelative.trans hpath.symm),
    hwrote.elsewhere _ hother⟩

end EntitySieve
