import EntitySieve.Diagram.Detection
import EntitySieve.Diagram.Trace
import EntitySieve.Render.Renderer
import EntitySieve.Source.Loader

/-! From source names to rendered output: load and join the sources, remove the entities, render
what is left. Whether the text looks like a diagram is noted in the log and changes nothing else. -/
namespace EntitySieve

def defaultFile : Text := "diagrams/database.mmd"

/-- What a run reads and removes. -/
structure Job where
  files : List Text
  exclude : NameSet
  deriving DecidableEq

/-- Who names no file means the default one. -/
def Job.of (files : List Text) (exclude : NameSet) : Job :=
  ⟨if files.isEmpty then [defaultFile] else files, exclude⟩

/-- Warns of a text that does not look like a diagram. -/
def warnUnlikely (t : Text) : Logged Unit :=
  let c := Confidence.ofText t
  if c.detects then pure ()
  else
    Logged.emit ⟨"Input does not look like an ER diagram, filtering anyway", .warn,
      [("confidence", .text c.text)]⟩

/-- Removes entities from a text, whatever it looks like. -/
def sieveWarning (m : Mode) (s : NameSet) (t : Text) : Logged Sieved := do
  warnUnlikely t
  sieveLogged m s t

@[simp] theorem sieveWarning_value (m : Mode) (s : NameSet) (t : Text) :
    (sieveWarning m s t).value = sieve m s t := rfl

/-- A failure to render, as a run reports it. -/
def Failure.asRender : Failure → Failure
  | .render m => .render m
  | f => .render f.message

structure Output where
  rendered : Text
  /-- The text that was rendered. -/
  diagram : Text
  stats : Stats
  deriving DecidableEq

/-- How sources become output; a job says which sources, and what is removed. -/
structure Plan (σ : Type) where
  loader : Loader σ
  mode : Mode
  renderer : Renderer
  settings : Settings

namespace Plan

variable {σ : Type}

/-- What is left to do once the sources are joined. -/
def finish (p : Plan σ) (exclude : NameSet) (combined : Text) : Logged (Except Failure Output) := do
  Logged.emit ⟨"Sources combined", .debug, [("combined_len", .count (Text.byteLength combined))]⟩
  let sieved ← sieveWarning p.mode exclude combined
  Logged.emit ⟨"Filtered diagram", .debug, [("diagram", .text sieved.text)]⟩
  match ← p.renderer.render sieved.text p.settings with
  | .ok rendered =>
    Logged.emit ⟨"Pipeline completed successfully", .info,
      [("output_len", .count (Text.byteLength rendered))]⟩
    return .ok ⟨rendered, sieved.text, sieved.stats⟩
  | .error f =>
    Logged.emit ⟨"Error rendering diagram", .error, [("error", .text f.asRender.message)]⟩
    return .error f.asRender

def run (p : Plan σ) (job : Job) (s : σ) : Logged (Except Failure Output × σ) :=
  Logged.within
      ⟨"run_pipeline", .info,
        [("files", .count job.files.length), ("excluded", .count job.exclude.size)]⟩ do
    Logged.emit ⟨"Starting pipeline", .info,
      [("mode", .text p.mode.name), ("renderer", .text p.renderer.name)]⟩
    match ← p.loader.combine job.files s with
    | (.ok combined, s) =>
      let r ← p.finish job.exclude combined
      return (r, s)
    | (.error f, s) => return (.error f, s)

end Plan
end EntitySieve
