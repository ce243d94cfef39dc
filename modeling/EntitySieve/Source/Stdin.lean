import EntitySieve.Source.Loader

/-! Standard input as a source. It can be read to its end only once, so its text is held and served
again. -/
namespace EntitySieve

structure Stdin where
  /-- The bytes that have not been read. -/
  pending : ByteArray
  held : Option Text
  /-- How often the input has been read to its end. -/
  reads : Nat

namespace Stdin

def fresh (bytes : ByteArray) : Stdin := ⟨bytes, none, 0⟩

def sourceName : Text := "-"

/-- Takes all that is left of the input. -/
def drain (s : Stdin) : Stdin := { s with pending := .empty, reads := s.reads + 1 }

def load (s : Stdin) : Logged (Except Failure Text × Stdin) :=
  match s.held with
  | some t => do
    Logged.emit ⟨"Reusing stdin already read", .debug, []⟩
    return (.ok t, s)
  | none =>
    match Text.ofUtf8? s.pending with
    | some t => pure (.ok (stripMark t), { s.drain with held := some (stripMark t) })
    | none => pure (.error (.source "<stdin>" .invalidUtf8), s.drain)

end Stdin

/-- Loads standard input for a hyphen and a file for any other name. -/
def consoleLoader {φ : Type} [FileStore φ] (files : φ) (root : Option Text) : Loader Stdin where
  load id s := if id = Stdin.sourceName then s.load else pure (loadFile files root id, s)

end EntitySieve
