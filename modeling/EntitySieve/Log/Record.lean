import EntitySieve.Text.Basic

/-! A log is a forest: a span holds what happened inside it, an event holds nothing. A computation
that logs returns its value with its log, and no value depends on a log. -/
namespace EntitySieve

inductive Level where
  | error | warn | info | debug | trace
  deriving DecidableEq, Repr

namespace Level

/-- The less severe the level, the greater its rank. -/
def rank : Level → Nat
  | error => 0
  | warn => 1
  | info => 2
  | debug => 3
  | trace => 4

def name : Level → Text
  | error => "error"
  | warn => "warn"
  | info => "info"
  | debug => "debug"
  | trace => "trace"

def all : List Level := [error, warn, info, debug, trace]

/-- Whether a log that goes down to `least` shows this level; one that is off shows none. -/
def shownAt (l : Level) (least : Option Level) : Bool := least.any fun m => l.rank ≤ m.rank

end Level

inductive FieldValue where
  | count (n : Nat)
  | flag (b : Bool)
  | text (t : Text)
  deriving DecidableEq

abbrev Fields := List (Text × FieldValue)

structure Span where
  name : Text
  level : Level
  fields : Fields
  deriving DecidableEq

structure Event where
  message : Text
  level : Level
  fields : Fields
  deriving DecidableEq

inductive Record where
  | event (e : Event)
  | span (s : Span) (inside : List Record)

structure Logged (α : Type) where
  value : α
  log : List Record

namespace Logged

instance : Monad Logged where
  pure a := ⟨a, []⟩
  bind x f :=
    let y := f x.value
    ⟨y.value, x.log ++ y.log⟩

def emit (e : Event) : Logged Unit := ⟨(), [.event e]⟩

/-- Runs a computation inside a span. -/
def within (s : Span) {α : Type} (x : Logged α) : Logged α := ⟨x.value, [.span s x.log]⟩

variable {α β : Type}

@[simp] theorem pure_value (a : α) : (pure a : Logged α).value = a := rfl

@[simp] theorem pure_log (a : α) : (pure a : Logged α).log = [] := rfl

@[simp] theorem bind_value (x : Logged α) (f : α → Logged β) :
    (x >>= f).value = (f x.value).value := rfl

@[simp] theorem bind_log (x : Logged α) (f : α → Logged β) :
    (x >>= f).log = x.log ++ (f x.value).log := rfl

@[simp] theorem emit_log (e : Event) : (emit e).log = [.event e] := rfl

@[simp] theorem within_value (s : Span) (x : Logged α) : (within s x).value = x.value := rfl

@[simp] theorem within_log (s : Span) (x : Logged α) : (within s x).log = [.span s x.log] := rfl

end Logged
end EntitySieve
