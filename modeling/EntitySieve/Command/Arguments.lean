import EntitySieve.Command.Option

/-! Reading arguments from left to right. The first fault stops the reading, and so does a question
for help or for the version. -/
namespace EntitySieve

/-- Why the arguments ask for no command. -/
inductive Stop where
  | misuse
  | help
  | version
  deriving DecidableEq, Repr

/-- What an argument leaves open. -/
inductive Expectation where
  | nothing
  | value (k : OptionKey)
  | unknown

inductive Argument where
  | word
  | terminator
  | options (uses : List OptionUse) (expected : Expectation)

namespace Argument

/-- The options in a row of letters. The letters after one that takes a value are its value, less an
equals sign in front. -/
def readLetters (keys : List OptionKey) : Text → List OptionUse × Expectation
  | [] => ([], .nothing)
  | c :: cs =>
    match keys.find? fun k => k.short? = some c with
    | none => ([], .unknown)
    | some k =>
      if k.takesValue then
        match cs with
        | [] => ([], .value k)
        | '=' :: v => ([⟨k, v⟩], .nothing)
        | v => ([⟨k, v⟩], .nothing)
      else
        let r := readLetters keys cs
        (⟨k, []⟩ :: r.1, r.2)

/-- The option that a name stands for, with the value after its equals sign. -/
def readName (keys : List OptionKey) (t : Text) : List OptionUse × Expectation :=
  match keys.find? fun k => k.long = t.takeWhile (· ≠ '=') with
  | none => ([], .unknown)
  | some k =>
    match t.dropWhile (· ≠ '='), k.takesValue with
    | _ :: v, true => ([⟨k, v⟩], .nothing)
    | _ :: _, false => ([], .unknown)
    | [], true => ([], .value k)
    | [], false => ([⟨k, []⟩], .nothing)

/-- A hyphen alone is a word. -/
def read (keys : List OptionKey) : Text → Argument
  | ['-', '-'] => .terminator
  | '-' :: '-' :: t => let r := readName keys t; .options r.1 r.2
  | '-' :: c :: t => let r := readLetters keys (c :: t); .options r.1 r.2
  | _ => .word

/-- Whether an argument can be the value of the option before it. -/
def isValue (t : Text) : Bool := t = ['-'] || t.head? != some '-'

end Argument

/-- Adds a use to the earlier ones before or after the command. -/
def addUse (uses : List OptionUse) (u : OptionUse) : Except Stop (List OptionUse) :=
  match u.key with
  | .help => .error .help
  | .version => .error .version
  | k =>
    if (!k.repeats && OptionUse.isUsed k uses) || !k.accepts u.value then .error .misuse
    else .ok (uses ++ [u])

/-- Reads options up to the first word; gives their uses, and the arguments from that word on. -/
def readOptions (keys : List OptionKey) : List OptionUse → List Text →
    Except Stop (List OptionUse × List Text)
  | uses, [] => .ok (uses, [])
  | uses, a :: as =>
    match Argument.read keys a with
    | .word => .ok (uses, a :: as)
    | .terminator => if as.isEmpty then .ok (uses, []) else .error .misuse
    | .options more expected => do
      let uses ← more.foldlM addUse uses
      match expected with
      | .nothing => readOptions keys uses as
      | .unknown => .error .misuse
      | .value k =>
        match as with
        | [] => .error .misuse
        | v :: as =>
          if Argument.isValue v then do
            let uses ← addUse uses ⟨k, v⟩
            readOptions keys uses as
          else .error .misuse

end EntitySieve
