import EntitySieve.Json.Number
import EntitySieve.Json.Quoted

/-! Reading JSON. The reader takes strict JSON with any layout; its fuel is a bound on the number of
values and list items, and the length of a text bounds both. -/
namespace EntitySieve.Json

def isSpace (c : Char) : Bool := c == ' ' || c == '\n' || c == '\t' || c == '\r'

def skipSpace (t : Text) : Text := t.dropWhile isSpace

/-- What follows a word that the text has to start with. -/
def after? (word t : Text) : Option Text :=
  if word.isPrefixOf t then some (t.drop word.length) else none

/-- The body of a string whose opening quote has been read, and what follows the closing quote. -/
def splitBody : Text → Option (Text × Text)
  | [] => none
  | '"' :: t => some ([], t)
  | '\\' :: c :: t => (splitBody t).map fun p => ('\\' :: c :: p.1, p.2)
  | c :: t => (splitBody t).map fun p => (c :: p.1, p.2)

def readBody (t : Text) : Option (Text × Text) := (splitBody t).filter fun p => isBody p.1

/-- No character of a number can follow one, so a number ends where such characters end. -/
def readNumber (t : Text) : Option (Json × Text) :=
  let literal := t.takeWhile isNumberChar
  if isNumber literal then some (.number literal, t.dropWhile isNumberChar) else none

def readWord (t : Text) : Option (Json × Text) :=
  ((after? "null" t).map (Json.null, ·)) <|>
    ((after? "true" t).map (Json.bool true, ·)) <|>
      ((after? "false" t).map (Json.bool false, ·))

mutual

def readValue : Nat → Text → Option (Json × Text)
  | 0, _ => none
  | fuel + 1, t =>
    match skipSpace t with
    | '"' :: t => (readBody t).map fun p => (.string p.1, p.2)
    | '[' :: t =>
      match skipSpace t with
      | ']' :: t => some (.array [], t)
      | t => (readItems fuel t).map fun p => (.array p.1, p.2)
    | '{' :: t =>
      match skipSpace t with
      | '}' :: t => some (.object [], t)
      | t => (readMembers fuel t).map fun p => (.object p.1, p.2)
    | t => readWord t <|> readNumber t

/-- Items up to the closing bracket; at least one. -/
def readItems : Nat → Text → Option (List Json × Text)
  | 0, _ => none
  | fuel + 1, t => do
    let (x, t) ← readValue fuel t
    match skipSpace t with
    | ',' :: t =>
      let (xs, t) ← readItems fuel t
      return (x :: xs, t)
    | ']' :: t => return ([x], t)
    | _ => none

/-- Members up to the closing brace; at least one. -/
def readMembers : Nat → Text → Option (List (Text × Json) × Text)
  | 0, _ => none
  | fuel + 1, t => do
    let (k, t) ← match skipSpace t with
      | '"' :: t => readBody t
      | _ => none
    let t ← after? ":" (skipSpace t)
    let (x, t) ← readValue fuel t
    match skipSpace t with
    | ',' :: t =>
      let (ms, t) ← readMembers fuel t
      return ((k, x) :: ms, t)
    | '}' :: t => return ([(k, x)], t)
    | _ => none

end

/-- The value that a text starts with, and the text after it. -/
def readFirst? (t : Text) : Option (Json × Text) := readValue (2 * t.length + 2) t

/-- The value that a text holds, with only space around it. -/
def read? (t : Text) : Option Json :=
  match readFirst? t with
  | some (v, rest) => if rest.all isSpace then some v else none
  | none => none

end EntitySieve.Json
