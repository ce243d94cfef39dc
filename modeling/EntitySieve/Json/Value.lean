import EntitySieve.Text.Basic

/-! JSON values as they are written. A number keeps its literal and a string the body between its
quotes, so reading a text loses nothing but the layout. -/
namespace EntitySieve

inductive Json where
  | null
  | bool (b : Bool)
  | number (literal : Text)
  | string (body : Text)
  | array (items : List Json)
  | object (members : List (Text × Json))

/-- What stands between the tokens of a written value. -/
structure JsonLayout where
  /-- Before an item, and at the end of the last one, at a depth of nesting. -/
  lineBreak : Nat → Text
  colon : Text

namespace JsonLayout

def compact : JsonLayout := ⟨fun _ => [], ":"⟩

def indented : JsonLayout := ⟨fun depth => '\n' :: List.replicate (2 * depth) ' ', ": "⟩

end JsonLayout

namespace Json

def quoted (body : Text) : Text := '"' :: (body ++ ['"'])

mutual

/-- The text of a value at a depth. Empty brackets stand together in every layout. -/
def write (l : JsonLayout) (depth : Nat) : Json → Text
  | .null => "null"
  | .bool b => if b then "true" else "false"
  | .number literal => literal
  | .string body => quoted body
  | .array [] => "[]"
  | .array (x :: xs) =>
    '[' :: (l.lineBreak (depth + 1) ++ x.write l (depth + 1) ++ writeItems l (depth + 1) xs ++
      l.lineBreak depth ++ [']'])
  | .object [] => ['{', '}']
  | .object ((k, x) :: ms) =>
    '{' :: (l.lineBreak (depth + 1) ++ quoted k ++ l.colon ++ x.write l (depth + 1) ++
      writeMembers l (depth + 1) ms ++ l.lineBreak depth ++ ['}'])

/-- The items after the first. -/
def writeItems (l : JsonLayout) (depth : Nat) : List Json → Text
  | [] => []
  | x :: xs => ',' :: (l.lineBreak depth ++ x.write l depth ++ writeItems l depth xs)

/-- The members after the first. -/
def writeMembers (l : JsonLayout) (depth : Nat) : List (Text × Json) → Text
  | [] => []
  | (k, x) :: ms =>
    ',' :: (l.lineBreak depth ++ quoted k ++ l.colon ++ x.write l depth ++ writeMembers l depth ms)

end

def compact (v : Json) : Text := v.write .compact 0

def indented (v : Json) : Text := v.write .indented 0

end Json
end EntitySieve
