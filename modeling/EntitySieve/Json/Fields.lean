import EntitySieve.Json.Quoted

/-! The fields of a record that is written as JSON. -/
namespace EntitySieve.Json

/-- The value of a member that occurs exactly once. -/
def only? (name : Text) (ms : List (Text × Json)) : Option Json :=
  match ms.filter fun m => m.1 = name with
  | [m] => some m.2
  | _ => none

/-- The values of the named fields, in the order of the names. An object holds each name once, in
any order and among others; an array holds the values alone. -/
def fields? (names : List Text) : Json → Option (List Json)
  | .object ms => do
    let ms ← ms.mapM fun m => (unescape? m.1).map (·, m.2)
    names.mapM (only? · ms)
  | .array xs => if xs.length = names.length then some xs else none
  | _ => none

end EntitySieve.Json
