import EntitySieve.Failure

/-! Paths of files. -/
namespace EntitySieve

/-- A path in parts: whether it starts from the root, the names that it walks through, the name that
it ends in and whether a solidus follows that. -/
structure Path where
  absolute : Bool
  through : List Text
  last : Option Text
  slashed : Bool

namespace Path

def maxNameBytes : Nat := 255

/-- The bytes of a path, with the one that ends it. -/
def maxBytes : Nat := 4096

def ofText (t : Text) : Path :=
  let names := (t.splitOn '/').filter fun n => !n.isEmpty
  { absolute := t.head? = some '/'
    through := names.dropLast
    last := names.getLast?
    slashed := t.getLast? = some '/' }

/-- A path relative to a directory; an absolute one stays as it is. -/
def join (root id : Text) : Text :=
  if id.head? = some '/' || root.isEmpty then id
  else if root.getLast? = some '/' then root ++ id
  else root ++ '/' :: id

/-- Where a source lies, below a root if there is one. -/
def below (root : Option Text) (id : Text) : Text := root.elim id fun r => join r id

/-- Reads a path unless it cannot be one. -/
def parse (t : Text) : Except IoCause Path :=
  if Char.ofNat 0 ∈ t then .error .nulInName
  else if t.isEmpty then .error .notFound
  else if maxBytes ≤ Text.byteLength t then .error .nameTooLong
  else .ok (ofText t)

end Path

end EntitySieve
