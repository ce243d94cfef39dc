import EntitySieve.Text.CaseTable
import EntitySieve.Text.Basic

/-! Lower-casing with the full mapping: one character may become two, and a capital sigma that ends
a word has a form of its own. -/
namespace EntitySieve.Text

def inRanges (rs : List (Nat × Nat)) (c : Char) : Bool :=
  rs.any fun r => r.1 ≤ c.toNat && c.toNat ≤ r.2

def lowerChar (c : Char) : Char :=
  let n := c.toNat
  match lowerRuns.find? fun r => r.1 ≤ n && n ≤ r.2.1 && (n - r.1) % r.2.2.1 == 0 with
  | some r => Char.ofNat ((n : Int) + r.2.2.2).toNat
  | none => c

/-- Whether the first character that is not case-ignorable is cased. -/
def meetsCased (t : Text) : Bool :=
  match t.dropWhile (inRanges caseIgnorableRanges) with
  | c :: _ => inRanges casedRanges c
  | [] => false

/-- Lower-cases the second text, which follows the first one, given in reverse. -/
def lowerAfter : Text → Text → Text
  | _, [] => []
  | before, c :: t =>
    let low : Text :=
      if c = 'Σ' then [if meetsCased before && !meetsCased t then 'ς' else 'σ']
      else if c = 'İ' then ['i', Char.ofNat 0x307]
      else [lowerChar c]
    low ++ lowerAfter (c :: before) t

def lowercase (t : Text) : Text := lowerAfter [] t

end EntitySieve.Text
