/-! Texts are lists of characters, so that lines, joins and searches are list functions and obey the
laws of lists. -/
namespace EntitySieve

abbrev Text := List Char

/-- A string literal stands for the text it spells. -/
instance : Coe String Text := ⟨String.toList⟩

namespace Text

/-- The pieces between line feeds; the empty text has one empty line. -/
def lines (t : Text) : List Text := t.splitOn '\n'

def ofLines (ls : List Text) : Text := ['\n'].intercalate ls

@[simp] theorem ofLines_lines (t : Text) : ofLines (lines t) = t :=
  List.intercalate_splitOn '\n'

theorem lines_ofLines {ls : List Text} (h : ∀ l ∈ ls, '\n' ∉ l) (hne : ls ≠ []) :
    lines (ofLines ls) = ls :=
  List.splitOn_intercalate '\n' h hne

/-- Lines as an editor counts them: a carriage return before the line feed belongs to the line's
end, and a final line feed starts no further line. -/
def endedLines (t : Text) : List Text :=
  let ls := lines t
  let whole := ls.dropLast.map fun l => if l.getLast? = some '\r' then l.dropLast else l
  match ls.getLast? with
  | some (c :: l) => whole ++ [c :: l]
  | _ => whole

/-- Whether `m` occurs in the text without a gap. -/
def contains (m : Text) : Text → Bool
  | [] => m.isEmpty
  | c :: t => m.isPrefixOf (c :: t) || contains m t

theorem contains_iff {m t : Text} : contains m t = true ↔ m <:+: t := by
  induction t with
  | nil => simp [contains]
  | cons c t ih => simp [contains, ih, List.infix_cons_iff]

/-- The length in UTF-8 bytes. -/
def byteLength : Text → Nat
  | [] => 0
  | c :: t => c.utf8Size + byteLength t

@[simp] theorem byteLength_append (s t : Text) :
    byteLength (s ++ t) = byteLength s + byteLength t := by
  induction s with
  | nil => simp [byteLength]
  | cons c s ih => simp [byteLength, ih, Nat.add_assoc]

/-- The text that the bytes encode in UTF-8, if they encode one. -/
def ofUtf8? (bytes : ByteArray) : Option Text := (String.fromUTF8? bytes).map String.toList

def toUtf8 (t : Text) : ByteArray := (String.ofList t).toUTF8

/-- Texts in a row, set apart by a comma and a space. -/
def listed (ts : List Text) : Text := [',', ' '].intercalate ts

end Text
end EntitySieve
