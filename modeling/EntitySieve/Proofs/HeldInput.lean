import EntitySieve.Proofs.Loading

/-! Standard input among other sources. Its text is what a first reading finds, however often and
wherever it is asked for, and no second reading takes place: a loader that has read the input holds
its text, unless the input holds none and loading ends there. -/
namespace EntitySieve

namespace Stdin

/-- Standard input as a source that can be loaded again and again. -/
def content (input : ByteArray) : Except Failure Text :=
  match Text.ofUtf8? input with
  | some t => .ok (stripMark t)
  | none => .error (.source "<stdin>" .invalidUtf8)

/-- Either nothing has been read, or all has been read and its text is held. -/
inductive Ready (input : ByteArray) : Stdin → Prop where
  | unread : Ready input (fresh input)
  | held {t : Text} (h : content input = .ok t) :
      Ready input { (fresh input).drain with held := some t }

section Ready
variable {input : ByteArray} {s : Stdin}

theorem Ready.reads_le_one (h : Ready input s) : s.reads ≤ 1 := by
  cases h <;> simp [fresh, drain]

theorem Ready.load_value (h : Ready input s) : s.load.value.1 = content input := by
  cases h with
  | unread =>
    rw [content]
    cases ht : Text.ofUtf8? input <;> simp [load, fresh, ht]
  | held ht => exact ht.symm

theorem Ready.load_ready {t : Text} (h : Ready input s) (ht : content input = .ok t) :
    Ready input s.load.value.2 := by
  cases h with
  | unread =>
    have hheld := Ready.held ht
    cases hu : Text.ofUtf8? input with
    | none => simp [content, hu] at ht
    | some u =>
      obtain rfl : stripMark u = t := by simpa [content, hu] using ht
      simpa [load, fresh, hu] using hheld
  | held ht' => exact .held ht'

theorem Ready.load_reads (h : Ready input s) : s.load.value.2.reads ≤ 1 := by
  cases h with
  | unread => cases ht : Text.ofUtf8? input <;> simp [load, fresh, drain, ht]
  | held ht => exact (Ready.held ht).reads_le_one

end Ready
end Stdin

variable {φ : Type} [FileStore φ]

/-- What a name stands for: the whole of standard input for a hyphen, and a file for any other. -/
def sourceText (files : φ) (root : Option Text) (input : ByteArray) (id : Text) :
    Except Failure Text :=
  if id = Stdin.sourceName then Stdin.content input else loadFile files root id

theorem serves_consoleLoader (files : φ) (root : Option Text) (input : ByteArray) :
    (consoleLoader files root).Serves (sourceText files root input) (Stdin.Ready input)
      (·.reads ≤ 1) where
  last_of_ready h := h.reads_le_one
  value id h := by
    by_cases hid : id = Stdin.sourceName <;> simp [consoleLoader, sourceText, hid, h.load_value]
  ready id t h ht := by
    by_cases hid : id = Stdin.sourceName
    · rw [sourceText, if_pos hid] at ht
      simpa [consoleLoader, hid] using h.load_ready ht
    · simpa [consoleLoader, hid] using h
  last id h := by
    by_cases hid : id = Stdin.sourceName
    · simpa [consoleLoader, hid] using h.load_reads
    · simpa [consoleLoader, hid] using h.reads_le_one

/-- Joining sources with standard input among them gives what it would give if the input could be
read anew for each hyphen, and reads the input once at most. -/
theorem combine_consoleLoader (files : φ) (root : Option Text) (input : ByteArray)
    (ids : List Text) :
    ((consoleLoader files root).combine ids (Stdin.fresh input)).value.1 =
        ((Loader.ofFunction (sourceText files root input)).combine ids ()).value.1 ∧
      ((consoleLoader files root).combine ids (Stdin.fresh input)).value.2.reads ≤ 1 := by
  rw [Loader.combine_ofFunction]
  exact (serves_consoleLoader files root input).loadAll ids .unread

end EntitySieve
