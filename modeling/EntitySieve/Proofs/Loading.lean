import EntitySieve.Source.Stdin

/-! Loading as a function of the names. Sources that depend on their names alone load one after the
other up to the first that fails. Standard input is such a source too, although it can be read only
once: what is gone from it is what its loader holds. -/
namespace EntitySieve

/-- Source texts in a row, each with a line feed after it. -/
def joinSources (ts : List Text) : Text := ts.flatMap (· ++ ['\n'])

namespace Loader

/-- The joined texts of sources that depend on their names alone, or the first failure. -/
def joined (load : Text → Except Failure Text) (ids : List Text) : Except Failure Text :=
  (ids.mapM load).map joinSources

@[simp] theorem joined_nil (load : Text → Except Failure Text) : joined load [] = .ok [] := rfl

theorem joined_cons_ok {load : Text → Except Failure Text} {id t : Text} (h : load id = .ok t)
    (ids : List Text) :
    joined load (id :: ids) = (joined load ids).map fun u => t ++ '\n' :: u := by
  simp only [joined, List.mapM_cons, h]
  cases ids.mapM load <;> simp [bind, Except.bind, pure, Except.pure, Except.map, joinSources]

theorem joined_cons_error {load : Text → Except Failure Text} {id : Text} {f : Failure}
    (h : load id = .error f) (ids : List Text) : joined load (id :: ids) = .error f := by
  simp [joined, h, bind, Except.bind, Except.map]

theorem joined_eq_error_iff {load : Text → Except Failure Text} {ids : List Text} {f : Failure} :
    joined load ids = .error f ↔
      ∃ id, ids.find? (fun i => !(load i).isOk) = some id ∧ load id = .error f := by
  induction ids with
  | nil => simp
  | cons id ids ih =>
    cases h : load id with
    | error g => simp [joined_cons_error h, h, Except.isOk, Except.toBool]
    | ok t =>
      rw [joined_cons_ok h, List.find?_cons_of_neg (by simp [h, Except.isOk, Except.toBool]), ← ih]
      cases joined load ids <;> simp [Except.map]

theorem joined_eq_ok_iff {load : Text → Except Failure Text} {ids : List Text} {u : Text} :
    joined load ids = .ok u ↔ ∃ ts : List Text, ids.map load = ts.map .ok ∧ u = joinSources ts := by
  induction ids generalizing u with
  | nil => simp [joinSources, eq_comm]
  | cons id ids ih =>
    cases h : load id with
    | error g =>
      rw [joined_cons_error h]
      constructor
      · intro hu
        contradiction
      · rintro ⟨ts, hts, -⟩
        cases ts <;> simp [h] at hts
    | ok t =>
      rw [joined_cons_ok h]
      constructor
      · intro hu
        cases hjoined : joined load ids with
        | error f => simp [hjoined, Except.map] at hu
        | ok v =>
          obtain ⟨ts, hts, rfl⟩ := ih.mp hjoined
          refine ⟨t :: ts, by simp [h, hts], ?_⟩
          simpa [hjoined, Except.map, joinSources, eq_comm] using hu
      · rintro ⟨ts, hts, rfl⟩
        cases ts with
        | nil => simp at hts
        | cons t' ts =>
          simp only [List.map_cons, h, List.cons.injEq, Except.ok.injEq] at hts
          obtain ⟨rfl, hts⟩ := hts
          rw [ih.mpr ⟨ts, hts, rfl⟩]
          simp [Except.map, joinSources]

theorem exists_joined_eq_ok_iff {load : Text → Except Failure Text} {ids : List Text} :
    (∃ t, joined load ids = .ok t) ↔ ∀ id ∈ ids, ∃ t, load id = .ok t := by
  induction ids with
  | nil => simp
  | cons id ids ih =>
    rw [List.forall_mem_cons, ← ih]
    cases h : load id with
    | error f => simp [joined_cons_error h]
    | ok t =>
      rw [joined_cons_ok h]
      cases joined load ids <;> simp [Except.map]

variable {σ : Type}

/-- A loader answers as a function of the names does, as long as it is ready. A load leaves it
ready if it succeeds, and in any case in a state that may be its last. -/
structure Serves (l : Loader σ) (load : Text → Except Failure Text) (Ready Last : σ → Prop) :
    Prop where
  last_of_ready : ∀ {s}, Ready s → Last s
  value : ∀ {s} id, Ready s → (l.load id s).value.1 = load id
  ready : ∀ {s} id t, Ready s → load id = .ok t → Ready (l.load id s).value.2
  last : ∀ {s} id, Ready s → Last (l.load id s).value.2

/-- Loading stops at the first failure, so no load meets a loader that is not ready. -/
theorem Serves.loadAll {l : Loader σ} {load : Text → Except Failure Text} {Ready Last : σ → Prop}
    (h : l.Serves load Ready Last) (ids : List Text) {s : σ} (hs : Ready s) :
    (l.loadAll ids s).value.1 = joined load ids ∧ Last (l.loadAll ids s).value.2 := by
  induction ids generalizing s with
  | nil => exact ⟨rfl, h.last_of_ready hs⟩
  | cons id ids ih =>
    have hvalue := h.value id hs
    have hlast := h.last id hs
    cases hload : load id with
    | error f =>
      rw [joined_cons_error hload]
      generalize hx : (l.load id s).value = x at hvalue hlast
      obtain ⟨r, s'⟩ := x
      obtain rfl : r = .error f := hvalue.trans hload
      exact ⟨by simp [Loader.loadAll, hx], by simpa [Loader.loadAll, hx] using hlast⟩
    | ok t =>
      have hready := h.ready id t hs hload
      rw [joined_cons_ok hload]
      generalize hx : (l.load id s).value = x at hvalue hready
      obtain ⟨r, s'⟩ := x
      obtain rfl : r = .ok t := hvalue.trans hload
      obtain ⟨hrest, hlast'⟩ := ih hready
      exact ⟨by simp [Loader.loadAll, hx, hrest], by simpa [Loader.loadAll, hx] using hlast'⟩

theorem serves_ofFunction (load : Text → Except Failure Text) :
    (ofFunction load).Serves load (fun _ => True) (fun _ => True) where
  last_of_ready _ := trivial
  value _ _ := rfl
  ready _ _ _ _ := trivial
  last _ _ := trivial

theorem combine_ofFunction (load : Text → Except Failure Text) (ids : List Text) :
    ((ofFunction load).combine ids ()).value.1 = joined load ids :=
  ((serves_ofFunction load).loadAll ids trivial).1

end Loader
end EntitySieve
