import Mathlib.Data.List.Forall2
import EntitySieve.Json.Fields
import EntitySieve.Proofs.JsonGrammar

/-! Records. What is found in an object does not depend on the order of its members, on members of
other names, or on how the names are written. -/
namespace EntitySieve.Json

theorem mapM_eq_some_iff {α β : Type _} {f : α → Option β} {xs : List α} {ys : List β} :
    xs.mapM f = some ys ↔ List.Forall₂ (fun x y => f x = some y) xs ys := by
  induction xs generalizing ys with
  | nil => simp [eq_comm]
  | cons x xs ih =>
    rw [List.mapM_cons, List.forall₂_cons_left_iff]
    simp only [Option.bind_eq_bind, Option.bind_eq_some_iff, Option.pure_def, Option.some.injEq, ih]
    constructor
    · rintro ⟨y, hy, ys, hys, rfl⟩
      exact ⟨y, ys, hy, hys, rfl⟩
    · rintro ⟨y, ys, hy, hys, rfl⟩
      exact ⟨y, hy, ys, hys, rfl⟩

/-- Members under the names that theirs stand for, with or without escapes. -/
def Named (ms ns : List (Text × Json)) : Prop :=
  List.Forall₂ (fun m n => unescape? m.1 = some n.1 ∧ m.2 = n.2) ms ns

theorem mapM_unescape?_eq_some_iff {ms ns : List (Text × Json)} :
    ms.mapM (fun m => (unescape? m.1).map (·, m.2)) = some ns ↔ Named ms ns := by
  have hname (m n : Text × Json) :
      (unescape? m.1).map (·, m.2) = some n ↔ unescape? m.1 = some n.1 ∧ m.2 = n.2 := by
    simp [Option.map_eq_some_iff, Prod.ext_iff]
  simp only [mapM_eq_some_iff, hname, Named]

/-- Objects that have the known members in any order, and any others of other names among them. -/
def HasMembers (known : List (Text × Json)) : Json → Prop
  | .object ms => ∃ ns others, Named ms ns ∧ ns.Perm (known ++ others) ∧
      ∀ m ∈ others, m.1 ∉ known.map (·.1)
  | _ => False

/-- Objects that have exactly these members, in this order. -/
def IsRecord (ns : List (Text × Json)) : Json → Prop
  | .object ms => Named ms ns
  | _ => False

theorem IsRecord.unique {ns ns' : List (Text × Json)} {v : Json} (h : v.IsRecord ns)
    (h' : v.IsRecord ns') : ns = ns' := by
  cases v with
  | object ms =>
    have hns := mapM_unescape?_eq_some_iff.mpr h
    exact Option.some.inj (hns.symm.trans (mapM_unescape?_eq_some_iff.mpr h'))
  | null | bool | number | string | array => exact h.elim

theorem IsRecord.hasMembers {ns : List (Text × Json)} {v : Json} (h : v.IsRecord ns) :
    v.HasMembers ns := by
  cases v with
  | object ms => exact ⟨ns, [], h, by simp, by simp⟩
  | null | bool | number | string | array => exact h.elim

/-- The values that stand in the place of a field: of a member with its name, or the item at its
place. -/
inductive HasField (names : List Text) (name : Text) : Json → Json → Prop where
  | member {ms : List (Text × Json)} {k : Text} {x : Json} (hk : unescape? k = some name)
      (h : (k, x) ∈ ms) : HasField names name (.object ms) x
  | item {xs : List Json} {i : Nat} {x : Json} (hi : names[i]? = some name) (h : xs[i]? = some x) :
      HasField names name (.array xs) x

section Only
variable {name : Text} {x : Json} {known others ms ns : List (Text × Json)}

theorem only?_eq_some_iff :
    only? name ms = some x ↔ ms.filter (fun m => m.1 = name) = [(name, x)] := by
  rw [only?]
  split
  · rename_i m h
    have hm : m ∈ ms.filter fun m => m.1 = name := by simp [h]
    have hname : m.1 = name := by simpa using (List.mem_filter.mp hm).2
    rw [h]
    simp [Prod.ext_iff, hname]
  · rename_i h
    simpa using h (name, x)

theorem filter_name_of_nodup (h : (known.map (·.1)).Nodup) {m : Text × Json} (hm : m ∈ known) :
    known.filter (fun n => n.1 = m.1) = [m] := by
  induction known with
  | nil => contradiction
  | cons k known ih =>
    rw [List.map_cons, List.nodup_cons] at h
    obtain ⟨hk, hknown⟩ := h
    rcases List.mem_cons.mp hm with rfl | hm
    · have hnone : known.filter (fun n => n.1 = m.1) = [] := by
        rw [List.filter_eq_nil_iff]
        intro n hn
        have hmem : n.1 ∈ known.map (·.1) := List.mem_map_of_mem hn
        simpa using ne_of_mem_of_not_mem hmem hk
      simp [hnone]
    · have hmem : m.1 ∈ known.map (·.1) := List.mem_map_of_mem hm
      simp [(ne_of_mem_of_not_mem hmem hk).symm, ih hknown hm]

/-- Neither order nor members of other names matter to the member that has a known name. -/
theorem only?_of_perm (h : (known.map (·.1)).Nodup) (hperm : ns.Perm (known ++ others))
    (hothers : ∀ m ∈ others, m.1 ∉ known.map (·.1)) {m : Text × Json} (hm : m ∈ known) :
    only? m.1 ns = some m.2 := by
  -- Of the members with this name none is among the others and one among the known ones.
  have hnone : others.filter (fun n => n.1 = m.1) = [] := by
    rw [List.filter_eq_nil_iff]
    intro n hn
    have hmem : m.1 ∈ known.map (·.1) := List.mem_map_of_mem hm
    simpa using (ne_of_mem_of_not_mem hmem (hothers n hn)).symm
  have hfilter := hperm.filter fun n => n.1 = m.1
  rw [List.filter_append, hnone, filter_name_of_nodup h hm, List.append_nil,
    List.perm_singleton] at hfilter
  exact only?_eq_some_iff.mpr hfilter

theorem eq_of_only? (h : only? name ns = some x) {y : Json} (hy : (name, y) ∈ ns) : y = x := by
  have hmem : (name, y) ∈ ns.filter fun m => m.1 = name := by simp [hy]
  rw [only?_eq_some_iff.mp h] at hmem
  simpa using hmem

end Only

/-- The reader of a record finds in such an object the known members. -/
theorem fields?_of_hasMembers {known : List (Text × Json)} {v : Json} (h : v.HasMembers known)
    (hnodup : (known.map (·.1)).Nodup) :
    fields? (known.map (·.1)) v = some (known.map (·.2)) := by
  cases v with
  | object ms =>
    obtain ⟨ns, others, hnamed, hperm, hothers⟩ := h
    have hread : (known.map (·.1)).mapM (only? · ns) = some (known.map (·.2)) := by
      rw [mapM_eq_some_iff, List.forall₂_map_left_iff, List.forall₂_map_right_iff,
        List.forall₂_same]
      exact fun m hm => only?_of_perm hnodup hperm hothers hm
    rw [fields?, mapM_unescape?_eq_some_iff.mpr hnamed]
    exact hread
  | null | bool | number | string | array => exact h.elim

theorem exists_getElem?_of_forall₂ {α β : Type _} {R : α → β → Prop} {xs : List α} {ys : List β}
    {i : Nat} {x : α} (h : List.Forall₂ R xs ys) (hx : xs[i]? = some x) :
    ∃ y, ys[i]? = some y ∧ R x y := by
  induction h generalizing i with
  | nil => simp at hx
  | cons hxy _ ih =>
    cases i with
    | zero =>
      obtain rfl := Option.some.inj hx
      exact ⟨_, rfl, hxy⟩
    | succ i => exact ih hx

/-- What stands in the place of a field is what the reader of a record finds for it. -/
theorem getElem?_of_fields? {names : List Text} {v x : Json} {ys : List Json} {i : Nat}
    {name : Text} (hnodup : names.Nodup) (h : fields? names v = some ys)
    (hi : names[i]? = some name) (hx : v.HasField names name x) : ys[i]? = some x := by
  cases hx with
  | @member ms k _ hk hmem =>
    simp only [fields?, Option.bind_eq_bind, Option.bind_eq_some_iff,
      mapM_unescape?_eq_some_iff] at h
    obtain ⟨ns, hns, hys⟩ := h
    obtain ⟨j, hj⟩ := List.mem_iff_getElem?.mp hmem
    obtain ⟨n, hn, hname, hvalue⟩ := exists_getElem?_of_forall₂ hns hj
    have hmem : (name, x) ∈ ns := by
      have heq : n = (name, x) := Prod.ext (Option.some.inj (hname.symm.trans hk)) hvalue.symm
      exact heq ▸ List.mem_of_getElem? hn
    obtain ⟨y, hy, honly⟩ := exists_getElem?_of_forall₂ (mapM_eq_some_iff.mp hys) hi
    rw [hy, eq_of_only? honly hmem]
  | @item xs j _ hj hmem =>
    have hplace : i = j := by
      obtain ⟨hlt, -⟩ := List.getElem?_eq_some_iff.mp hi
      exact (List.getElem?_inj hlt hnodup).mp (hi.trans hj.symm)
    simp only [fields?] at h
    split at h
    · obtain rfl := Option.some.inj h
      rw [hplace, hmem]
    · contradiction

section Write
variable {ms : List (Text × Json)}

theorem wellFormed_ofText (t : Text) : WellFormed (.ofText t) := .string (isBody_escape t)

/-- An object whose members are named by texts. -/
def ofMembers (ms : List (Text × Json)) : Json := .object (ms.map fun m => member m.1 m.2)

theorem wellFormed_ofMembers (h : ∀ m ∈ ms, WellFormed m.2) : WellFormed (ofMembers ms) := by
  refine .object ?_ ?_ <;> intro m hm <;> obtain ⟨m, hms, rfl⟩ := List.mem_map.mp hm
  · exact isBody_escape m.1
  · exact h m hms

theorem isRecord_ofMembers (ms : List (Text × Json)) : (ofMembers ms).IsRecord ms := by
  rw [ofMembers, IsRecord, Named, List.forall₂_map_left_iff, List.forall₂_same]
  simp [member]

end Write

end EntitySieve.Json
