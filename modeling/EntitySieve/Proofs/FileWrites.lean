import EntitySieve.Proofs.Steps
import EntitySieve.Source.FileTree
import EntitySieve.Source.Snapshot

/-! Writing one file, by the laws that the files of a tree and of a snapshot keep. In a tree it is
settled before anything is written where a path leads, and whether a file can be written there. A
write then puts its content in that one place; every other file and every directory stays as it was,
and every path leads where it led. -/
namespace EntitySieve

namespace FileStore

variable {φ κ : Type} [FileStore φ] {file : φ → Text → κ}

/-- One file was written and nothing else: every path that leads to it reads the content, and every
other path reads what it did, if anything. -/
structure WroteOnly (file : φ → Text → κ) (files : φ) (path : Text) (content : ByteArray)
    (after : φ) : Prop where
  there : ∀ other, file files other = file files path → read after other = .ok content
  elsewhere : ∀ other, file files other ≠ file files path →
    (read after other).toOption = (read files other).toOption

theorem Lawful.wroteOnly (hlawful : Lawful file) {files after : φ} {path : Text}
    {content : ByteArray} (h : write files path content = .ok after) :
    WroteOnly file files path content after where
  there _ hsame := hlawful.read_written h hsame
  elsewhere _ hother := hlawful.read_other h hother

end FileStore

namespace FileTree

variable {working : List Text}

section Put
variable {tree : FileTree working} {place : Place} {content : ByteArray}

theorem lookup_filter_of_ne {other : Place} (h : other ≠ place) (fs : List (Place × ByteArray)) :
    (fs.filter fun f => f.1 ≠ place).lookup other = fs.lookup other := by
  induction fs with
  | nil => rfl
  | cons f fs ih =>
    by_cases hf : f.1 = place
    · rw [List.filter_cons_of_neg (by simpa using hf), ih, List.lookup_cons,
        beq_false_of_ne (hf ▸ h)]
    · rw [List.filter_cons_of_pos (by simpa using hf), List.lookup_cons, List.lookup_cons, ih]

theorem content?_put (other : Place) :
    (tree.put place content).content? other =
      if other = place then some content else tree.content? other := by
  by_cases hother : other = place
  · simp [content?, put, hother]
  · simp only [content?, put, List.lookup_cons, beq_false_of_ne hother, if_neg hother]
    exact lookup_filter_of_ne hother tree.files

theorem isDirectory_iff :
    tree.isDirectory place = true ↔
      place <+: Place.root ++ working ∨
        (∃ d ∈ tree.directories, place <+: d) ∨ ∃ f ∈ tree.files, place <+: f.1.dropLast := by
  simp [isDirectory]

theorem isDirectory_of_prefix {below : Place} (h : place <+: below)
    (hbelow : tree.isDirectory below = true) : tree.isDirectory place = true := by
  rw [isDirectory_iff] at hbelow ⊢
  rcases hbelow with hworking | ⟨d, hd, hbelow⟩ | ⟨f, hf, hbelow⟩
  · exact .inl (h.trans hworking)
  · exact .inr (.inl ⟨d, hd, h.trans hbelow⟩)
  · exact .inr (.inr ⟨f, hf, h.trans hbelow⟩)

/-- A file that is put in a directory adds no directory. -/
theorem isDirectory_put (h : tree.isDirectory place.dropLast = true) (other : Place) :
    (tree.put place content).isDirectory other = tree.isDirectory other := by
  apply Bool.eq_iff_iff.mpr
  constructor
  · intro hother
    rcases isDirectory_iff.mp hother with hworking | hlisted | ⟨f, hf, hprefix⟩
    · exact isDirectory_iff.mpr (.inl hworking)
    · exact isDirectory_iff.mpr (.inr (.inl hlisted))
    · rcases List.mem_cons.mp hf with rfl | hf
      · exact isDirectory_of_prefix hprefix h
      · exact isDirectory_iff.mpr (.inr (.inr ⟨f, (List.mem_filter.mp hf).1, hprefix⟩))
  · intro hother
    rcases isDirectory_iff.mp hother with hworking | hlisted | ⟨f, hf, hprefix⟩
    · exact isDirectory_iff.mpr (.inl hworking)
    · exact isDirectory_iff.mpr (.inr (.inl hlisted))
    · refine isDirectory_iff.mpr (.inr (.inr ?_))
      by_cases hplace : f.1 = place
      · exact ⟨(place, content), List.mem_cons_self, hplace ▸ hprefix⟩
      · exact ⟨f, List.mem_cons_of_mem _ (List.mem_filter.mpr ⟨hf, by simpa using hplace⟩), hprefix⟩

end Put

/-- A name that an entry of a directory can have. -/
def IsEntryName (name : Text) : Prop :=
  name ≠ ['.'] ∧ name ≠ ['.', '.'] ∧ Text.byteLength name ≤ Path.maxNameBytes

/-- The ways in which a name stands for something in a directory. -/
inductive Finds (tree : FileTree working) (place : Place) (name : Text) : Found → Prop where
  | here (hname : name = ['.']) : Finds tree place name (.directory place)
  | above (hname : name = ['.', '.']) :
      Finds tree place name (.directory (Place.parent working place))
  | directory {there : Place} (hname : IsEntryName name)
      (hthere : there = Place.settle working (place ++ [name]))
      (hdirectory : tree.isDirectory there = true) : Finds tree place name (.directory there)
  | file {there : Place} {content : ByteArray} (hname : IsEntryName name)
      (hthere : there = Place.settle working (place ++ [name]))
      (hdirectory : tree.isDirectory there = false)
      (hcontent : tree.content? there = some content) : Finds tree place name (.file there content)
  | absent {there : Place} (hname : IsEntryName name)
      (hthere : there = Place.settle working (place ++ [name]))
      (hdirectory : tree.isDirectory there = false)
      (hcontent : tree.content? there = none) : Finds tree place name (.absent there)

section Find
variable {tree : FileTree working} {place : Place} {name : Text}

theorem find_eq_ok_iff {found : Found} :
    tree.find place name = .ok found ↔ tree.Finds place name found := by
  constructor
  · intro h
    unfold find at h
    split at h
    · rename_i hname
      cases h
      exact .here hname
    split at h
    · rename_i hname
      cases h
      exact .above hname
    split at h
    · contradiction
    rename_i hdot hdots hlong
    have hname : IsEntryName name := ⟨hdot, hdots, Nat.le_of_not_lt hlong⟩
    dsimp only at h
    split at h
    · rename_i hdirectory
      cases h
      exact .directory hname rfl hdirectory
    · rename_i hdirectory
      have hdirectory := Bool.eq_false_iff.mpr hdirectory
      split at h
      · rename_i hcontent
        cases h
        exact .file hname rfl hdirectory hcontent
      · rename_i hcontent
        cases h
        exact .absent hname rfl hdirectory hcontent
  · intro h
    cases h with
    | here hname | above hname => simp [find, hname]
    | directory hname hthere hdirectory =>
      subst hthere
      simp [find, hname.1, hname.2.1, Nat.not_lt_of_le hname.2.2, hdirectory]
    | file hname hthere hdirectory hcontent | absent hname hthere hdirectory hcontent =>
      subst hthere
      simp [find, hname.1, hname.2.1, Nat.not_lt_of_le hname.2.2, hdirectory, hcontent]

theorem enter_eq_ok_iff {there : Place} :
    tree.enter place name = .ok there ↔ tree.Finds place name (.directory there) := by
  rw [← find_eq_ok_iff]
  simp only [enter, bind, Except.bind]
  cases tree.find place name with
  | error cause => simp
  | ok found => cases found <;> simp

end Find

section Walk
variable {tree after : FileTree working} {place there : Place} {name : Text}

theorem isDirectory_settle (h : place <+: Place.root ++ working) :
    tree.isDirectory (Place.settle working place) = true := by
  rw [isDirectory_iff]
  unfold Place.settle
  split
  · exact .inl List.nil_prefix
  · exact .inl h

theorem isDirectory_start (p : Path) : tree.isDirectory (Place.start working p) = true := by
  unfold Place.start
  split
  · exact isDirectory_settle (List.prefix_append Place.root working)
  · exact isDirectory_iff.mpr (.inl List.nil_prefix)

theorem isDirectory_parent (h : tree.isDirectory place = true) :
    tree.isDirectory (Place.parent working place) = true := by
  unfold Place.parent
  split
  · exact isDirectory_settle ((List.prefix_append_right_inj _).mpr (List.dropLast_prefix working))
  · split
    · exact isDirectory_iff.mpr (.inl (List.prefix_append Place.root working))
    · exact isDirectory_of_prefix (List.dropLast_prefix _) h

theorem Finds.isDirectory (h : tree.Finds place name (.directory there))
    (hplace : tree.isDirectory place = true) : tree.isDirectory there = true := by
  cases h with
  | here => exact hplace
  | above => exact isDirectory_parent hplace
  | directory _ _ hdirectory => exact hdirectory

/-- A walk stands in a directory. -/
theorem isDirectory_of_walk {p : Path} (h : tree.walk p = .ok place) :
    tree.isDirectory place = true :=
  foldlM_keeps (fun hplace hnext => (enter_eq_ok_iff.mp hnext).isDirectory hplace) h
    (isDirectory_start p)

/-- A walk needs nothing of a tree but its directories. -/
theorem walk_congr (hdirectory : ∀ d, after.isDirectory d = tree.isDirectory d) {p : Path}
    (h : tree.walk p = .ok place) : after.walk p = .ok place := by
  refine foldlM_congr (fun hnext => ?_) h
  rw [enter_eq_ok_iff] at hnext ⊢
  cases hnext with
  | here hname => exact .here hname
  | above hname => exact .above hname
  | directory hname hthere hd => exact .directory hname hthere ((hdirectory _).trans hd)

end Walk

section Target
variable {tree after : FileTree working} {path : Text} {place : Place} {content : ByteArray}

/-- A path leads to a file, present or not, by a name that no directory has in the directory that it
walks to. -/
theorem target_eq_ok_iff :
    tree.target path = .ok place ↔
      ∃ p dir name, Path.parse path = .ok p ∧ tree.walk p = .ok dir ∧ p.last = some name ∧
        p.slashed = false ∧ IsEntryName name ∧ place = Place.settle working (dir ++ [name]) ∧
        tree.isDirectory place = false := by
  constructor
  · intro h
    obtain ⟨p, hparse, h⟩ := bind_eq_ok_iff.mp h
    obtain ⟨dir, hwalk, h⟩ := bind_eq_ok_iff.mp h
    split at h
    · contradiction
    rename_i name hlast
    split at h
    · contradiction
    rename_i hslashed
    obtain ⟨found, hfound, h⟩ := bind_eq_ok_iff.mp h
    have hslashed := Bool.eq_false_iff.mpr hslashed
    cases find_eq_ok_iff.mp hfound with
    | here | above | directory => contradiction
    | file hname hthere hdirectory | absent hname hthere hdirectory =>
      cases h
      exact ⟨p, dir, name, hparse, hwalk, hlast, hslashed, hname, hthere, hdirectory⟩
  · rintro ⟨p, dir, name, hparse, hwalk, hlast, hslashed, hname, hthere, hdirectory⟩
    simp only [target, hparse, hwalk, hlast, hslashed, bind, Except.bind]
    cases hcontent : tree.content? place with
    | none => rw [find_eq_ok_iff.mpr (.absent hname hthere hdirectory hcontent)]; rfl
    | some c => rw [find_eq_ok_iff.mpr (.file hname hthere hdirectory hcontent)]; rfl

/-- What can be read is the content of the file that the path leads to. -/
theorem read_eq_ok_iff :
    tree.read path = .ok content ↔
      ∃ place, tree.target path = .ok place ∧ tree.content? place = some content := by
  constructor
  · intro h
    obtain ⟨p, hparse, h⟩ := bind_eq_ok_iff.mp h
    obtain ⟨found, hlocate, h⟩ := bind_eq_ok_iff.mp h
    obtain ⟨dir, hwalk, hfound⟩ := bind_eq_ok_iff.mp hlocate
    cases found with
    | directory | absent => contradiction
    | file there c =>
      dsimp only at h
      split at h
      · contradiction
      rename_i hslashed
      cases h
      split at hfound
      · rename_i name hlast
        cases find_eq_ok_iff.mp hfound with
        | file hname hthere hdirectory hcontent =>
          exact ⟨there, target_eq_ok_iff.mpr ⟨p, dir, name, hparse, hwalk, hlast,
            Bool.eq_false_iff.mpr hslashed, hname, hthere, hdirectory⟩, hcontent⟩
      · cases hfound
  · rintro ⟨place, htarget, hcontent⟩
    obtain ⟨p, dir, name, hparse, hwalk, hlast, hslashed, hname, hthere, hnone⟩ :=
      target_eq_ok_iff.mp htarget
    have hfinds : tree.Finds dir name (.file place content) := .file hname hthere hnone hcontent
    simp only [read, locate, hparse, hwalk, hlast, hslashed, find_eq_ok_iff.mpr hfinds, bind,
      Except.bind]
    rfl

theorem target_congr (hdirectory : ∀ d, after.isDirectory d = tree.isDirectory d)
    (h : tree.target path = .ok place) : after.target path = .ok place := by
  rw [target_eq_ok_iff] at h ⊢
  obtain ⟨p, dir, name, hparse, hwalk, hlast, hslashed, hname, hthere, hnone⟩ := h
  exact ⟨p, dir, name, hparse, walk_congr hdirectory hwalk, hlast, hslashed, hname, hthere,
    (hdirectory _).trans hnone⟩

/-- A file is put in a directory. -/
theorem isDirectory_dropLast_of_target (h : tree.target path = .ok place) :
    tree.isDirectory place.dropLast = true := by
  obtain ⟨p, dir, name, -, hwalk, -, -, -, hthere, hnone⟩ := target_eq_ok_iff.mp h
  unfold Place.settle at hthere
  split at hthere
  · rw [hthere, isDirectory_iff.mpr (.inl List.nil_prefix)] at hnone
    contradiction
  · rw [hthere, List.dropLast_concat]
    exact isDirectory_of_walk hwalk

theorem target_put (h : tree.target path = .ok place) {other : Text} {there : Place} :
    (tree.put place content).target other = .ok there ↔ tree.target other = .ok there := by
  have hdirectory : ∀ d, (tree.put place content).isDirectory d = tree.isDirectory d :=
    isDirectory_put (isDirectory_dropLast_of_target h)
  exact ⟨target_congr fun d => (hdirectory d).symm, target_congr hdirectory⟩

theorem read_put (h : tree.target path = .ok place) {other : Text} {c : ByteArray} :
    (tree.put place content).read other = .ok c ↔
      ∃ there, tree.target other = .ok there ∧
        (if there = place then some content else tree.content? there) = some c := by
  simp only [read_eq_ok_iff, target_put h, content?_put]

theorem write_eq_ok_iff :
    tree.write path content = .ok after ↔
      ∃ place, tree.target path = .ok place ∧ after = tree.put place content := by
  simp only [write, bind_eq_ok_iff, pure, Except.pure, Except.ok.injEq, @eq_comm _ after]

end Target

/-- Paths lead to the same file if they lead to the same place, whether they start from the root or
from the working directory. -/
theorem lawful : FileStore.Lawful fun (tree : FileTree working) path => tree.target path where
  read_written := by
    intro tree after path other content hwrite hsame
    obtain ⟨place, htarget, rfl⟩ := write_eq_ok_iff.mp hwrite
    exact (read_put htarget).mpr ⟨place, hsame.trans htarget, if_pos rfl⟩
  read_other := by
    intro tree after path other content hwrite hother
    obtain ⟨place, htarget, rfl⟩ := write_eq_ok_iff.mp hwrite
    refine toOption_congr fun c => ?_
    refine (read_put htarget).trans (Iff.trans ?_ read_eq_ok_iff.symm)
    refine exists_congr fun there => and_congr_right fun hthere => ?_
    rw [if_neg]
    rintro rfl
    exact hother (hthere.trans htarget.symm)

end FileTree

namespace Snapshot

theorem eq_of_write {s after : Snapshot} {path : Text} {content : ByteArray}
    (h : s.write path content = .ok after) :
    after = { s.add path (.ok content) with written := some (path, content) } := by
  unfold write at h
  split at h
  · contradiction
  · exact (Except.ok.inj h).symm

/-- A snapshot, over which the program itself runs, tells files apart by their paths alone. -/
theorem lawful : FileStore.Lawful fun (_ : Snapshot) path => path where
  read_written := by
    rintro s after path _ content hwrite rfl
    rw [eq_of_write hwrite]
    simp [FileStore.read, read, add]
  read_other := by
    intro s after path other content hwrite hother
    rw [eq_of_write hwrite]
    simp [FileStore.read, read, add, List.lookup_cons, beq_false_of_ne hother]

end Snapshot
end EntitySieve
