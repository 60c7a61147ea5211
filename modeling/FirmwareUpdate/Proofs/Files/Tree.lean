import FirmwareUpdate.Files.Tree
import FirmwareUpdate.Proofs.Attempts
import Mathlib.Tactic.Common

/-!
# Where paths lead

A path that leads anywhere leads to a place that can be told from the path alone. As long as no
directory becomes a file, it goes on leading there, so that what a write has left at one path is
what is read at any other path to the same place, and everything else is read as before.
-/

namespace FirmwareUpdate.FileTree

variable {tree after : FileTree} {there : Place} {path : String}

/-! ### Places -/

theorem lookup_replace (entries : List (Place × Entry)) (there other : Place) (entry : Entry) :
  (entries.map fun (place, old) => (place, if place = there then entry else old)).lookup other
    = if other = there then (entries.lookup other).map fun _ => entry else entries.lookup other
  := by
  induction entries with
  | nil => simp
  | cons first entries ih =>
      obtain ⟨place, old⟩ := first
      rw [List.map_cons, List.lookup_cons, List.lookup_cons, ih]
      by_cases hplace : other = place
      · by_cases hthere : place = there
        · simp [hplace, hthere]
        · simp [hplace, hthere]
      · rw [beq_eq_false_iff_ne.mpr hplace]

theorem find?_of_ne_root (h : there ≠ []) :
  tree.find? there = tree.entries.lookup there
  := if_neg (mt List.isEmpty_iff.mp h)

/-- What has been put at a place is there, and everything else is where it was. -/
theorem find?_put (hthere : there ≠ []) (tree : FileTree) (entry : Entry) (other : Place) :
  (tree.put there entry).find? other = if other = there then some entry else tree.find? other
  := by
  by_cases hroot : other = []
  · rw [hroot, if_neg (Ne.symm hthere)]
    rfl
  rw [find?_of_ne_root hroot, find?_of_ne_root hroot, put, find?_of_ne_root hthere]
  split
  case isTrue hsome =>
    dsimp only
    rw [lookup_replace]
    split
    case isTrue heq =>
      obtain ⟨old, hold⟩ := Option.isSome_iff_exists.mp hsome
      rw [heq, hold, Option.map_some]
    case isFalse => rfl
  case isFalse hnone =>
    dsimp only
    rw [List.lookup_append]
    by_cases heq : other = there
    · rw [if_pos heq, heq, Option.not_isSome_iff_eq_none.mp hnone, Option.none_or,
        List.lookup_cons_self]
    · rw [if_neg heq, List.lookup_cons, beq_eq_false_iff_ne.mpr heq, List.lookup_nil,
        Option.or_none]

theorem working_put (tree : FileTree) (there : Place) (entry : Entry) :
  (tree.put there entry).working = tree.working
  := by
  unfold put
  split
  · rfl
  · rfl

/-- The root is a directory. -/
theorem ne_root_of_find? (h : tree.find? there ≠ some .directory) :
  there ≠ []
  := by
  rintro rfl
  exact h rfl

/-! ### Paths -/

/-- The place that a path leads to if it leads anywhere. -/
def destination (tree : FileTree) (path : String) : Place :=
  (Path.names path).foldl step (tree.origin path)

theorem walk_eq {here : Place} {names : List String} (h : tree.walk here names = .ok there) :
  there = names.foldl step here
  := by
  induction names generalizing here with
  | nil => exact (Except.ok.inj h).symm
  | cons name names ih =>
      rw [walk] at h
      split at h
      · cases h
      · cases h
      split at h
      · cases h
      · exact ih h

theorem place_eq (h : tree.place path = .ok there) :
  there = tree.destination path
  := by
  unfold FileTree.place follow at h
  split at h
  · cases h
  split at h
  · cases h
  · exact walk_eq h

/-- Directories stay directories, so that paths go on leading where they led. -/
structure KeepsPaths (tree after : FileTree) : Prop where
  working_eq : after.working = tree.working
  directory : ∀ there, tree.find? there = some .directory → after.find? there = some .directory

namespace KeepsPaths

theorem trans {last : FileTree} (h : tree.KeepsPaths after) (h' : after.KeepsPaths last) :
  tree.KeepsPaths last
  := ⟨h'.working_eq.trans h.working_eq, fun _ hfind => h'.directory _ (h.directory _ hfind)⟩

theorem destination_eq (h : tree.KeepsPaths after) (path : String) :
  after.destination path = tree.destination path
  := by
  unfold destination origin
  rw [h.working_eq]

theorem walk (h : tree.KeepsPaths after) {here : Place} {names : List String}
    (hwalk : tree.walk here names = .ok there) :
  after.walk here names = .ok there
  := by
  induction names generalizing here with
  | nil => exact hwalk
  | cons name names ih =>
      rw [FileTree.walk] at hwalk ⊢
      split at hwalk
      · cases hwalk
      · cases hwalk
      case h_3 hdirectory =>
        rw [h.directory here hdirectory]
        dsimp only
        split at hwalk
        · cases hwalk
        case isFalse hsize =>
          rw [if_neg hsize]
          exact ih hwalk

theorem place (h : tree.KeepsPaths after) (hplace : tree.place path = .ok there) :
  after.place path = .ok there
  := by
  unfold FileTree.place follow origin at hplace ⊢
  rw [h.working_eq]
  split at hplace
  · cases hplace
  case isFalse hempty =>
  split at hplace
  · cases hplace
  case isFalse hsize =>
  rw [if_neg hempty, if_neg hsize]
  exact h.walk hplace

end KeepsPaths

/-- What is put at a place where there is no directory keeps all paths. -/
theorem put_keepsPaths (h : tree.find? there ≠ some .directory) (entry : Entry) :
  tree.KeepsPaths (tree.put there entry)
  := by
  refine ⟨working_put tree there entry, ?_⟩
  intro other hother
  have hne : other ≠ there := by
    rintro rfl
    exact h hother
  rw [find?_put (ne_root_of_find? h), if_neg hne, hother]

/-! ### Reading and writing -/

/-- A file is read at a path that leads to it. -/
theorem read_eq_ok {content : Bytes} :
  tree.read path = .ok content ↔ tree.place path = .ok (tree.destination path)
    ∧ tree.find? (tree.destination path) = some (.file content)
    ∧ Path.endsWithSlash path = false
  := by
  unfold FileTree.read lookup
  cases hplace : tree.place path with
  | error fault =>
      constructor
      · rintro ⟨⟩
      · rintro ⟨⟨⟩, -⟩
  | ok there =>
      obtain rfl := place_eq hplace
      dsimp only [bind, Except.bind]
      cases tree.find? (tree.destination path) with
      | none =>
          constructor
          · rintro ⟨⟩
          · rintro ⟨-, ⟨⟩, -⟩
      | some entry =>
          cases entry with
          | directory =>
              constructor
              · rintro ⟨⟩
              · rintro ⟨-, ⟨⟩, -⟩
          | file old =>
              cases Path.endsWithSlash path with
              | true =>
                  constructor
                  · rintro ⟨⟩
                  · rintro ⟨-, -, ⟨⟩⟩
              | false =>
                  constructor
                  · rintro ⟨⟩
                    exact ⟨rfl, rfl, rfl⟩
                  · rintro ⟨-, ⟨⟩, -⟩
                    rfl

/-- A write puts a file at the place that its path leads to. -/
theorem write_eq_ok {content : Bytes} (h : tree.write path content = .ok after) :
  tree.place path = .ok (tree.destination path)
    ∧ tree.find? (tree.destination path) ≠ some .directory
    ∧ Path.endsWithSlash path = false
    ∧ after = tree.put (tree.destination path) (.file content)
  := by
  unfold FileTree.write at h
  split at h
  case isTrue =>
    obtain ⟨_, -, ⟨⟩⟩ := bind_eq_ok_iff.mp h
  case isFalse hslash =>
    obtain ⟨there, hplace, h⟩ := bind_eq_ok_iff.mp h
    obtain rfl := place_eq hplace
    split at h
    · cases h
    case isFalse hdirectory =>
      exact ⟨hplace, hdirectory, Bool.eq_false_iff.mpr hslash, (Except.ok.inj h).symm⟩

theorem write_keepsPaths {content : Bytes} (h : tree.write path content = .ok after) :
  tree.KeepsPaths after
  := by
  obtain ⟨-, hdirectory, -, rfl⟩ := write_eq_ok h
  exact put_keepsPaths hdirectory _

/-- What has been written is read. -/
theorem read_written {content : Bytes} (h : tree.write path content = .ok after) :
  after.read path = .ok content
  := by
  have hkeeps := write_keepsPaths h
  obtain ⟨hplace, hdirectory, hslash, rfl⟩ := write_eq_ok h
  rw [read_eq_ok, hkeeps.destination_eq]
  refine ⟨hkeeps.place hplace, ?_, hslash⟩
  rw [find?_put (ne_root_of_find? hdirectory), if_pos rfl]

/-- A file is read as before unless its path leads to what has been written. -/
theorem read_write {content old : Bytes} {other : String}
    (h : tree.write path content = .ok after) (hother : tree.read other = .ok old) :
  after.read other
    = .ok (if tree.destination other = tree.destination path then content else old)
  := by
  have hkeeps := write_keepsPaths h
  obtain ⟨-, hdirectory, -, rfl⟩ := write_eq_ok h
  obtain ⟨hplace, hfile, hslash⟩ := read_eq_ok.mp hother
  rw [read_eq_ok, hkeeps.destination_eq]
  refine ⟨hkeeps.place hplace, ?_, hslash⟩
  rw [find?_put (ne_root_of_find? hdirectory), hfile]
  split
  · rfl
  · rfl

/-- A copy empties its target, and then writes there what it reads. -/
theorem copy_eq_ok {source target : String} (h : tree.copy source target = .ok after) :
  ∃ emptied content, tree.write target [] = .ok emptied
    ∧ emptied.read source = .ok content ∧ emptied.write target content = .ok after
  := by
  obtain ⟨_, -, h⟩ := bind_eq_ok_iff.mp h
  obtain ⟨emptied, hempty, h⟩ := bind_eq_ok_iff.mp h
  obtain ⟨content, hread, h⟩ := bind_eq_ok_iff.mp h
  exact ⟨emptied, content, hempty, hread, h⟩

theorem copy_keepsPaths {source target : String} (h : tree.copy source target = .ok after) :
  tree.KeepsPaths after
  := by
  obtain ⟨emptied, content, hempty, -, hwrite⟩ := copy_eq_ok h
  exact (write_keepsPaths hempty).trans (write_keepsPaths hwrite)

/-- A copy has the content of its source. Only nothing is left of a file that is copied to itself,
since the target is emptied before the source is read. -/
theorem read_copied {source target : String} {content : Bytes}
    (h : tree.copy source target = .ok after) (hsource : tree.read source = .ok content) :
  after.read target
    = .ok (if tree.destination source = tree.destination target then [] else content)
  := by
  obtain ⟨emptied, copied, hempty, hread, hwrite⟩ := copy_eq_ok h
  rw [read_write hempty hsource] at hread
  obtain ⟨rfl⟩ := hread
  exact read_written hwrite

/-- An operation that goes well has changed the tree. -/
theorem change_eq_ok {f : FileTree → Except FileFault FileTree}
    (h : change f tree = (.ok (), after)) :
  f tree = .ok after
  := by
  unfold change at h
  split at h
  · cases h
  case h_2 hf =>
    obtain ⟨-, rfl⟩ := Prod.mk.inj h
    exact hf

/-! ### New directories -/

/-- Everything that was in the tree is there, and maybe more. -/
structure Grows (tree after : FileTree) : Prop where
  working_eq : after.working = tree.working
  find? : ∀ there entry, tree.find? there = some entry → after.find? there = some entry

namespace Grows

theorem refl (tree : FileTree) :
  tree.Grows tree
  := ⟨rfl, fun _ _ h => h⟩

theorem trans {last : FileTree} (h : tree.Grows after) (h' : after.Grows last) :
  tree.Grows last
  := ⟨h'.working_eq.trans h.working_eq, fun _ _ hfind => h'.find? _ _ (h.find? _ _ hfind)⟩

theorem keepsPaths (h : tree.Grows after) :
  tree.KeepsPaths after
  := ⟨h.working_eq, fun there => h.find? there .directory⟩

/-- A file that was there is read as before. -/
theorem read {content : Bytes} (h : tree.Grows after) (hread : tree.read path = .ok content) :
  after.read path = .ok content
  := by
  obtain ⟨hplace, hfile, hslash⟩ := read_eq_ok.mp hread
  rw [read_eq_ok, h.keepsPaths.destination_eq]
  exact ⟨h.keepsPaths.place hplace, h.find? _ _ hfile, hslash⟩

end Grows

theorem createDirectory_grows (h : tree.createDirectory path = .ok after) :
  tree.Grows after
  := by
  obtain ⟨there, -, h⟩ := bind_eq_ok_iff.mp h
  split at h
  · cases h
  case isFalse hfind =>
    obtain ⟨rfl⟩ := h
    have hnone : tree.find? there = none := Option.not_isSome_iff_eq_none.mp hfind
    have hroot : there ≠ [] := by
      rintro rfl
      cases hnone
    refine ⟨working_put tree there .directory, ?_⟩
    intro other entry hother
    have hne : other ≠ there := by
      rintro rfl
      rw [hnone] at hother
      cases hother
    rw [find?_put hroot, if_neg hne, hother]

/-- An operation that removes and replaces nothing. -/
def Adds {α : Type} (operation : StateM FileTree α) : Prop :=
  ∀ tree : FileTree, tree.Grows (operation tree).2

namespace Adds

variable {α β : Type}

theorem pure (a : α) :
  Adds (Pure.pure a)
  := Grows.refl

theorem bind {operation : StateM FileTree β} {next : β → StateM FileTree α}
    (h : Adds operation) (hnext : ∀ b, Adds (next b)) :
  Adds (operation >>= next)
  := fun tree => (h tree).trans (hnext _ _)

theorem isDirectory (path : String) :
  Adds (disk.isDirectory path)
  := Grows.refl

theorem createDirectory (path : String) :
  Adds (disk.createDirectory path)
  := by
  intro tree
  change tree.Grows (FileTree.change (fun tree => tree.createDirectory path) tree).2
  unfold FileTree.change
  dsimp only
  split
  case h_1 => exact .refl tree
  case h_2 h => exact createDirectory_grows h

/-- Directories are created beside what is there. -/
theorem createDirectories (paths : List String) :
  Adds (disk.createDirectories paths)
  := by
  induction paths with
  | nil => exact pure _
  | cons path above ih =>
      have hfault : ∀ fault : FileFault, Adds (do
          if ← disk.isDirectory path then return Except.ok () else return .error fault) := by
        intro fault
        apply (isDirectory path).bind
        intro isDirectory
        split
        · exact pure _
        · exact pure _
      rw [Disk.createDirectories]
      apply (createDirectory path).bind
      intro created
      split
      · exact pure _
      · apply ih.bind
        intro made
        split
        · exact pure _
        apply (createDirectory path).bind
        intro again
        split
        · exact pure _
        · apply hfault
      · apply hfault

end Adds

end FirmwareUpdate.FileTree
