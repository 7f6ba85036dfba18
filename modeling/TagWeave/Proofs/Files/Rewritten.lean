import Mathlib.Data.List.Basic
import TagWeave.Files.Tree

/-!
# Files that are written again

A file that is written again is found where it was, with its new contents, and all else is
found as before.
-/

namespace TagWeave.FileTree

variable {tree : FileTree} {location : List String} {bytes : List UInt8}

theorem entry?_setEntry_file (there : tree.entry? location = some (.file bytes))
    (bytes' : List UInt8) (other : List String) :
    FileTree.entry? (tree.setEntry location (.file bytes')) other =
      if other = location then some (.file bytes') else tree.entry? other := by
  have nonempty : location ≠ [] := by
    rintro rfl
    cases there
  rw [setEntry, there, Option.isSome_some, if_pos rfl, entry?, entry?]
  rw [ entry?, if_neg (by simpa using nonempty)] at there
  cases other with
  | nil => simp [nonempty.symm]
  | cons name names =>
      have keys (e : List String × FileEntry) :
          (if e.1 = location then (location, FileEntry.file bytes') else e).1 = e.1 := by
        split
        · next same => exact same.symm
        · rfl
      simp only [List.isEmpty_cons, Bool.false_eq_true, if_false, List.find?_map, Function.comp_def,
        keys, Option.map_map]
      by_cases here : name :: names = location
      · subst here
        rw [if_pos rfl]
        cases found : tree.entries.find? (·.1 = name :: names) with
        | none =>
            rw [found] at there
            cases there
        | some e =>
            have same : e.1 = name :: names := by simpa using List.find?_some found
            simp [same]
      · rw [if_neg here]
        cases found : tree.entries.find? (·.1 = name :: names) with
        | none => rfl
        | some e =>
            have same : e.1 = name :: names := by simpa using List.find?_some found
            simp [same, here]

theorem walk_setEntry_file (there : tree.entry? location = some (.file bytes))
    (bytes' : List UInt8) (start names : List String) :
    (tree.setEntry location (.file bytes')).walk start names = tree.walk start names := by
  induction names generalizing start with
  | nil => rfl
  | cons name names ih =>
      rw [walk, walk, entry?_setEntry_file there]
      by_cases here : start = location
      · rw [if_pos here, here, there]
      · rw [if_neg here, ih, ih]
        cases tree.entry? start with
        | none => rfl
        | some entry =>
            cases entry with
            | file => rfl
            | directory =>
                simp only
                -- The file is there as well, if the name leads to it.
                rw [entry?_setEntry_file there]
                by_cases next : start ++ [name] = location
                · rw [if_pos next, next, there]
                  simp only [ih]
                · rw [if_neg next]
                  simp only [ih]

/-- A file that was found at a path is found there with its new contents. -/
theorem locate_setEntry_file {path : String}
    (found : tree.locate path = .ok (location, .file bytes)) (bytes' : List UInt8) :
    (tree.setEntry location (.file bytes')).locate path = .ok (location, .file bytes') := by
  rw [locate] at found ⊢
  split at found
  · cases found
  · next nonempty =>
    rw [if_neg nonempty]
    split at found
    · cases found
    · next short =>
      rw [if_neg short]
      split at found
      · cases found
      · next location' walked =>
        split at found
        · next entry there =>
          cases found
          have same : (tree.setEntry location (.file bytes')).current = tree.current := by
            rw [setEntry, there]
            rfl
          rw [same, walk_setEntry_file there, walked]
          simp only [entry?_setEntry_file there, if_true]
        · cases found

end TagWeave.FileTree
