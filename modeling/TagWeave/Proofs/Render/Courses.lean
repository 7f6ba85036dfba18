import Mathlib.Data.List.Perm.Subperm
import TagWeave.Render.Resolution

/-!
# Courses of pools

When tasks end, and in which order, is up to the machine. All that is known of it is that
no task ends that has not been begun, and that without a deadline all of these are waited
for. Workers that begin a task as soon as they are free are a case of this.
-/

namespace TagWeave.Course

/-- The courses that a pool can take without a deadline: all tasks that have been begun are waited for,
and others are cancelled only if one of these has failed. -/
structure Complete (course : Course) : Prop where
  ended : ∀ begun, (course.ended begun).Perm begun
  cancels : ∀ begun, course.cancels begun = true → ∃ task ∈ begun, task.failed = true

theorem map_timetable (free : List Nat) (tasks : List Task) :
    (timetable free tasks).1.map (·.2) = tasks := by
  induction tasks generalizing free with
  | nil => cases free <;> rfl
  | cons task tasks ih =>
      cases free with
      | nil =>
          rw [timetable, List.map_map]
          exact List.map_id _
      | cons free others => rw [timetable, List.map_cons, ih]

theorem insertInTime_perm {α : Type} (time : α → Nat) (x : α) (xs : List α) :
    (insertInTime time x xs).Perm (x :: xs) := by
  induction xs with
  | nil => exact .refl _
  | cons first rest ih =>
      rw [insertInTime]
      split
      · exact .refl _
      · exact (ih.cons first).trans (.swap ..)

theorem foldl_insertInTime_perm {α : Type} (time : α → Nat) (xs sorted : List α) :
    (xs.foldl (fun sorted x => insertInTime time x sorted) sorted).Perm (xs ++ sorted) := by
  induction xs generalizing sorted with
  | nil => exact .refl _
  | cons x xs ih =>
      exact (ih _).trans (((insertInTime_perm time x sorted).append_left xs).trans
        List.perm_middle)

theorem prompt_complete (workers : Nat) : (prompt workers false).Complete := by
  have timed := map_timetable (List.replicate workers 0)
  constructor
  · intro begun
    have sorted := foldl_insertInTime_perm (·.1) (timetable (List.replicate workers 0) begun).1 []
    simpa [prompt, timed] using sorted.map (·.2)
  · intro begun cancelled
    simp only [prompt, Bool.false_and, Bool.false_or, List.any_eq_true, Bool.and_eq_true] at cancelled
    obtain ⟨⟨time, task⟩, among, -, failed⟩ := cancelled
    exact ⟨task, timed begun ▸ List.mem_map_of_mem among, failed⟩

end TagWeave.Course
