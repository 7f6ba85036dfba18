import Mathlib.Data.List.Basic

/-!
# What lasts in a history

In a list of events, the latest one last, an event lasts if nothing that came after it
undoes it.
-/

namespace TagWeave

variable {α : Type}

/-- An event happened, and nothing has undone it since. -/
def Lasting (undoes : α → Prop) (events : List α) (event : α) : Prop :=
  ∃ before since, events = before ++ event :: since ∧ ∀ later ∈ since, ¬ undoes later

variable {undoes : α → Prop} {events : List α} {event : α}

theorem not_lasting_nil : ¬ Lasting undoes [] event := by
  rintro ⟨before, since, split, -⟩
  simp at split

theorem Lasting.mem (lasting : Lasting undoes events event) : event ∈ events := by
  obtain ⟨before, since, rfl, -⟩ := lasting
  exact List.mem_append_right _ (List.mem_cons_self ..)

/-- One more event lasts itself, and so does what lasted before unless it is undone. -/
theorem lasting_concat {last : α} :
    Lasting undoes (events ++ [last]) event ↔
      last = event ∨ (Lasting undoes events event ∧ ¬ undoes last) := by
  constructor
  · rintro ⟨before, since, split, kept⟩
    -- the event is either the last one or among those before it
    rcases List.eq_nil_or_concat since with rfl | ⟨since, final, rfl⟩
    · exact .inl (List.singleton_inj.mp (List.append_inj' split rfl).2)
    · rw [List.concat_eq_append, ← List.cons_append, ← List.append_assoc] at split
      obtain ⟨same, ended⟩ := List.append_inj' split rfl
      rw [← List.singleton_inj.mp ended, List.concat_eq_append, List.forall_mem_append] at kept
      exact .inr ⟨⟨before, since, same, kept.1⟩, kept.2 _ (List.mem_singleton_self _)⟩
  · rintro (rfl | ⟨⟨before, since, rfl, kept⟩, kept'⟩)
    · exact ⟨events, [], rfl, by simp⟩
    · refine ⟨before, since ++ [last], by simp, ?_⟩
      exact List.forall_mem_append.mpr ⟨kept, List.forall_mem_singleton.mpr kept'⟩

/-- What lasts came after whatever undoes it. -/
theorem Lasting.since {earlier later : List α} {undoing : α}
    (lasting : Lasting undoes (earlier ++ undoing :: later) event) (undone : undoes undoing)
    (other : undoing ≠ event) : Lasting undoes later event := by
  obtain ⟨before, since, split, kept⟩ := lasting
  rcases List.append_eq_append_iff.mp split with ⟨between, -, left⟩ | ⟨between, -, right⟩
  · cases between with
    | nil => exact absurd (List.cons.inj left).1 other
    | cons _ between => exact ⟨between, since, (List.cons.inj left).2, kept⟩
  · cases between with
    | nil => exact absurd (List.cons.inj right).1.symm other
    | cons _ between =>
        rw [(List.cons.inj right).2] at kept
        exact absurd undone (kept undoing (List.mem_append_right _ (List.mem_cons_self ..)))

end TagWeave
