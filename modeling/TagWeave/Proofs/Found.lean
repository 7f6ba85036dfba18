import Mathlib.Data.List.Nodup

/-!
# What is found in a list

What can be found only once is found in every order. In a list of entries that has each key
once, what is found for a key is what stands under it.
-/

namespace TagWeave

/-- What can be found only once is found in every order. -/
theorem find?_perm {α : Type} {p : α → Bool} {l l' : List α} (perm : l.Perm l')
    (once : ∀ a ∈ l, ∀ b ∈ l, p a = true → p b = true → a = b) : l.find? p = l'.find? p := by
  cases found : l'.find? p with
  | none =>
      rw [List.find?_eq_none] at found ⊢
      exact fun a ha => found a (perm.mem_iff.mp ha)
  | some b =>
      have there := perm.mem_iff.mpr (List.mem_of_find?_eq_some found)
      cases found' : l.find? p with
      | none => exact absurd (List.find?_some found) (List.find?_eq_none.mp found' b there)
      | some a =>
          rw [once a (List.mem_of_find?_eq_some found') b there (List.find?_some found')
            (List.find?_some found)]

section Entries

variable {α β : Type} [DecidableEq α] {entries : List (α × β)} {key : α} {value : β}

theorem mem_of_find?_key (found : (entries.find? (·.1 = key)).map (·.2) = some value) :
    (key, value) ∈ entries := by
  obtain ⟨entry, there, rfl⟩ := Option.map_eq_some_iff.mp found
  have same : entry.1 = key := by simpa using List.find?_some there
  rw [← same]
  exact List.mem_of_find?_eq_some there

theorem find?_key_eq_some_iff (once : (entries.map (·.1)).Nodup) :
    (entries.find? (·.1 = key)).map (·.2) = some value ↔ (key, value) ∈ entries := by
  refine ⟨mem_of_find?_key, fun among => ?_⟩
  have isSome : (entries.find? (·.1 = key)).isSome := List.find?_isSome.mpr ⟨_, among, by simp⟩
  obtain ⟨entry, found⟩ := Option.isSome_iff_exists.mp isSome
  have same : entry.1 = key := by simpa using List.find?_some found
  rw [found, List.inj_on_of_nodup_map once (List.mem_of_find?_eq_some found) among same]
  rfl

end Entries

end TagWeave
