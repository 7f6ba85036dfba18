import Mathlib.Data.List.Basic
import Mathlib.Data.List.Induction
import Mathlib.Data.String.Basic
import TagWeave.Text.Order

/-!
# Sets of texts and their order

A set that is built by adding texts has each of them once, and a set that is shown
has the same texts in ascending order. A list without repetitions is its own set.
-/

namespace TagWeave.Text

theorem mem_addTo {set : List String} {s t : String} : t ∈ addTo set s ↔ t ∈ set ∨ t = s := by
  unfold addTo
  split
  · next present =>
    rw [List.contains_iff_mem] at present
    refine ⟨Or.inl, ?_⟩
    rintro (h | rfl)
    · exact h
    · exact present
  · simp

theorem nodup_addTo {set : List String} (h : set.Nodup) (s : String) : (addTo set s).Nodup := by
  unfold addTo
  split
  · exact h
  · next absent =>
    rw [List.contains_iff_mem] at absent
    refine List.nodup_append.mpr ⟨h, by simp, ?_⟩
    rintro a ha b hb rfl
    rw [List.mem_singleton.mp hb] at ha
    exact absent ha

theorem mem_foldl_addTo {set texts : List String} {t : String} :
    t ∈ texts.foldl addTo set ↔ t ∈ set ∨ t ∈ texts := by
  induction texts generalizing set with
  | nil => simp
  | cons s texts ih =>
      rw [List.foldl_cons, ih, mem_addTo, List.mem_cons, or_assoc]

theorem nodup_foldl_addTo {set : List String} (h : set.Nodup) (texts : List String) :
    (texts.foldl addTo set).Nodup := by
  induction texts generalizing set with
  | nil => exact h
  | cons s texts ih => exact ih (nodup_addTo h s)

@[simp] theorem mem_distinct {texts : List String} {t : String} :
    t ∈ distinct texts ↔ t ∈ texts := by
  simp [distinct, mem_foldl_addTo]

theorem nodup_distinct (texts : List String) : (distinct texts).Nodup :=
  nodup_foldl_addTo List.nodup_nil texts

theorem foldl_addTo_of_nodup {set texts : List String} (h : (set ++ texts).Nodup) :
    texts.foldl addTo set = set ++ texts := by
  induction texts generalizing set with
  | nil => simp
  | cons s texts ih =>
      have absent : s ∉ set := by
        intro present
        exact (List.nodup_append.mp h).2.2 s present s (List.mem_cons_self ..) rfl
      rw [List.foldl_cons, addTo, if_neg (by simpa using absent), ih (by simpa using h)]
      simp

theorem distinct_of_nodup {texts : List String} (h : texts.Nodup) : distinct texts = texts := by
  rw [distinct, foldl_addTo_of_nodup (by simpa using h), List.nil_append]

/-- Of a text that occurs several times, the first occurrence is kept. -/
theorem distinct_eq_eraseDups (texts : List String) : distinct texts = texts.eraseDups := by
  induction texts using List.reverseRecOn with
  | nil => rfl
  | append_singleton texts s ih =>
      rw [distinct, List.foldl_append, ← distinct, List.foldl_cons, List.foldl_nil, addTo,
        List.eraseDups_append, ← ih]
      by_cases among : s ∈ texts
      · simp [List.removeAll, among]
      · simp [List.removeAll, among, List.eraseDups_cons]

/-! ### Ascending order -/

theorem atMost_iff {a b : String} : atMost a b = true ↔ a ≤ b := by
  rw [atMost, Bool.not_eq_true', decide_eq_false_iff_not, not_lt]

theorem perm_sorted (texts : List String) : (sorted texts).Perm texts :=
  List.mergeSort_perm texts atMost

theorem pairwise_sorted (texts : List String) : (sorted texts).Pairwise (· ≤ ·) := by
  have ordered := @List.pairwise_mergeSort _ atMost
    (fun a b c hab hbc => atMost_iff.mpr (le_trans (atMost_iff.mp hab) (atMost_iff.mp hbc)))
    (fun a b => by
      rw [Bool.or_eq_true, atMost_iff, atMost_iff]
      exact le_total a b) texts
  exact ordered.imp atMost_iff.mp

/-- The order in which texts are given does not show. -/
theorem sorted_eq_of_perm {texts texts' : List String} (perm : texts.Perm texts') :
    sorted texts = sorted texts' := by
  have same : (sorted texts).Perm (sorted texts') :=
    (perm_sorted texts).trans (perm.trans (perm_sorted texts').symm)
  exact same.eq_of_pairwise (fun _ _ _ _ => le_antisymm) (pairwise_sorted texts)
    (pairwise_sorted texts')

/-- Without repetitions the order is strict. -/
theorem pairwise_lt_sorted {texts : List String} (h : texts.Nodup) :
    (sorted texts).Pairwise (· < ·) := by
  have hne : (sorted texts).Nodup := (perm_sorted texts).nodup_iff.mpr h
  exact (pairwise_sorted texts).imp₂ (fun _ _ => lt_of_le_of_ne) hne

end TagWeave.Text
