import Mathlib.Data.List.Induction
import TagWeave.Proofs.Found
import TagWeave.ViewTag.Substitution

/-!
# The order of replacements

If no two resolved tags share a needle, each needle is replaced by the content of its
tag, in whatever order the tags come. Needles that begin at the same place of a text
differ in length, so the longest one does not depend on the order either.
-/

namespace TagWeave

namespace Replacements

variable {rs rs' : Replacements} {n t : List Char}

/-- Each needle has one replacement. -/
def Keyed (rs : Replacements) : Prop := (rs.map (·.1)).Nodup

theorem keys_set (rs : Replacements) (needle text : List Char) :
    (rs.set needle text).map (·.1) =
      if needle ∈ rs.map (·.1) then rs.map (·.1) else rs.map (·.1) ++ [needle] := by
  induction rs with
  | nil => rfl
  | cons r rs ih =>
      rw [set]
      by_cases same : r.1 = needle
      · rw [if_pos same, List.map_cons, List.map_cons, if_pos (by simp [same])]
      · rw [if_neg same, List.map_cons, List.map_cons, ih]
        by_cases present : needle ∈ rs.map (·.1)
        · rw [if_pos present, if_pos (List.mem_cons_of_mem _ present)]
        · rw [if_neg present, if_neg, List.cons_append]
          rintro (_ | ⟨_, there⟩)
          · exact same rfl
          · exact present there

theorem Keyed.set (keyed : rs.Keyed) (needle text : List Char) : (rs.set needle text).Keyed := by
  rw [Keyed, keys_set]
  split
  · exact keyed
  · next absent =>
    rw [← List.concat_eq_append]
    exact .concat absent keyed

theorem mem_set (keyed : rs.Keyed) {needle text : List Char} : (n, t) ∈ rs.set needle text ↔
    (n = needle ∧ t = text) ∨ (n ≠ needle ∧ (n, t) ∈ rs) := by
  induction rs with
  | nil => simp [set]
  | cons r rs ih =>
      obtain ⟨absent, keyed⟩ := List.nodup_cons.mp keyed
      rw [set]
      by_cases same : r.1 = needle
      · have other : (n, t) ∈ rs → n ≠ needle := by
          rintro there rfl
          exact absent (List.mem_map.mpr ⟨(n, t), there, same.symm⟩)
        rw [if_pos same, List.mem_cons, List.mem_cons, Prod.mk.injEq, ← same]
        grind
      · rw [if_neg same, List.mem_cons, List.mem_cons, ih keyed]
        grind

/-- The needles of a tag are all set to one text. -/
theorem mem_foldl_set (keyed : rs.Keyed) {needles : List String} {text : List Char} :
    (n, t) ∈ needles.foldl (fun rs needle => rs.set needle.toList text) rs ↔
      (t = text ∧ ∃ needle ∈ needles, n = needle.toList) ∨
        ((∀ needle ∈ needles, n ≠ needle.toList) ∧ (n, t) ∈ rs) := by
  induction needles generalizing rs with
  | nil => simp
  | cons needle needles ih =>
      rw [List.foldl_cons, ih (keyed.set ..), mem_set keyed, List.forall_mem_cons]
      simp only [List.mem_cons, exists_eq_or_imp]
      grind

theorem Keyed.foldl_set (keyed : rs.Keyed) (needles : List String) (text : List Char) :
    (needles.foldl (fun rs needle => rs.set needle.toList text) rs).Keyed := by
  induction needles generalizing rs with
  | nil => exact keyed
  | cons needle needles ih => exact ih (keyed.set ..)

/-! ### Replacements of resolved tags -/

/-- No two of the resolved tags share a needle. -/
def Apart (resolved : List (ViewTag × Content)) : Prop :=
  resolved.Pairwise fun pair pair' => ∀ n ∈ pair.1.needles, n ∉ pair'.1.needles

variable {resolved resolved' : List (ViewTag × Content)}

theorem ofResolved_append (resolved : List (ViewTag × Content)) (pair : ViewTag × Content) :
    ofResolved (resolved ++ [pair]) =
      pair.1.needles.foldl (fun rs needle => rs.set needle.toList pair.2.text.toList)
        (ofResolved resolved) := by
  rw [ofResolved, List.foldl_append]
  rfl

theorem keyed_ofResolved (resolved : List (ViewTag × Content)) : (ofResolved resolved).Keyed := by
  induction resolved using List.reverseRecOn with
  | nil => exact List.nodup_nil
  | append_singleton resolved pair ih =>
      rw [ofResolved_append]
      exact ih.foldl_set ..

/-- Each needle is replaced by the content of its tag. -/
theorem mem_ofResolved (apart : Apart resolved) : (n, t) ∈ ofResolved resolved ↔
    ∃ pair ∈ resolved, t = pair.2.text.toList ∧ ∃ needle ∈ pair.1.needles, n = needle.toList := by
  induction resolved using List.reverseRecOn with
  | nil => simp [ofResolved]
  | append_singleton resolved pair ih =>
      obtain ⟨apart, -, differ⟩ := List.pairwise_append.mp apart
      rw [ofResolved_append, mem_foldl_set (keyed_ofResolved resolved), ih apart]
      simp only [List.mem_append, List.mem_singleton, or_and_right, exists_or, exists_eq_left]
      rw [or_comm, and_iff_right_of_imp]
      rintro ⟨pair', hpair', -, needle, hneedle, rfl⟩ needle' hneedle' same
      rw [← String.toList_injective same] at hneedle'
      exact differ pair' hpair' pair (List.mem_singleton_self _) needle hneedle hneedle'

theorem Apart.perm (apart : Apart resolved) (perm : resolved.Perm resolved') : Apart resolved' :=
  perm.pairwise apart fun differ n hn hn' => differ n hn' hn

theorem ofResolved_perm (apart : Apart resolved) (perm : resolved.Perm resolved') :
    (ofResolved resolved).Perm (ofResolved resolved') := by
  apply (List.perm_ext_iff_of_nodup (.of_map _ (keyed_ofResolved resolved))
    (.of_map _ (keyed_ofResolved resolved'))).mpr
  rintro ⟨n, t⟩
  rw [mem_ofResolved apart, mem_ofResolved (apart.perm perm)]
  simp only [perm.mem_iff]

/-! ### Replacing -/

theorem longer_comm {a b : List Char × List Char} (differ : a.1.length ≠ b.1.length)
    (c? : Option (List Char × List Char)) :
    longer (some b) (longer (some a) c?) = longer (some a) (longer (some b) c?) := by
  cases c? with
  | none => grind [longer]
  | some c => grind [longer]

/-- Needles that begin at the same place differ in length. -/
theorem longestAt?_perm (keyed : rs.Keyed) (perm : rs.Perm rs') (s : List Char) :
    rs.longestAt? s = rs'.longestAt? s := by
  apply perm.foldr_eq'
  intro r hr r' hr' best?
  by_cases here : (!r.1.isEmpty && r.1.isPrefixOf s) = true
  · by_cases here' : (!r'.1.isEmpty && r'.1.isPrefixOf s) = true
    · by_cases same : r = r'
      · rw [same]
      · rw [if_pos here, if_pos here, if_pos here', if_pos here']
        apply longer_comm
        intro lengths
        apply same
        apply List.inj_on_of_nodup_map keyed hr hr'
        simp only [Bool.and_eq_true, List.isPrefixOf_iff_prefix] at here here'
        exact (List.prefix_of_prefix_length_le here.2 here'.2 (Nat.le_of_eq lengths)).eq_of_length lengths
    · rw [if_neg here', if_neg here']
  · rw [if_neg here, if_neg here]

theorem ofEmpty_perm (keyed : rs.Keyed) (perm : rs.Perm rs') : rs.ofEmpty = rs'.ofEmpty := by
  rw [ofEmpty, ofEmpty, find?_perm perm]
  intro r hr r' hr' empty empty'
  apply List.inj_on_of_nodup_map keyed hr hr'
  exact (List.isEmpty_iff.mp empty).trans (List.isEmpty_iff.mp empty').symm

/-- The order of replacements has no influence. -/
theorem applyWithin_perm (keyed : rs.Keyed) (perm : rs.Perm rs') (fuel : Nat) (s : List Char) :
    rs.applyWithin fuel s = rs'.applyWithin fuel s := by
  induction fuel generalizing s with
  | zero => rfl
  | succ fuel ih =>
      unfold applyWithin
      rw [longestAt?_perm keyed perm, ofEmpty_perm keyed perm]
      simp only [ih]

end Replacements

/-- If no two resolved tags share a needle, their order has no influence on what is put in place of
the needles. -/
theorem substitute_perm {resolved resolved' : List (ViewTag × Content)}
    (apart : Replacements.Apart resolved) (perm : resolved.Perm resolved') (template : String) :
    substitute template resolved = substitute template resolved' := by
  have replacements := Replacements.ofResolved_perm apart perm
  rw [substitute, substitute, Replacements.apply, Replacements.apply,
    Replacements.applyWithin_perm (Replacements.keyed_ofResolved resolved) replacements]

end TagWeave
