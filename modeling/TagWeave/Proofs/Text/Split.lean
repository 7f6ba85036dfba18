import Mathlib.Data.List.Basic
import Mathlib.Data.List.TakeWhile
import TagWeave.Text.Split

/-!
# Spans, pieces and removals

A span ends where its condition first fails. Pieces hold no separator, and are told by the
text that has them with separators in between. Removing a text takes it out wherever a scan
from the left meets it; what holds none of it, also across its end, stays.
-/

namespace TagWeave.Text

section

variable {α : Type} {p : α → Bool} {a rest : List α}

theorem takeWhile_append_of_stop (ha : ∀ x ∈ a, p x = true) (stop : ∀ x ∈ rest.head?, p x = false) :
    (a ++ rest).takeWhile p = a := by
  rw [List.takeWhile_append_of_pos ha]
  cases rest with
  | nil => simp
  | cons x rest => simp [stop x rfl]

theorem dropWhile_append_of_stop (ha : ∀ x ∈ a, p x = true) (stop : ∀ x ∈ rest.head?, p x = false) :
    (a ++ rest).dropWhile p = rest := by
  rw [List.dropWhile_append_of_pos ha]
  cases rest with
  | nil => rfl
  | cons x rest => simp [stop x rfl]

theorem head?_dropWhile (p : α → Bool) (s : List α) : ∀ x ∈ (s.dropWhile p).head?, p x = false := by
  intro x hx
  have h := List.head?_dropWhile_not p s
  rw [Option.mem_def.mp hx] at h
  simpa using h

/-- What precedes the first mark, and what follows it, is told by the text. -/
theorem append_mark_inj [DecidableEq α] {x y r t : List α} {m : α} (h : x ++ m :: r = y ++ m :: t)
    (hx : m ∉ x) (hy : m ∉ y) : x = y ∧ r = t := by
  have stop : ∀ r : List α, ∀ c ∈ (m :: r).head?, (c != m) = false := by
    intro r c hc
    simpa using (Option.some.inj hc).symm
  have before : ∀ z : List α, m ∉ z → ∀ c ∈ z, (c != m) = true := by
    intro z hz c hc
    simpa using fun heq : c = m => hz (heq ▸ hc)
  have front := congrArg (List.takeWhile (· != m)) h
  rw [takeWhile_append_of_stop (before x hx) (stop r),
    takeWhile_append_of_stop (before y hy) (stop t)] at front
  rw [front, List.append_cancel_left_eq] at h
  exact ⟨front, (List.cons.inj h).2⟩

end

/-! ### Splits -/

section

variable {c : Char} {sep before rest s : List Char}

/-- A text is split where the first character of the separator first occurs, if a separator is
there. -/
theorem splitOnce?_append (absent : c ∉ before) :
    splitOnce? (c :: sep) (before ++ (c :: sep ++ rest)) = some (before, rest) := by
  induction before with
  | nil =>
      have found : (c :: sep).isPrefixOf? (c :: (sep ++ rest)) = some rest :=
        List.isPrefixOf?_eq_some_iff_append_eq.mpr rfl
      rw [List.nil_append, List.cons_append, splitOnce?, found]
  | cons d before ih =>
      have absent' := List.not_mem_of_not_mem_cons absent
      have differ : (c == d) = false := by simpa using List.ne_of_not_mem_cons absent
      have notFound : (c :: sep).isPrefixOf? (d :: (before ++ (c :: sep ++ rest))) = none := by
        rw [List.isPrefixOf?, differ]
        rfl
      rw [List.cons_append, splitOnce?, notFound, ih absent']
      rfl

/-- What is split is the part before, the separator, and the part after it. -/
theorem append_of_splitOnce? {s before after : List Char}
    (split : splitOnce? sep s = some (before, after)) : before ++ (sep ++ after) = s := by
  induction s generalizing before with
  | nil =>
      rw [splitOnce?] at split
      split at split
      · next empty =>
        cases split
        rw [empty]
        rfl
      · cases split
  | cons c s ih =>
      rw [splitOnce?] at split
      split at split
      · next rest found =>
        cases split
        rw [List.nil_append]
        exact List.isPrefixOf?_eq_some_iff_append_eq.mp found
      · rw [Option.map_eq_some_iff] at split
        obtain ⟨⟨before, after⟩, split, same⟩ := split
        cases same
        rw [List.cons_append, ih split]

/-- A text in which the separator does not occur is not split. -/
theorem splitOnce?_eq_none (nonempty : sep ≠ []) (absent : ¬ sep <:+: s) :
    splitOnce? sep s = none := by
  induction s with
  | nil => rw [splitOnce?, if_neg nonempty]
  | cons d s ih =>
      rw [List.infix_cons_iff, not_or] at absent
      have notFound : sep.isPrefixOf? (d :: s) = none := by
        cases found : sep.isPrefixOf? (d :: s) with
        | none => rfl
        | some rest => exact absurd ⟨rest, List.isPrefixOf?_eq_some_iff_append_eq.mp found⟩ absent.1
      rw [splitOnce?, notFound, ih absent.2]
      rfl

end

/-! ### Pieces -/

section

variable {sep : Char} {s : List Char}

theorem pieces_ne_nil (sep : Char) (s : List Char) : pieces sep s ≠ [] := by
  cases s with
  | nil => exact List.cons_ne_nil _ _
  | cons c s =>
      rw [pieces]
      split
      · exact List.cons_ne_nil _ _
      · split <;> exact List.cons_ne_nil _ _

theorem pieces_of_not_mem (h : sep ∉ s) : pieces sep s = [s] := by
  induction s with
  | nil => rfl
  | cons c s ih =>
      have differ : c ≠ sep := (List.ne_of_not_mem_cons h).symm
      rw [pieces, if_neg differ, ih (List.not_mem_of_not_mem_cons h)]

theorem not_mem_of_mem_pieces {piece : List Char} (h : piece ∈ pieces sep s) : sep ∉ piece := by
  induction s generalizing piece with
  | nil =>
      rw [List.mem_singleton.mp h]
      exact List.not_mem_nil
  | cons c s ih =>
      rw [pieces] at h
      split at h
      · rcases List.mem_cons.mp h with rfl | h
        · exact List.not_mem_nil
        · exact ih h
      · next differ =>
        obtain ⟨first, others, split⟩ := List.exists_cons_of_ne_nil (pieces_ne_nil sep s)
        rw [split] at h ih
        rcases List.mem_cons.mp h with rfl | h
        · rw [List.mem_cons, not_or]
          exact ⟨Ne.symm differ, ih (List.mem_cons_self ..)⟩
        · exact ih (List.mem_cons_of_mem _ h)

end

section

variable {α : Type} {sep : List α} {parts others : List (List α)}

/-- The text of some parts is the beginning of the text of these parts and more. -/
theorem intercalate_append (some : parts ≠ []) (more : others ≠ []) :
    sep.intercalate (parts ++ others) =
      sep.intercalate parts ++ (sep ++ sep.intercalate others) := by
  induction parts with
  | nil => exact absurd rfl some
  | cons part parts ih =>
      cases parts with
      | nil =>
          obtain ⟨other, others, rfl⟩ := List.exists_cons_of_ne_nil more
          rw [List.singleton_append, List.intercalate_cons_cons, List.intercalate_singleton,
            List.append_assoc]
      | cons next parts =>
          rw [List.cons_append, List.cons_append, List.intercalate_cons_cons, ← List.cons_append,
            ih (List.cons_ne_nil _ _), List.intercalate_cons_cons]
          simp only [List.append_assoc]

theorem intercalate_prefix (some : parts ≠ []) (begins : parts <+: others) :
    sep.intercalate parts <+: sep.intercalate others := by
  obtain ⟨more, rfl⟩ := begins
  by_cases none : more = []
  · simp [none]
  · rw [intercalate_append some none]
    exact List.prefix_append _ _

end

theorem piecesWithin_ne_nil (sep : List Char) (fuel : Nat) (s : List Char) :
    piecesWithin sep fuel s ≠ [] := by
  cases fuel with
  | zero => exact List.cons_ne_nil _ _
  | succ fuel =>
      rw [piecesWithin]
      split <;> exact List.cons_ne_nil _ _

/-- The pieces with the separator in between are the text again. -/
theorem intercalate_piecesWithin (sep : List Char) (fuel : Nat) (s : List Char) :
    sep.intercalate (piecesWithin sep fuel s) = s := by
  induction fuel generalizing s with
  | zero => exact List.intercalate_singleton
  | succ fuel ih =>
      rw [piecesWithin]
      split
      · exact List.intercalate_singleton
      · next piece rest split =>
        rw [← List.singleton_append,
          intercalate_append (List.cons_ne_nil _ _) (piecesWithin_ne_nil sep fuel rest),
          List.intercalate_singleton, ih rest]
        exact append_of_splitOnce? split

theorem intercalate_piecesBy (sep s : List Char) : sep.intercalate (piecesBy sep s) = s :=
  intercalate_piecesWithin sep s.length s

theorem piecesBy_ne_nil (sep s : List Char) : piecesBy sep s ≠ [] :=
  piecesWithin_ne_nil sep s.length s

/-! ### Removals -/

variable {needle : List Char}

theorem removeAllWithin_of_le (hn : needle ≠ []) {fuel : Nat} {s : List Char}
    (hs : s.length ≤ fuel) : removeAllWithin needle fuel s = removeAll needle s := by
  induction fuel using Nat.strongRecOn generalizing s with
  | ind fuel ih =>
      cases s with
      | nil => cases fuel <;> rfl
      | cons c s =>
          obtain ⟨fuel, rfl⟩ : ∃ k, fuel = k + 1 := ⟨fuel - 1, by simp at hs; omega⟩
          have hle : s.length ≤ fuel := by simpa using hs
          rw [removeAll, List.length_cons, removeAllWithin, removeAllWithin]
          split
          · next rest found =>
            have hsplit := List.isPrefixOf?_eq_some_iff_append_eq.mp found
            have hlength := congrArg List.length hsplit
            have hpos := List.length_pos_iff.mpr hn
            simp only [List.length_append, List.length_cons] at hlength
            rw [ih fuel (by omega) (by omega), ih s.length (by omega) (by omega)]
          · rw [ih fuel (by omega) hle, ih s.length (by omega) (Nat.le_refl _)]

@[simp] theorem removeAll_nil : removeAll needle [] = [] := rfl

theorem removeAll_append_self (hn : needle ≠ []) (s : List Char) :
    removeAll needle (needle ++ s) = removeAll needle s := by
  cases hcons : needle ++ s with
  | nil => simp [hn] at hcons
  | cons c t =>
      have found : needle.isPrefixOf? (c :: t) = some s :=
        List.isPrefixOf?_eq_some_iff_append_eq.mpr hcons
      have hlength := congrArg List.length hcons
      have hpos := List.length_pos_iff.mpr hn
      simp only [List.length_append, List.length_cons] at hlength
      rw [removeAll, List.length_cons, removeAllWithin, found]
      exact removeAllWithin_of_le hn (by omega)

theorem removeAll_cons {c : Char} {s : List Char}
    (absent : ¬ needle <+: c :: s) : removeAll needle (c :: s) = c :: removeAll needle s := by
  have notFound : needle.isPrefixOf? (c :: s) = none := by
    cases found : needle.isPrefixOf? (c :: s) with
    | none => rfl
    | some rest => exact absurd ⟨rest, List.isPrefixOf?_eq_some_iff_append_eq.mp found⟩ absent
  rw [removeAll, List.length_cons, removeAllWithin, notFound]
  rfl

/-- A part of a text in which the removed text nowhere begins stays as it is. -/
theorem removeAll_append {a s : List Char}
    (absent : ∀ x y, a = x ++ y → y ≠ [] → ¬ needle <+: y ++ s) :
    removeAll needle (a ++ s) = a ++ removeAll needle s := by
  induction a with
  | nil => rfl
  | cons c a ih =>
      have here : ¬ needle <+: c :: (a ++ s) := absent [] (c :: a) rfl (by simp)
      rw [List.cons_append, List.cons_append, removeAll_cons here, ih]
      rintro x y rfl hy
      exact absent (c :: x) y rfl hy

end TagWeave.Text
