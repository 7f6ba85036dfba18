import TagWeave.Proofs.ViewTag.Syntax

/-!
# Scans

A scan finds nothing exactly if nothing can be found at any place of the text. In
general it cuts the text into what it finds and the stretches between, in which
nothing begins.
-/

namespace TagWeave.ViewTag

open TagWeave.Text

section

variable {find? : List Char → Option (Occurrence × List Char)}

/-- What is found stands at the beginning of the text, and is not empty. -/
def FindsPrefix (find? : List Char → Option (Occurrence × List Char)) : Prop :=
  ∀ ⦃s o rest⦄, find? s = some (o, rest) → o.needle ≠ [] ∧ s = o.needle ++ rest

theorem FindsPrefix.length_lt (progress : FindsPrefix find?) {s rest : List Char} {o : Occurrence}
    (h : find? s = some (o, rest)) : rest.length < s.length := by
  obtain ⟨nonempty, rfl⟩ := progress h
  have hpos := List.length_pos_iff.mpr nonempty
  rw [List.length_append]
  omega

theorem scanWithin_of_le (progress : FindsPrefix find?) {fuel : Nat} {s : List Char}
    (hs : s.length ≤ fuel) : scanWithin find? fuel s = scan find? s := by
  induction fuel using Nat.strongRecOn generalizing s with
  | ind fuel ih =>
      cases s with
      | nil => cases fuel <;> rfl
      | cons c s =>
          obtain ⟨fuel, rfl⟩ : ∃ k, fuel = k + 1 := ⟨fuel - 1, by simp at hs; omega⟩
          have hle : s.length ≤ fuel := by simpa using hs
          rw [scan, List.length_cons, scanWithin, scanWithin]
          split
          · next o rest found =>
            have hlt := progress.length_lt found
            rw [List.length_cons] at hlt
            rw [ih fuel (by omega) (by omega), ih s.length (by omega) (by omega)]
          · rw [ih fuel (by omega) hle, ih s.length (by omega) (Nat.le_refl _)]

@[simp] theorem scan_nil : scan find? [] = [] := rfl

theorem scan_cons (progress : FindsPrefix find?) {c : Char} {s : List Char}
    (h : find? (c :: s) = none) : scan find? (c :: s) = scan find? s := by
  rw [scan, List.length_cons, scanWithin, h]
  exact scanWithin_of_le progress (Nat.le_refl _)

theorem scan_append (progress : FindsPrefix find?) {o : Occurrence} {rest : List Char}
    (h : find? (o.needle ++ rest) = some (o, rest)) :
    scan find? (o.needle ++ rest) = o :: scan find? rest := by
  have hlt := progress.length_lt h
  cases hs : o.needle ++ rest with
  | nil => simp [(progress h).1] at hs
  | cons c s =>
      rw [hs] at h hlt
      rw [List.length_cons] at hlt
      rw [scan, List.length_cons, scanWithin, h]
      simp only [scanWithin_of_le progress (show rest.length ≤ s.length by omega)]

/-- At no place in the text is anything found. -/
def Free (find? : List Char → Option (Occurrence × List Char)) (s : List Char) : Prop :=
  ∀ x y, s = x ++ y → y ≠ [] → find? y = none

theorem free_nil : Free find? [] := by
  intro x y h hy
  exact absurd (List.append_eq_nil_iff.mp h.symm).2 hy

theorem free_cons {c : Char} {s : List Char} :
    Free find? (c :: s) ↔ find? (c :: s) = none ∧ Free find? s := by
  constructor
  · intro h
    refine ⟨h [] (c :: s) rfl (by simp), ?_⟩
    rintro x y rfl hy
    exact h (c :: x) y rfl hy
  · rintro ⟨here, later⟩ x y h hy
    cases x with
    | nil =>
        obtain rfl : c :: s = y := h
        exact here
    | cons d x => exact later x y (List.cons.inj h).2 hy

theorem scan_of_free (progress : FindsPrefix find?) {s : List Char} (h : Free find? s) :
    scan find? s = [] := by
  induction s with
  | nil => rfl
  | cons c s ih =>
      rw [free_cons] at h
      rw [scan_cons progress h.1, ih h.2]

/-- A scan that finds nothing has looked at every place. -/
theorem free_of_scan_eq_nil (progress : FindsPrefix find?) {s : List Char}
    (h : scan find? s = []) : Free find? s := by
  induction s with
  | nil => exact free_nil
  | cons c s ih =>
      cases found : find? (c :: s) with
      | none =>
          rw [scan_cons progress found] at h
          exact free_cons.mpr ⟨found, ih h⟩
      | some found' =>
          obtain ⟨o, rest⟩ := found'
          have hs := (progress found).2
          rw [hs] at found h
          rw [scan_append progress found] at h
          cases h

/-! ### Cuts -/

/-- The text is cut into occurrences and the stretches before, between and after them. No occurrence
begins in a stretch. -/
inductive Cut (find? : List Char → Option (Occurrence × List Char)) :
    List Char → List (List Char) → List Occurrence → Prop
  | last {stretch : List Char} (free : Free find? stretch) : Cut find? stretch [stretch] []
  | next {stretch rest : List Char} {o : Occurrence} {stretches : List (List Char)}
      {os : List Occurrence}
      (free : ∀ x y, stretch = x ++ y → y ≠ [] → find? (y ++ (o.needle ++ rest)) = none)
      (found : find? (o.needle ++ rest) = some (o, rest)) (cut : Cut find? rest stretches os) :
      Cut find? (stretch ++ (o.needle ++ rest)) (stretch :: stretches) (o :: os)

/-- A character at which nothing is found belongs to the first stretch. -/
theorem Cut.cons {c : Char} {s stretch : List Char} {stretches : List (List Char)}
    {os : List Occurrence} (h : find? (c :: s) = none)
    (cut : Cut find? s (stretch :: stretches) os) : Cut find? (c :: s) ((c :: stretch) :: stretches) os := by
  cases cut with
  | last free => exact .last (free_cons.mpr ⟨h, free⟩)
  | @next _ rest o _ os free found cut =>
      refine @Cut.next _ (c :: stretch) rest o _ os ?_ found cut
      intro x y hxy hy
      cases x with
      | nil =>
          obtain rfl : c :: stretch = y := hxy
          exact h
      | cons d x => exact free x y (List.cons.inj hxy).2 hy

/-- A text that begins with an occurrence, and in the rest of which there is none. -/
theorem Cut.single (progress : FindsPrefix find?) {o : Occurrence} {rest : List Char}
    (found : find? (o.needle ++ rest) = some (o, rest)) (empty : scan find? rest = []) :
    Cut find? (o.needle ++ rest) [[], rest] [o] := by
  refine @Cut.next find? [] rest o _ _ ?_ found (.last (free_of_scan_eq_nil progress empty))
  intro x y h hy
  exact absurd (List.append_eq_nil_iff.mp h.symm).2 hy

/-- A scan cuts the text. -/
theorem exists_cut (progress : FindsPrefix find?) (s : List Char) :
    ∃ stretch stretches, Cut find? s (stretch :: stretches) (scan find? s) := by
  induction hlength : s.length using Nat.strongRecOn generalizing s with
  | ind length ih =>
      cases s with
      | nil => exact ⟨[], [], .last free_nil⟩
      | cons c s =>
          cases found : find? (c :: s) with
          | none =>
              obtain ⟨stretch, stretches, cut⟩ := ih s.length (by simp at hlength; omega) s rfl
              rw [scan_cons progress found]
              exact ⟨c :: stretch, stretches, cut.cons found⟩
          | some found' =>
              obtain ⟨o, rest⟩ := found'
              have hlt := progress.length_lt found
              obtain ⟨stretch, stretches, cut⟩ := ih rest.length (by omega) rest rfl
              have hs := (progress found).2
              rw [hs] at found ⊢
              rw [scan_append progress found]
              refine ⟨[], stretch :: stretches, @Cut.next find? [] rest o _ _ ?_ found cut⟩
              intro x y h hy
              exact absurd (List.append_eq_nil_iff.mp h.symm).2 hy

theorem Cut.stretches_ne_nil {s : List Char} {stretches : List (List Char)} {os : List Occurrence}
    (cut : Cut find? s stretches os) : stretches ≠ [] := by
  cases cut <;> simp

/-- A text can be cut in one way only: as a scan does. -/
theorem Cut.eq_scan (progress : FindsPrefix find?) {s : List Char} {stretches : List (List Char)}
    {os : List Occurrence} (cut : Cut find? s stretches os) : os = scan find? s := by
  induction cut with
  | last free => rw [scan_of_free progress free]
  | @next stretch rest o stretches os free found _ ih =>
      induction stretch with
      | nil => rw [List.nil_append, scan_append progress found, ih]
      | cons c stretch ih' =>
          have here := free [] (c :: stretch) rfl (by simp)
          rw [List.cons_append] at here ⊢
          rw [scan_cons progress here]
          exact ih' fun x y hxy hy => free (c :: x) y (by rw [hxy]; rfl) hy

theorem Cut.infix_of_mem {s : List Char} {stretches : List (List Char)} {os : List Occurrence}
    (cut : Cut find? s stretches os) {stretch : List Char} (h : stretch ∈ stretches) :
    stretch <:+: s := by
  induction cut with
  | last =>
      obtain rfl := List.mem_singleton.mp h
      exact List.infix_refl _
  | @next first rest o _ _ _ _ _ ih =>
      rcases List.mem_cons.mp h with rfl | h
      · exact (List.prefix_append _ _).isInfix
      · rw [← List.append_assoc]
        exact (ih h).trans (List.suffix_append _ _).isInfix

/-- What a cut finds is found at its place in the text. -/
theorem Cut.exists_of_mem {s : List Char} {stretches : List (List Char)} {os : List Occurrence}
    (cut : Cut find? s stretches os) {o : Occurrence} (ho : o ∈ os) :
    ∃ before rest, s = before ++ (o.needle ++ rest) ∧
      find? (o.needle ++ rest) = some (o, rest) := by
  induction cut with
  | last => simp at ho
  | @next stretch rest p _ _ _ found _ ih =>
      rcases List.mem_cons.mp ho with rfl | ho
      · exact ⟨stretch, rest, rfl, found⟩
      · obtain ⟨before, after, rfl, found'⟩ := ih ho
        exact ⟨stretch ++ (p.needle ++ before), after, by simp, found'⟩

theorem Cut.needle_infix_of_mem {s : List Char} {stretches : List (List Char)}
    {os : List Occurrence} (cut : Cut find? s stretches os) {o : Occurrence} (ho : o ∈ os) :
    o.needle <:+: s := by
  obtain ⟨before, rest, rfl, -⟩ := cut.exists_of_mem ho
  exact ⟨before, rest, List.append_assoc _ _ _⟩

theorem exists_of_mem_scan (progress : FindsPrefix find?) {s : List Char} {o : Occurrence}
    (ho : o ∈ scan find? s) :
    ∃ before rest, s = before ++ (o.needle ++ rest) ∧
      find? (o.needle ++ rest) = some (o, rest) := by
  obtain ⟨stretch, stretches, cut⟩ := exists_cut progress s
  exact cut.exists_of_mem ho

end

/-! ### Scans for the two forms -/

theorem findsPrefix_selfClosed? (name : List Char) : FindsPrefix (selfClosed? name) := by
  intro s o rest h
  obtain ⟨selfClosed, hs⟩ := selfClosed?_eq_some_iff.mp h
  exact ⟨Occurrence.needle_ne_nil (.inl selfClosed), hs⟩

theorem findsPrefix_paired? (name : List Char) : FindsPrefix (paired? name) := by
  intro s o rest h
  obtain ⟨u, close, -, -, -, -, hneedle, hs⟩ := exists_of_paired? h
  exact ⟨by simp [hneedle], hs⟩

/-- All that is found for a name are occurrences of it. -/
theorem of_mem_occurrences {name s : List Char} {o : Occurrence} (hname : NoBracket name)
    (ho : o ∈ occurrences name s) : o.Of name := by
  rcases List.mem_append.mp ho with ho | ho
  · obtain ⟨_, _, -, found⟩ := exists_of_mem_scan (findsPrefix_selfClosed? name) ho
    exact .inl (selfClosed?_eq_some_iff.mp found).1
  · obtain ⟨_, _, -, found⟩ := exists_of_mem_scan (findsPrefix_paired? name) ho
    exact .inr ((paired?_eq_some_iff hname).mp found).1

/-- In the text of an occurrence only the occurrence itself is found. -/
theorem occurrences_needle {name : List Char} {o : Occurrence} (hname : NoBracket name)
    (h : o.Of name) : occurrences name o.needle = [o] := by
  rcases h with h | h
  · have free : Free (paired? name) o.needle := by
      intro x y hxy hy
      cases found : paired? name y with
      | none => rfl
      | some found' =>
          obtain ⟨p, rest⟩ := found'
          obtain ⟨paired, rfl⟩ := (paired?_eq_some_iff hname).mp found
          exact absurd hxy (h.ne_append hname paired x rest)
    have found : selfClosed? name (o.needle ++ []) = some (o, []) :=
      selfClosed?_eq_some_iff.mpr ⟨h, rfl⟩
    have scanned := scan_append (findsPrefix_selfClosed? name) found
    rw [List.append_nil] at scanned
    simp only [occurrences, scan_of_free (findsPrefix_paired? name) free, without, List.foldl_nil,
      scanned, scan_nil, List.append_nil]
  · have found : paired? name (o.needle ++ []) = some (o, []) :=
      (paired?_eq_some_iff hname).mpr ⟨h, rfl⟩
    have scanned := scan_append (findsPrefix_paired? name) found
    have removed := removeAll_append_self (Occurrence.needle_ne_nil (.inr h)) []
    rw [List.append_nil] at scanned removed
    simp only [occurrences, scanned, without, List.foldl_cons, List.foldl_nil, removed,
      removeAll_nil, scan_nil, List.nil_append]

/-- A text in which nothing is found holds no tag of the name. -/
theorem no_tag_of_occurrences_eq_nil {name s : List Char} (h : occurrences name s = [])
    {u : List Char} (hu : u <:+: s) : ¬ IsSelfClosed name u ∧ ¬ IsPaired name u := by
  obtain ⟨selfClosed, paired⟩ := List.append_eq_nil_iff.mp h
  rw [paired] at selfClosed
  obtain ⟨before, rest, rfl⟩ := hu
  rw [List.append_assoc] at selfClosed paired
  have absent : u ++ rest ≠ [] →
      selfClosed? name (u ++ rest) = none ∧ paired? name (u ++ rest) = none := by
    intro nonempty
    constructor
    · exact free_of_scan_eq_nil (findsPrefix_selfClosed? name) selfClosed before _ rfl nonempty
    · exact free_of_scan_eq_nil (findsPrefix_paired? name) paired before _ rfl nonempty
  constructor
  · intro tag
    obtain ⟨raw, opening, ⟨n, blanks, -, -, -, -, rfl⟩, hu⟩ := id tag
    exact selfClosed?_ne_none tag rest (absent (by simp [hu])).1
  · intro tag
    obtain ⟨raw, opening, content, close, ⟨n, blanks, -, -, -, -, rfl⟩, -, hu⟩ := id tag
    exact paired?_ne_none tag rest (absent (by simp [hu])).2

end TagWeave.ViewTag
