import TagWeave.Proofs.ViewTag.Scan

/-!
# Tags across seams

Where pieces of text are joined, a self-closed tag may come about that begins in one
piece and ends in a later one. If there is none, a scan of the joined text finds just
what the scans of the pieces find. If there is one, the needles that are found in the
joined text have more characters than those of the pieces together.
-/

namespace TagWeave.ViewTag

open TagWeave.Text

/-- A self-closed tag of the name begins in one text and ends in the next. -/
def Crosses (name a b : List Char) : Prop :=
  ∃ x z, x ≠ [] ∧ z ≠ [] ∧ x <:+ a ∧ z <+: b ∧ IsSelfClosed name (x ++ z)

/-- A self-closed tag of the name begins in one of the pieces and ends in a later one. -/
def CrossesSeam (name : List Char) (pieces : List (List Char)) : Prop :=
  ∃ before piece after, pieces = before ++ piece :: after ∧ Crosses name piece after.flatten

/-- The number of characters of some occurrences. -/
def extent (os : List Occurrence) : Nat := (os.flatMap (·.needle)).length

@[simp] theorem extent_nil : extent [] = 0 := rfl

@[simp] theorem extent_cons (o : Occurrence) (os : List Occurrence) :
    extent (o :: os) = o.needle.length + extent os := by
  rw [extent, List.flatMap_cons, List.length_append]
  rfl

@[simp] theorem extent_append (os os' : List Occurrence) :
    extent (os ++ os') = extent os + extent os' := by
  rw [extent, List.flatMap_append, List.length_append]
  rfl

variable {name : List Char}

/-! ### Two texts -/

theorem not_mem_of_isSelfClosed_append {x z : List Char} (hname : NoBracket name)
    (h : IsSelfClosed name (x ++ z)) (hz : z ≠ []) : '>' ∉ x := by
  obtain ⟨front, hfront, absent⟩ := h.eq_append hname
  intro hmem
  have hlast := congrArg List.dropLast hfront
  rw [List.dropLast_append_of_ne_nil hz, List.dropLast_concat] at hlast
  exact absent (hlast ▸ List.mem_append_left _ hmem)

/-- Nothing is found in what a self-closed tag begins with. -/
theorem free_of_isSelfClosed_append {x z : List Char} (hname : NoBracket name)
    (h : IsSelfClosed name (x ++ z)) (hz : z ≠ []) : Free (selfClosed? name) x := by
  have hx := not_mem_of_isSelfClosed_append hname h hz
  rintro before y rfl -
  cases found : selfClosed? name y with
  | none => rfl
  | some found' =>
      obtain ⟨o, rest⟩ := found'
      obtain ⟨selfClosed, rfl⟩ := selfClosed?_eq_some_iff.mp found
      obtain ⟨front', hneedle, -⟩ := selfClosed.isSelfClosed.eq_append hname
      exact absurd (by rw [hneedle]; simp) hx

/-- The beginning of a self-closed tag does not begin within another one that is found before. -/
theorem suffix_of_suffix_needle {x z rest : List Char} {o : Occurrence} (hname : NoBracket name)
    (h : IsSelfClosed name (x ++ z)) (hz : z ≠ []) (hsuffix : x <:+ o.needle ++ rest)
    (found : selfClosed? name (o.needle ++ rest) = some (o, rest)) : x <:+ rest := by
  have hx := not_mem_of_isSelfClosed_append hname h hz
  obtain ⟨selfClosed, -⟩ := selfClosed?_eq_some_iff.mp found
  obtain ⟨front, hneedle, -⟩ := selfClosed.isSelfClosed.eq_append hname
  rcases List.suffix_or_suffix_of_suffix hsuffix (List.suffix_append o.needle rest) with h | h
  · exact h
  · obtain ⟨y, rfl⟩ := h
    obtain ⟨t, ht⟩ := hsuffix
    rw [← List.append_assoc, List.append_cancel_right_eq, hneedle] at ht
    rcases List.suffix_concat_iff.mp ⟨t, ht⟩ with rfl | ⟨y, rfl, -⟩
    · exact List.suffix_refl _
    · exact absurd (by simp) hx

/-- What is found at the beginning of a joined text, but not of its first part, goes beyond that. -/
theorem exists_of_found {a b rest : List Char} {o : Occurrence} (h : selfClosed? name a = none)
    (ha : a ≠ []) (found : selfClosed? name (a ++ b) = some (o, rest)) :
    ∃ z, z ≠ [] ∧ o.needle = a ++ z ∧ b = z ++ rest := by
  obtain ⟨selfClosed, hs⟩ := selfClosed?_eq_some_iff.mp found
  rcases List.append_eq_append_iff.mp hs with ⟨z, hneedle, hb⟩ | ⟨c, rfl, -⟩
  · refine ⟨z, ?_, hneedle, hb⟩
    rintro rfl
    have whole : selfClosed? name (o.needle ++ []) = some (o, []) :=
      selfClosed?_eq_some_iff.mpr ⟨selfClosed, rfl⟩
    rw [List.append_nil] at whole hneedle
    rw [hneedle, h] at whole
    cases whole
  · have whole : selfClosed? name (o.needle ++ c) = some (o, c) :=
      selfClosed?_eq_some_iff.mpr ⟨selfClosed, rfl⟩
    rw [h] at whole
    cases whole

theorem crosses_of_found {a b rest : List Char} {o : Occurrence} (h : selfClosed? name a = none)
    (ha : a ≠ []) (found : selfClosed? name (a ++ b) = some (o, rest)) : Crosses name a b := by
  obtain ⟨z, hz, hneedle, hb⟩ := exists_of_found h ha found
  have tag := (selfClosed?_eq_some_iff.mp found).1.isSelfClosed
  rw [hneedle] at tag
  exact ⟨a, z, ha, hz, List.suffix_refl _, ⟨rest, hb.symm⟩, tag⟩

theorem selfClosed?_append {a b rest : List Char} {o : Occurrence}
    (h : selfClosed? name a = some (o, rest)) :
    selfClosed? name (a ++ b) = some (o, rest ++ b) := by
  obtain ⟨selfClosed, rfl⟩ := selfClosed?_eq_some_iff.mp h
  exact selfClosed?_eq_some_iff.mpr ⟨selfClosed, List.append_assoc _ _ _⟩

/-- If nothing crosses the seam, scanning goes over it. -/
theorem scan_append_of_not_crosses {a b : List Char} (h : ¬ Crosses name a b) :
    scan (selfClosed? name) (a ++ b) = scan (selfClosed? name) a ++ scan (selfClosed? name) b := by
  have progress := findsPrefix_selfClosed? name
  induction hlength : a.length using Nat.strongRecOn generalizing a with
  | ind length ih =>
      cases a with
      | nil => rfl
      | cons c a =>
          cases found : selfClosed? name (c :: a) with
          | some found' =>
              obtain ⟨o, rest⟩ := found'
              have hlt := progress.length_lt found
              have within : ¬ Crosses name rest b := by
                rintro ⟨x, z, hx, hz, hsuffix, hprefix, tag⟩
                refine h ⟨x, z, hx, hz, hsuffix.trans ?_, hprefix, tag⟩
                rw [(progress found).2]
                exact List.suffix_append _ _
              have joined := selfClosed?_append (b := b) found
              rw [(progress found).2, List.append_assoc] at joined
              have here := found
              rw [(progress found).2] at here
              rw [(progress found).2, List.append_assoc, scan_append progress joined,
                scan_append progress here, ih rest.length (by omega) within rfl, List.cons_append]
          | none =>
              have later : ¬ Crosses name a b := by
                rintro ⟨x, z, hx, hz, hsuffix, hprefix, tag⟩
                exact h ⟨x, z, hx, hz, hsuffix.trans (List.suffix_cons c a), hprefix, tag⟩
              have here : selfClosed? name (c :: (a ++ b)) = none := by
                cases joined : selfClosed? name (c :: (a ++ b)) with
                | none => rfl
                | some found' => exact absurd (crosses_of_found found (by simp) joined) h
              rw [List.cons_append, scan_cons progress here, scan_cons progress found,
                ih a.length (by simp at hlength; omega) later rfl]

/-- What is found reaches up to the first closing bracket. -/
theorem needle_eq_of_found (hname : NoBracket name) {front rest behind : List Char} {o : Occurrence}
    (absent : '>' ∉ front) (found : selfClosed? name (front ++ '>' :: rest) = some (o, behind)) :
    o.needle = front ++ ['>'] ∧ behind = rest := by
  obtain ⟨selfClosed, hs⟩ := selfClosed?_eq_some_iff.mp found
  obtain ⟨x, hneedle, hx⟩ := selfClosed.isSelfClosed.eq_append hname
  rw [hneedle, List.append_assoc, List.singleton_append] at hs
  obtain ⟨rfl, rfl⟩ := append_mark_inj hs absent hx
  exact ⟨hneedle, rfl⟩

/-- Up to the first closing bracket no more is found than there are characters. -/
theorem extent_scan_le (hname : NoBracket name) {front : List Char} (rest : List Char)
    (absent : '>' ∉ front) : extent (scan (selfClosed? name) (front ++ '>' :: rest)) ≤
      front.length + 1 + extent (scan (selfClosed? name) rest) := by
  have progress := findsPrefix_selfClosed? name
  cases found : selfClosed? name (front ++ '>' :: rest) with
  | some found' =>
      obtain ⟨o, behind⟩ := found'
      obtain ⟨hneedle, rfl⟩ := needle_eq_of_found hname absent found
      have whole : front ++ '>' :: behind = o.needle ++ behind := by simp [hneedle]
      rw [whole] at found ⊢
      rw [scan_append progress found, extent_cons, hneedle, List.length_append,
        List.length_singleton]
  | none =>
      cases front with
      | nil =>
          rw [List.nil_append, scan_cons progress found]
          omega
      | cons c front =>
          have later := extent_scan_le hname rest (List.not_mem_of_not_mem_cons absent)
          rw [List.cons_append] at found ⊢
          rw [scan_cons progress found, List.length_cons]
          omega

/-- What is found across a seam has more characters than what is found on both sides instead. -/
theorem extent_lt_of_found (hname : NoBracket name) {a b rest : List Char} {o : Occurrence}
    (h : selfClosed? name a = none) (ha : a ≠ [])
    (found : selfClosed? name (a ++ b) = some (o, rest)) :
    extent (scan (selfClosed? name) a) + extent (scan (selfClosed? name) b) <
      extent (scan (selfClosed? name) (a ++ b)) := by
  have progress := findsPrefix_selfClosed? name
  obtain ⟨z, hz, hneedle, hb⟩ := exists_of_found h ha found
  obtain ⟨selfClosed, hs⟩ := selfClosed?_eq_some_iff.mp found
  have tag := selfClosed.isSelfClosed
  obtain ⟨front, hfront, absent⟩ := tag.eq_append hname
  obtain ⟨t, rfl, ht⟩ : ∃ t, z = t ++ ['>'] ∧ t <:+ front :=
    (List.suffix_concat_iff.mp ⟨a, hneedle.symm.trans hfront⟩).resolve_left hz
  rw [hneedle] at tag
  have free := free_of_isSelfClosed_append hname tag hz
  have bound := extent_scan_le hname rest fun hmem => absent (ht.subset hmem)
  have hpos := List.length_pos_iff.mpr ha
  rw [hs] at found ⊢
  rw [scan_append progress found, scan_of_free progress free, hb, List.append_assoc,
    List.singleton_append, extent_cons, extent_nil, hneedle]
  simp only [List.length_append, List.length_cons, List.length_nil]
  omega

/-- What crosses a seam has more characters than what is found on both sides of it instead. -/
theorem extent_lt_of_crosses (hname : NoBracket name) {a b : List Char} (h : Crosses name a b) :
    extent (scan (selfClosed? name) a) + extent (scan (selfClosed? name) b) <
      extent (scan (selfClosed? name) (a ++ b)) := by
  obtain ⟨x, z, hx, hz, hsuffix, ⟨behind, hb⟩, tag⟩ := h
  have progress := findsPrefix_selfClosed? name
  induction hlength : a.length using Nat.strongRecOn generalizing a with
  | ind length ih =>
      cases a with
      | nil => exact absurd (List.suffix_nil.mp hsuffix) hx
      | cons c a =>
          cases found : selfClosed? name (c :: a) with
          | some found' =>
              obtain ⟨o, rest⟩ := found'
              have hlt := progress.length_lt found
              have joined := selfClosed?_append (b := b) found
              have hs := (progress found).2
              rw [hs] at found hsuffix
              rw [hs, List.append_assoc] at joined
              have within : x <:+ rest := suffix_of_suffix_needle hname tag hz hsuffix found
              have bound := ih rest.length (by omega) within rfl
              rw [hs, List.append_assoc, scan_append progress joined, scan_append progress found,
                extent_cons, extent_cons]
              omega
          | none =>
              cases joined : selfClosed? name (c :: (a ++ b)) with
              | some found' => exact extent_lt_of_found hname found (by simp) joined
              | none =>
                  have later : x <:+ a := by
                    rcases List.suffix_cons_iff.mp hsuffix with rfl | later
                    · refine absurd ?_ (selfClosed?_ne_none tag behind)
                      rw [List.append_assoc, hb]
                      exact joined
                    · exact later
                  have bound := ih a.length (by simp at hlength; omega) later rfl
                  rwa [List.cons_append, scan_cons progress joined, scan_cons progress found]

/-! ### Several pieces -/

theorem crossesSeam_cons {piece : List Char} {pieces : List (List Char)} :
    CrossesSeam name (piece :: pieces) ↔ Crosses name piece pieces.flatten ∨
      CrossesSeam name pieces := by
  constructor
  · rintro ⟨before, here, after, h, crosses⟩
    cases before with
    | nil =>
        obtain ⟨rfl, rfl⟩ := List.cons.inj h
        exact .inl crosses
    | cons _ before => exact .inr ⟨before, here, after, (List.cons.inj h).2, crosses⟩
  · rintro (crosses | ⟨before, here, after, rfl, crosses⟩)
    · exact ⟨[], piece, pieces, rfl, crosses⟩
    · exact ⟨piece :: before, here, after, rfl, crosses⟩

theorem scan_flatten {pieces : List (List Char)} (h : ¬ CrossesSeam name pieces) :
    scan (selfClosed? name) pieces.flatten = pieces.flatMap (scan (selfClosed? name)) := by
  induction pieces with
  | nil => rfl
  | cons piece pieces ih =>
      rw [crossesSeam_cons, not_or] at h
      rw [List.flatten_cons, scan_append_of_not_crosses h.1, ih h.2, List.flatMap_cons]

theorem extent_lt_of_crossesSeam (hname : NoBracket name) {pieces : List (List Char)}
    (h : CrossesSeam name pieces) : extent (pieces.flatMap (scan (selfClosed? name))) <
      extent (scan (selfClosed? name) pieces.flatten) := by
  induction pieces with
  | nil =>
      obtain ⟨before, piece, after, h, -⟩ := h
      simp at h
  | cons piece pieces ih =>
      rw [List.flatten_cons, List.flatMap_cons, extent_append]
      by_cases later : CrossesSeam name pieces
      · have bound := ih later
        by_cases here : Crosses name piece pieces.flatten
        · have more := extent_lt_of_crosses hname here
          omega
        · rw [scan_append_of_not_crosses here, extent_append]
          omega
      · have here := (crossesSeam_cons.mp h).resolve_right later
        rw [← scan_flatten later]
        exact extent_lt_of_crosses hname here

/-- The text of an occurrence. -/
def Occurrence.text (o : Occurrence) : String := String.ofList o.needle

theorem extent_of_perm {os os' : List Occurrence}
    (h : (os.map (·.text)).Perm (os'.map (·.text))) : extent os = extent os' := by
  have needles := (h.map String.toList).flatMap_right id
  simp only [List.map_map, List.flatMap_map, Function.comp_def, Occurrence.text,
    String.toList_ofList, id] at needles
  exact needles.length_eq

theorem eq_nil_of_extent {s : List Char} (h : extent (scan (selfClosed? name) s) = 0) :
    scan (selfClosed? name) s = [] := by
  have progress := findsPrefix_selfClosed? name
  cases found : scan (selfClosed? name) s with
  | nil => rfl
  | cons o os =>
      obtain ⟨_, _, -, found'⟩ := exists_of_mem_scan progress (found ▸ List.mem_cons_self ..)
      have hpos := List.length_pos_iff.mpr (progress found').1
      rw [found, extent_cons] at h
      omega

/-- When pieces are joined, of which some are of interest and the others remnants, a scan finds what
the pieces of interest hold exactly if nothing crosses a seam and the remnants hold nothing. -/
theorem scan_flatten_perm_iff (hname : NoBracket name) {pieces wanted remnants : List (List Char)}
    (h : pieces.Perm (wanted ++ remnants)) :
    ((scan (selfClosed? name) pieces.flatten).map (·.text)).Perm
        ((wanted.flatMap (scan (selfClosed? name))).map (·.text)) ↔
      ¬ CrossesSeam name pieces ∧ ∀ r ∈ remnants, scan (selfClosed? name) r = [] := by
  have parts := h.flatMap_right (scan (selfClosed? name))
  rw [List.flatMap_append] at parts
  have total := extent_of_perm (parts.map (·.text))
  rw [extent_append] at total
  constructor
  · intro same
    have joined := extent_of_perm same
    have uncrossed : ¬ CrossesSeam name pieces := by
      intro crosses
      have more := extent_lt_of_crossesSeam hname crosses
      omega
    refine ⟨uncrossed, ?_⟩
    intro r hr
    rw [scan_flatten uncrossed] at joined
    obtain ⟨before, after, rfl⟩ := List.append_of_mem hr
    simp only [List.flatMap_append, List.flatMap_cons, extent_append] at total
    exact eq_nil_of_extent (by omega)
  · rintro ⟨uncrossed, empty⟩
    have none : remnants.flatMap (scan (selfClosed? name)) = [] :=
      List.flatMap_eq_nil_iff.mpr empty
    rw [none, List.append_nil] at parts
    rw [scan_flatten uncrossed]
    exact parts.map _

end TagWeave.ViewTag
