import TagWeave.Proofs.Text.Split
import TagWeave.Proofs.ViewTag.Name

/-!
# The forms of tags

Which texts are tags of a name, as a grammar beside the functions that look for tags.
A function that looks for a tag at the start of a text finds exactly the occurrences
that the grammar describes there, and what follows an occurrence has no influence on
it. So no occurrence is the beginning of another one.
-/

namespace TagWeave.ViewTag

open TagWeave.Text TagWeave.Markup

/-- The text opens a tag of the name: a bracket, the name, blanks and an attribute text. The name
ends before a character that ends names, or with the text. -/
def Opens (name raw u : List Char) : Prop :=
  ∃ n blanks, Spells name n ∧ (∀ c ∈ blanks, isBlank c = true) ∧ (∀ c ∈ raw, isRawChar c = true) ∧
    (∀ c ∈ (blanks ++ raw).head?, endsName c = true) ∧ u = '<' :: (n ++ (blanks ++ raw))

/-- The text closes a tag of the name. -/
def Closes (name u : List Char) : Prop :=
  ∃ n blanks, Spells name n ∧ (∀ c ∈ blanks, isBlank c = true) ∧
    u = '<' :: '/' :: (n ++ (blanks ++ ['>']))

/-- The text is a self-closed tag of the name. -/
def IsSelfClosed (name u : List Char) : Prop := ∃ raw h, Opens name raw h ∧ u = h ++ ['/', '>']

/-- The text is a paired tag of the name, with any content. -/
def IsPaired (name u : List Char) : Prop :=
  ∃ raw h content close, Opens name raw h ∧ Closes name close ∧ u = h ++ '>' :: (content ++ close)

/-- The attribute text does not begin with a blank. -/
def Trimmed (raw : List Char) : Prop := ∀ c ∈ raw.head?, isBlank c = false

/-- A self-closed occurrence of the name. -/
def Occurrence.SelfClosed (name : List Char) (o : Occurrence) : Prop :=
  ∃ h, Opens name o.raw h ∧ Trimmed o.raw ∧ o.needle = h ++ ['/', '>'] ∧ o.content = []

/-- A paired occurrence of the name: no closing tag begins within the content. -/
def Occurrence.Paired (name : List Char) (o : Occurrence) : Prop :=
  ∃ h close, Opens name o.raw h ∧ Trimmed o.raw ∧ Closes name close ∧
    (∀ x y, o.content = x ++ y → y ≠ [] → ∀ u, Closes name u → ¬ u <+: y ++ close) ∧
    o.needle = h ++ '>' :: (o.content ++ close)

theorem isBlank_of_not_isRawChar {c : Char} (h : isRawChar c = false) : isBlank c = false := by
  simp only [isRawChar, Bool.not_eq_false', Bool.or_eq_true, decide_eq_true_eq] at h
  rcases h with rfl | rfl <;> decide

theorem endsName_of_not_isRawChar {c : Char} (h : isRawChar c = false) : endsName c = true := by
  simp only [isRawChar, Bool.not_eq_false', Bool.or_eq_true, decide_eq_true_eq] at h
  rcases h with rfl | rfl <;> decide

/-! ### Openings -/

theorem opening?_of_opens {name raw h : List Char} (opens : Opens name raw h)
    (trimmed : Trimmed raw) {x : Char} (hx : isRawChar x = false) (rest : List Char) :
    opening? name (h ++ x :: rest) = some (raw, x :: rest) := by
  obtain ⟨n, blanks, spelled, hblanks, hraw, ends, rfl⟩ := opens
  have named : afterName? name (n ++ (blanks ++ (raw ++ x :: rest))) =
      some (blanks ++ (raw ++ x :: rest)) :=
    afterName?_eq_some_iff.mpr ⟨n, spelled, rfl⟩
  have hdrop : (blanks ++ (raw ++ x :: rest)).dropWhile isBlank = raw ++ x :: rest := by
    apply dropWhile_append_of_stop hblanks
    intro c hc
    cases raw with
    | nil => exact Option.some.inj hc ▸ isBlank_of_not_isRawChar hx
    | cons d raw => exact trimmed c hc
  have stop : ∀ c ∈ (x :: rest).head?, isRawChar c = false := by
    intro c hc
    exact Option.some.inj hc ▸ hx
  have hends : ∀ c ∈ (blanks ++ (raw ++ x :: rest)).head?, endsName c = true := by
    intro c hc
    rw [← List.append_assoc] at hc
    cases hbr : blanks ++ raw with
    | nil =>
        rw [hbr] at hc
        exact Option.some.inj hc ▸ endsName_of_not_isRawChar hx
    | cons d t =>
        rw [hbr] at hc ends
        exact ends c hc
  simp only [List.cons_append, List.append_assoc, opening?, named]
  cases hrest : blanks ++ (raw ++ x :: rest) with
  | nil => simp at hrest
  | cons c t =>
      rw [hrest] at hends hdrop
      simp only [hends c rfl, if_true, hdrop, takeWhile_append_of_stop hraw stop,
        dropWhile_append_of_stop hraw stop]

theorem opens_of_opening? {name s raw rest : List Char} (h : opening? name s = some (raw, rest)) :
    ∃ u, Opens name raw u ∧ Trimmed raw ∧ s = u ++ rest := by
  unfold opening? at h
  split at h
  · next s =>
    split at h
    · next c t named =>
      split at h
      · next ends =>
        obtain ⟨n, spelled, hs⟩ := afterName?_eq_some_iff.mp named
        obtain ⟨rfl, rfl⟩ := Prod.mk.inj (Option.some.inj h)
        refine ⟨'<' :: (n ++ ((c :: t).takeWhile isBlank ++
          ((c :: t).dropWhile isBlank).takeWhile isRawChar)),
          ⟨n, _, spelled, ?_, ?_, ?_, rfl⟩, ?_, ?_⟩
        · intro d hd
          exact List.mem_takeWhile_imp hd
        · intro d hd
          exact List.mem_takeWhile_imp hd
        · intro d hd
          have split : (c :: t) = ((c :: t).takeWhile isBlank ++
              ((c :: t).dropWhile isBlank).takeWhile isRawChar) ++
              ((c :: t).dropWhile isBlank).dropWhile isRawChar := by
            rw [List.append_assoc, List.takeWhile_append_dropWhile, List.takeWhile_append_dropWhile]
          obtain ⟨y, hy⟩ := List.head?_eq_some_iff.mp (Option.mem_def.mp hd)
          rw [hy, List.cons_append] at split
          exact (List.cons.inj split).1 ▸ ends
        · intro d hd
          apply head?_dropWhile isBlank (c :: t) d
          cases hdrop : (c :: t).dropWhile isBlank with
          | nil => simp [hdrop] at hd
          | cons e z =>
              rw [hdrop, List.takeWhile_cons] at hd
              split at hd
              · exact hd
              · simp at hd
        · simp only [hs, List.cons_append, List.append_assoc, List.takeWhile_append_dropWhile]
      · cases h
    · cases h
  · cases h

/-! ### Closing tags -/

theorem closing?_eq_some_iff {name s rest : List Char} :
    closing? name s = some rest ↔ ∃ u, Closes name u ∧ s = u ++ rest := by
  constructor
  · intro h
    unfold closing? at h
    split at h
    · next s =>
      split at h
      · next t named =>
        obtain ⟨n, spelled, hs⟩ := afterName?_eq_some_iff.mp named
        split at h
        · next r hdrop =>
          cases h
          refine ⟨_, ⟨n, t.takeWhile isBlank, spelled, ?_, rfl⟩, ?_⟩
          · exact fun d hd => List.mem_takeWhile_imp hd
          · have ht : t = t.takeWhile isBlank ++ '>' :: rest := by
              rw [← hdrop, List.takeWhile_append_dropWhile]
            rw [hs]
            conv_lhs => rw [ht]
            simp
        · cases h
      · cases h
    · cases h
  · rintro ⟨u, ⟨n, blanks, spelled, hblanks, rfl⟩, rfl⟩
    have named : afterName? name (n ++ (blanks ++ '>' :: rest)) = some (blanks ++ '>' :: rest) :=
      afterName?_eq_some_iff.mpr ⟨n, spelled, rfl⟩
    have hdrop : (blanks ++ '>' :: rest).dropWhile isBlank = '>' :: rest := by
      apply dropWhile_append_of_stop hblanks
      intro c hc
      exact Option.some.inj hc ▸ (by decide)
    simp only [List.cons_append, List.append_assoc, List.nil_append, closing?, named, hdrop]

/-- The bracket that ends a closing tag is the only one in it that points this way. -/
theorem Closes.eq_append {name u : List Char} (hname : NoBracket name) (h : Closes name u) :
    ∃ x, u = x ++ ['>'] ∧ '>' ∉ x := by
  obtain ⟨n, blanks, spelled, hblanks, rfl⟩ := h
  refine ⟨'<' :: '/' :: (n ++ blanks), by simp, ?_⟩
  intro hmem
  simp only [List.mem_cons, List.mem_append, Char.reduceEq, false_or] at hmem
  rcases hmem with hmem | hmem
  · exact (spelled.noBracket hname '>' hmem).2.2 rfl
  · exact absurd (hblanks '>' hmem) (by decide)

/-- Of two texts at the same place, one that ends with a mark which the other contains only at its
end does not go beyond that. -/
theorem prefix_of_prefix_append {x y z : List Char} {m : Char} (h : x ++ [m] <+: y ++ z)
    (hx : m ∉ x) (hy : m ∈ y) : x ++ [m] <+: y := by
  rcases List.prefix_or_prefix_of_prefix h (List.prefix_append y z) with h | h
  · exact h
  · rcases List.prefix_concat_iff.mp h with rfl | h
    · exact List.prefix_refl _
    · exact absurd (h.subset hy) hx

/-! ### Content -/

/-- Content ends at the first closing tag. -/
theorem content?_eq_some_iff {name s content rest : List Char} :
    content? name s = some (content, rest) ↔ ∃ close, Closes name close ∧
      s = content ++ (close ++ rest) ∧
      ∀ x y, content = x ++ y → y ≠ [] → closing? name (y ++ (close ++ rest)) = none := by
  induction s generalizing content with
  | nil =>
      refine ⟨fun h => by simp [content?] at h, ?_⟩
      rintro ⟨close, ⟨n, blanks, -, -, rfl⟩, hs, -⟩
      simp at hs
  | cons c s ih =>
      rw [content?]
      split
      · next r closed =>
        constructor
        · intro h
          obtain ⟨rfl, rfl⟩ := Prod.mk.inj (Option.some.inj h)
          obtain ⟨close, closes, hs⟩ := closing?_eq_some_iff.mp closed
          refine ⟨close, closes, hs, ?_⟩
          intro x y hxy hy
          exact absurd (List.append_eq_nil_iff.mp hxy.symm).2 hy
        · rintro ⟨close, closes, hs, first⟩
          cases content with
          | nil =>
              have h := closing?_eq_some_iff.mpr ⟨close, closes, hs⟩
              rw [closed] at h
              rw [Option.some.inj h]
          | cons d content =>
              have h := first [] (d :: content) rfl (by simp)
              rw [← hs, closed] at h
              cases h
      · next notClosed =>
        constructor
        · intro h
          obtain ⟨⟨content', rest'⟩, found, heq⟩ := Option.map_eq_some_iff.mp h
          obtain ⟨rfl, rfl⟩ := Prod.mk.inj heq
          obtain ⟨close, closes, rfl, first⟩ := ih.mp found
          refine ⟨close, closes, rfl, ?_⟩
          intro x y hxy hy
          cases x with
          | nil =>
              rw [List.nil_append] at hxy
              rw [← hxy]
              exact notClosed
          | cons d x => exact first x y (List.cons.inj hxy).2 hy
        · rintro ⟨close, closes, hs, first⟩
          cases content with
          | nil =>
              have h := closing?_eq_some_iff.mpr ⟨close, closes, hs⟩
              rw [notClosed] at h
              cases h
          | cons d content =>
              obtain ⟨rfl, rfl⟩ := List.cons.inj hs
              have found := ih.mpr ⟨close, closes, rfl, fun x y hxy hy =>
                first (c :: x) y (by rw [hxy]; rfl) hy⟩
              exact Option.map_eq_some_iff.mpr ⟨_, found, rfl⟩

/-! ### Occurrences -/

theorem upTo_append (u rest : List Char) : upTo (u ++ rest) rest = u := by
  simp [upTo]

theorem selfClosed?_eq_some_iff {name s rest : List Char} {o : Occurrence} :
    selfClosed? name s = some (o, rest) ↔ o.SelfClosed name ∧ s = o.needle ++ rest := by
  constructor
  · intro h
    unfold selfClosed? at h
    split at h
    · next raw rest' found =>
      obtain ⟨u, opens, trimmed, rfl⟩ := opens_of_opening? found
      obtain ⟨rfl, rfl⟩ := Prod.mk.inj (Option.some.inj h)
      have whole : u ++ '/' :: '>' :: rest' = (u ++ ['/', '>']) ++ rest' := by simp
      rw [whole, upTo_append]
      exact ⟨⟨u, opens, trimmed, rfl, rfl⟩, rfl⟩
    · cases h
  · rintro ⟨⟨u, opens, trimmed, hneedle, hcontent⟩, rfl⟩
    obtain ⟨needle, raw, content⟩ := o
    simp only at hneedle hcontent opens trimmed ⊢
    subst hneedle hcontent
    have found := opening?_of_opens opens trimmed (x := '/') (by decide) ('>' :: rest)
    have whole : (u ++ ['/', '>']) ++ rest = u ++ '/' :: '>' :: rest := by simp
    rw [selfClosed?, whole, found]
    simp only [← whole, upTo_append]

/-- A closing tag that begins before the end of another one ends before that one does. -/
theorem closing?_append_eq_none_iff {name : List Char} (hname : NoBracket name)
    {y close : List Char} (closes : Closes name close) (rest : List Char) :
    closing? name (y ++ (close ++ rest)) = none ↔ ∀ u, Closes name u → ¬ u <+: y ++ close := by
  rw [← List.append_assoc]
  constructor
  · rintro h u hu ⟨t, ht⟩
    have found := closing?_eq_some_iff.mpr ⟨u, hu, show y ++ close ++ rest = u ++ (t ++ rest) by
      rw [← ht, List.append_assoc]⟩
    rw [h] at found
    cases found
  · intro h
    cases found : closing? name (y ++ close ++ rest) with
    | none => rfl
    | some t =>
        obtain ⟨u, hu, hs⟩ := closing?_eq_some_iff.mp found
        obtain ⟨x, rfl, hx⟩ := hu.eq_append hname
        obtain ⟨z, rfl, -⟩ := closes.eq_append hname
        have before : x ++ ['>'] <+: y ++ (z ++ ['>']) :=
          prefix_of_prefix_append ⟨t, hs.symm⟩ hx (by simp)
        exact absurd before (h _ hu)

theorem exists_of_paired? {name s rest : List Char} {o : Occurrence}
    (h : paired? name s = some (o, rest)) :
    ∃ u close, Opens name o.raw u ∧ Trimmed o.raw ∧ Closes name close ∧
      (∀ x y, o.content = x ++ y → y ≠ [] → closing? name (y ++ (close ++ rest)) = none) ∧
      o.needle = u ++ '>' :: (o.content ++ close) ∧ s = o.needle ++ rest := by
  unfold paired? at h
  split at h
  · next raw s' found =>
    split at h
    · next content rest' ended =>
      obtain ⟨u, opens, trimmed, rfl⟩ := opens_of_opening? found
      obtain ⟨close, closes, rfl, first⟩ := content?_eq_some_iff.mp ended
      obtain ⟨rfl, rfl⟩ := Prod.mk.inj (Option.some.inj h)
      have whole : u ++ '>' :: (content ++ (close ++ rest')) =
          (u ++ '>' :: (content ++ close)) ++ rest' := by simp
      rw [whole, upTo_append]
      exact ⟨u, close, opens, trimmed, closes, first, rfl, rfl⟩
    · cases h
  · cases h

theorem paired?_eq_some_iff {name s rest : List Char} {o : Occurrence} (hname : NoBracket name) :
    paired? name s = some (o, rest) ↔ o.Paired name ∧ s = o.needle ++ rest := by
  constructor
  · intro h
    obtain ⟨u, close, opens, trimmed, closes, first, hneedle, hs⟩ := exists_of_paired? h
    refine ⟨⟨u, close, opens, trimmed, closes, ?_, hneedle⟩, hs⟩
    intro x y hxy hy
    exact (closing?_append_eq_none_iff hname closes rest).mp (first x y hxy hy)
  · rintro ⟨⟨u, close, opens, trimmed, closes, first, hneedle⟩, rfl⟩
    obtain ⟨needle, raw, content⟩ := o
    simp only at hneedle opens trimmed first ⊢
    subst hneedle
    have found := opening?_of_opens opens trimmed (x := '>') (by decide)
      (content ++ (close ++ rest))
    have ended : content? name (content ++ (close ++ rest)) = some (content, rest) :=
      content?_eq_some_iff.mpr ⟨close, closes, rfl, fun x y hxy hy =>
        (closing?_append_eq_none_iff hname closes rest).mpr (first x y hxy hy)⟩
    have whole : (u ++ '>' :: (content ++ close)) ++ rest =
        u ++ '>' :: (content ++ (close ++ rest)) := by simp
    rw [paired?, whole, found]
    simp only [ended, ← whole, upTo_append]

/-! ### Tags of the grammar are found -/

theorem isRawChar_of_isBlank {c : Char} (h : isBlank c = true) : isRawChar c = true := by
  by_contra hraw
  have hblank := isBlank_of_not_isRawChar (Bool.not_eq_true _ ▸ hraw)
  rw [h] at hblank
  cases hblank

/-- Blanks at the beginning of an attribute text count as blanks before it. -/
theorem Opens.trimmed {name raw u : List Char} (h : Opens name raw u) :
    ∃ raw', Opens name raw' u ∧ Trimmed raw' := by
  obtain ⟨n, blanks, spelled, hblanks, hraw, ends, rfl⟩ := h
  have split : (blanks ++ raw).takeWhile isBlank ++ (blanks ++ raw).dropWhile isBlank =
      blanks ++ raw := List.takeWhile_append_dropWhile
  refine ⟨(blanks ++ raw).dropWhile isBlank, ⟨n, (blanks ++ raw).takeWhile isBlank, spelled, ?_, ?_,
    ?_, ?_⟩, head?_dropWhile isBlank _⟩
  · intro c hc
    exact List.mem_takeWhile_imp hc
  · intro c hc
    rcases List.mem_append.mp ((List.dropWhile_sublist _).mem hc) with hc | hc
    · exact isRawChar_of_isBlank (hblanks c hc)
    · exact hraw c hc
  · rwa [split]
  · rw [split]

theorem content?_append_ne_none {name close : List Char} (closes : Closes name close)
    (content rest : List Char) : content? name (content ++ (close ++ rest)) ≠ none := by
  induction content with
  | nil =>
      obtain ⟨n, blanks, -, -, hclose⟩ := id closes
      have found : closing? name (close ++ rest) = some rest :=
        closing?_eq_some_iff.mpr ⟨close, closes, rfl⟩
      rw [hclose, List.cons_append] at found ⊢
      rw [List.nil_append, content?, found]
      simp
  | cons c content ih =>
      rw [List.cons_append, content?]
      split
      · simp
      · simpa using ih

theorem selfClosed?_ne_none {name u : List Char} (h : IsSelfClosed name u) (rest : List Char) :
    selfClosed? name (u ++ rest) ≠ none := by
  obtain ⟨raw, u, opens, rfl⟩ := h
  obtain ⟨raw, opens, trimmed⟩ := opens.trimmed
  have found := opening?_of_opens opens trimmed (x := '/') (by decide) ('>' :: rest)
  rw [show u ++ ['/', '>'] ++ rest = u ++ '/' :: '>' :: rest by simp, selfClosed?, found]
  simp

theorem paired?_ne_none {name u : List Char} (h : IsPaired name u) (rest : List Char) :
    paired? name (u ++ rest) ≠ none := by
  obtain ⟨raw, u, content, close, opens, closes, rfl⟩ := h
  obtain ⟨raw, opens, trimmed⟩ := opens.trimmed
  have found := opening?_of_opens opens trimmed (x := '>') (by decide) (content ++ (close ++ rest))
  have whole : u ++ '>' :: (content ++ close) ++ rest =
      u ++ '>' :: (content ++ (close ++ rest)) := by simp
  rw [whole, paired?, found]
  cases ended : content? name (content ++ (close ++ rest)) with
  | none => exact absurd ended (content?_append_ne_none closes content rest)
  | some _ => simp [ended]

/-! ### One occurrence at a place -/

/-- An occurrence of the name, in one of the two forms. -/
def Occurrence.Of (name : List Char) (o : Occurrence) : Prop := o.SelfClosed name ∨ o.Paired name

theorem Occurrence.needle_ne_nil {name : List Char} {o : Occurrence} (h : o.Of name) :
    o.needle ≠ [] := by
  rcases h with ⟨h, ⟨n, blanks, -, -, -, -, rfl⟩, -, hneedle, -⟩ |
    ⟨h, close, ⟨n, blanks, -, -, -, -, rfl⟩, -, -, -, hneedle⟩ <;> simp [hneedle]

/-- At one place there is not both a self-closed and a paired tag. -/
theorem paired?_eq_none_of_selfClosed? {name s : List Char} {o : Occurrence × List Char}
    (h : selfClosed? name s = some o) : paired? name s = none := by
  unfold selfClosed? at h
  split at h
  · next found =>
    rw [paired?, found]
    rfl
  · cases h

/-- What opens a tag contains none of the characters that end attribute texts. -/
theorem Opens.isRawChar {name raw u : List Char} (hname : NoBracket name) (h : Opens name raw u) :
    ∀ c ∈ u, ViewTag.isRawChar c = true := by
  obtain ⟨n, blanks, spelled, hblanks, hraw, -, rfl⟩ := h
  intro c hc
  simp only [List.mem_cons, List.mem_append] at hc
  rcases hc with rfl | hc | hc | hc
  · decide
  · have hn := spelled.noBracket hname c hc
    simp [ViewTag.isRawChar, hn.2.1, hn.2.2]
  · exact isRawChar_of_isBlank (hblanks c hc)
  · exact hraw c hc

/-- The bracket that ends a self-closed tag is the only one in it that points this way. -/
theorem IsSelfClosed.eq_append {name u : List Char} (hname : NoBracket name)
    (h : IsSelfClosed name u) : ∃ x, u = x ++ ['>'] ∧ '>' ∉ x := by
  obtain ⟨raw, u, opens, rfl⟩ := h
  refine ⟨u ++ ['/'], by simp, ?_⟩
  intro hmem
  rcases List.mem_append.mp hmem with hmem | hmem
  · exact absurd (opens.isRawChar hname _ hmem) (by decide)
  · simp at hmem

theorem Occurrence.SelfClosed.isSelfClosed {name : List Char} {o : Occurrence}
    (h : o.SelfClosed name) : IsSelfClosed name o.needle := by
  obtain ⟨u, opens, -, hneedle, -⟩ := h
  exact ⟨o.raw, u, opens, hneedle⟩

/-- A self-closed tag holds no paired one. -/
theorem Occurrence.SelfClosed.ne_append {name : List Char} {o p : Occurrence}
    (hname : NoBracket name) (h : o.SelfClosed name) (h' : p.Paired name)
    (before rest : List Char) : o.needle ≠ before ++ (p.needle ++ rest) := by
  obtain ⟨x, hx, absent⟩ := h.isSelfClosed.eq_append hname
  obtain ⟨u, close, -, -, ⟨n, blanks, -, -, rfl⟩, -, hneedle⟩ := h'
  intro heq
  have split : x ++ ['>'] = (before ++ (u ++ ['>'])) ++
      (p.content ++ ('<' :: '/' :: (n ++ (blanks ++ ['>'])) ++ rest)) := by
    rw [← hx, heq, hneedle]
    simp
  have hlast := congrArg List.dropLast split
  rw [List.dropLast_concat, List.dropLast_append_of_ne_nil (by simp)] at hlast
  apply absent
  rw [hlast]
  simp

/-- The spelling of a kept name is what stands before the first character that ends names. -/
theorem Opens.spells_takeWhile {name raw u : List Char} (hname : IsKey name) (h : Opens name raw u)
    {x : Char} (hx : ViewTag.isRawChar x = false) (rest : List Char) :
    Spells name ((u ++ x :: rest).tail.takeWhile (!endsName ·)) := by
  obtain ⟨n, blanks, spelled, -, -, ends, rfl⟩ := h
  have stop : ∀ c ∈ (blanks ++ raw ++ x :: rest).head?, (!endsName c) = false := by
    intro c hc
    cases hbr : blanks ++ raw with
    | nil =>
        rw [hbr] at hc
        rw [← Option.some.inj hc, endsName_of_not_isRawChar hx]
        rfl
    | cons d t =>
        rw [hbr] at hc ends
        rw [ends c hc]
        rfl
  have whole : ('<' :: (n ++ (blanks ++ raw)) ++ x :: rest).tail =
      n ++ (blanks ++ raw ++ x :: rest) := by simp
  rw [whole, takeWhile_append_of_stop (fun c hc => by simp [spelled.not_endsName hname c hc]) stop]
  exact spelled

theorem Occurrence.Of.spells_takeWhile {name : List Char} {o : Occurrence} (hname : IsKey name)
    (h : o.Of name) (rest : List Char) :
    Spells name ((o.needle ++ rest).tail.takeWhile (!endsName ·)) := by
  rcases h with ⟨u, opens, -, hneedle, -⟩ | ⟨u, close, opens, -, -, -, hneedle⟩
  · have found := opens.spells_takeWhile hname (x := '/') (by decide) ('>' :: rest)
    rw [hneedle]
    simpa using found
  · have found := opens.spells_takeWhile hname (x := '>') (by decide) (o.content ++ (close ++ rest))
    rw [hneedle]
    simpa using found

/-- Of kept names, two occurrences that begin at the same place have the same name. -/
theorem Occurrence.Of.name_unique {name name' : List Char} {o o' : Occurrence} (hname : IsKey name)
    (hname' : IsKey name') (h : o.Of name) (h' : o'.Of name') {rest rest' : List Char}
    (same : o.needle ++ rest = o'.needle ++ rest') : name = name' := by
  have spelled := h.spells_takeWhile hname rest
  rw [same] at spelled
  exact spelled.unique hname hname' (h'.spells_takeWhile hname' rest')

/-- Two occurrences of a name that begin at the same place are the same. -/
theorem Occurrence.Of.unique {name : List Char} {o o' : Occurrence} (hname : NoBracket name)
    (h : o.Of name) (h' : o'.Of name) {rest rest' : List Char}
    (same : o.needle ++ rest = o'.needle ++ rest') : o = o' := by
  have first : ∀ {o : Occurrence} (rest : List Char), o.SelfClosed name →
      selfClosed? name (o.needle ++ rest) = some (o, rest) :=
    fun rest h => selfClosed?_eq_some_iff.mpr ⟨h, rfl⟩
  have second : ∀ {o : Occurrence} (rest : List Char), o.Paired name →
      paired? name (o.needle ++ rest) = some (o, rest) :=
    fun rest h => (paired?_eq_some_iff hname).mpr ⟨h, rfl⟩
  rcases h with h | h <;> rcases h' with h' | h'
  · have found := first rest h
    rw [same, first rest' h'] at found
    exact (congrArg Prod.fst (Option.some.inj found)).symm
  · have found := paired?_eq_none_of_selfClosed? (first rest h)
    rw [same, second rest' h'] at found
    cases found
  · have found := paired?_eq_none_of_selfClosed? (first rest' h')
    rw [← same, second rest h] at found
    cases found
  · have found := second rest h
    rw [same, second rest' h'] at found
    exact (congrArg Prod.fst (Option.some.inj found)).symm

end TagWeave.ViewTag
