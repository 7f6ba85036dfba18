import TagWeave.Proofs.ViewTag.Finder
import TagWeave.Proofs.ViewTag.Seams

/-!
# Looking for tags in what is left

Self-closed tags are looked for in what is left when the paired ones are cut out. This
is the stretches between the paired tags, joined, only if the texts that are cut out
occur nowhere else, also not where others have been cut out before. And then a tag may
cross a seam. The needles of a name are those of the template exactly if neither has an
effect on what is found.
-/

namespace TagWeave.ViewTag

open TagWeave.Text

variable {name : List Char}

/-! ### Paired tags within paired tags -/

theorem Opens.not_mem {raw u : List Char} (hname : NoBracket name) (h : Opens name raw u) :
    '/' ∉ u ∧ '>' ∉ u :=
  ⟨fun hmem => absurd (h.isRawChar hname _ hmem) (by decide),
    fun hmem => absurd (h.isRawChar hname _ hmem) (by decide)⟩

/-- An opening that begins before a closing tag also ends before it. -/
theorem Opens.exists_of_closes {raw u front close rest behind : List Char} (hname : NoBracket name)
    (h : Opens name raw u) (closes : Closes name close)
    (same : front ++ (close ++ rest) = u ++ '>' :: behind) :
    ∃ after, front = u ++ '>' :: after := by
  obtain ⟨noSlash, noBracket⟩ := h.not_mem hname
  obtain ⟨n, blanks, -, -, rfl⟩ := closes
  have same' : (front ++ ['<', '/']) ++ (n ++ (blanks ++ ['>']) ++ rest) =
      (u ++ ['>']) ++ behind := by simpa using same
  rcases List.append_eq_append_iff.mp same' with ⟨as, hu, -⟩ | ⟨bs, hfront, -⟩
  · have hmem : '/' ∈ u ++ ['>'] := by
      rw [hu]
      simp
    simp [noSlash] at hmem
  · rcases List.append_eq_append_iff.mp hfront with ⟨as, hu, has⟩ | ⟨cs, hcs, -⟩
    · rcases List.suffix_concat_iff.mp ⟨front, hu.symm⟩ with rfl | ⟨t, rfl, -⟩
      · exact ⟨[], by simpa using hu.symm⟩
      · have hmem : '>' ∈ ['<', '/'] := by
          rw [has]
          simp
        simp at hmem
    · exact ⟨cs, by simpa using hcs⟩

/-- A closing tag begins with the only opening bracket in it. -/
theorem Closes.eq_cons {close : List Char} (hname : NoBracket name) (h : Closes name close) :
    ∃ behind, close = '<' :: behind ∧ '<' ∉ behind := by
  obtain ⟨n, blanks, spelled, hblanks, rfl⟩ := h
  refine ⟨_, rfl, ?_⟩
  intro hmem
  simp only [List.mem_cons, List.mem_append, List.not_mem_nil, Char.reduceEq, false_or, or_false]
    at hmem
  rcases hmem with hmem | hmem
  · exact (spelled.noBracket hname '<' hmem).1 rfl
  · exact absurd (hblanks '<' hmem) (by decide)

theorem Opens.exists_eq_cons {raw u : List Char} (h : Opens name raw u) :
    ∃ behind, u = '<' :: behind := by
  obtain ⟨n, blanks, -, -, -, -, rfl⟩ := h
  exact ⟨_, rfl⟩

/-- An opening tag that begins within a paired tag ends before the closing one. -/
theorem exists_content_of_overlap (hname : NoBracket name)
    {u content close raw u' x y rest behind raw' : List Char} (opens : Opens name raw u)
    (closes : Closes name close) (opens' : Opens name raw' u') (hy : y ≠ [])
    (hsplit : u ++ '>' :: (content ++ close) = x ++ y) (overlap : y ++ rest = u' ++ '>' :: behind) :
    ∃ before after, content = before ++ after ∧ y = u' ++ '>' :: (after ++ close) := by
  have later : ∀ before front, content = before ++ front → y = front ++ close →
      ∃ before after, content = before ++ after ∧ y = u' ++ '>' :: (after ++ close) := by
    rintro before front rfl rfl
    rw [List.append_assoc] at overlap
    obtain ⟨after, rfl⟩ := opens'.exists_of_closes hname closes overlap
    exact ⟨before ++ (u' ++ ['>']), after, by simp, by simp⟩
  have split : (u ++ ['>']) ++ (content ++ close) = x ++ y := by simpa using hsplit
  rcases List.append_eq_append_iff.mp split with ⟨d, -, hd⟩ | ⟨d, hd, rfl⟩
  · rcases List.append_eq_append_iff.mp hd with ⟨e, -, hclose⟩ | ⟨front, hfront, hy⟩
    · -- the closing tag has no opening bracket but at its beginning
      obtain ⟨c, y, rfl⟩ := List.exists_cons_of_ne_nil hy
      obtain ⟨behind', hopen⟩ := opens'.exists_eq_cons
      obtain ⟨tail, htail, absent⟩ := closes.eq_cons hname
      have hc : c = '<' := by
        rw [hopen] at overlap
        exact (List.cons.inj overlap).1
      cases e with
      | nil => exact later content [] (List.append_nil _).symm hclose.symm
      | cons d e =>
          rw [hclose, List.cons_append] at htail
          refine absurd ?_ absent
          rw [← (List.cons.inj htail).2, hc]
          simp
    · exact later d front hfront hy
  · rcases List.suffix_concat_iff.mp ⟨x, hd.symm⟩ with rfl | ⟨t, rfl, ht⟩
    · exact later [] content rfl rfl
    · have same : t ++ '>' :: (content ++ close ++ rest) = u' ++ '>' :: behind := by
        simpa using overlap
      obtain ⟨rfl, -⟩ := append_mark_inj same (fun h => (opens.not_mem hname).2 (ht.subset h))
        (opens'.not_mem hname).2
      exact ⟨[], content, rfl, by simp⟩

/-- A paired tag that begins within another one ends with it. -/
theorem Occurrence.Paired.needle_eq_of_overlap (hname : NoBracket name) {o p : Occurrence}
    (ho : o.Paired name) (hp : p.Paired name) {x y rest behind : List Char} (hy : y ≠ [])
    (hsplit : o.needle = x ++ y) (overlap : y ++ rest = p.needle ++ behind) : p.needle = y := by
  obtain ⟨u, close, opens, -, closes, first, hneedle⟩ := ho
  obtain ⟨u', close', opens', trimmed', -, -, hneedle'⟩ := id hp
  have overlap' : y ++ rest = u' ++ '>' :: (p.content ++ close' ++ behind) := by
    rw [overlap, hneedle']
    simp
  rw [hneedle] at hsplit
  obtain ⟨before, after, hcontent, rfl⟩ :=
    exists_content_of_overlap hname opens closes opens' hy hsplit overlap'
  have whole : (⟨u' ++ '>' :: (after ++ close), p.raw, after⟩ : Occurrence).Paired name := by
    refine ⟨u', close, opens', trimmed', closes, ?_, rfl⟩
    intro x y hxy hy
    have hcontent' : o.content = (before ++ x) ++ y := by
      rw [hcontent, List.append_assoc]
      exact congrArg _ hxy
    exact first _ y hcontent' hy
  have same := Occurrence.Of.unique hname (.inr whole) (.inr hp) overlap
  exact (congrArg Occurrence.needle same).symm

/-! ### Cutting out the paired tags -/

/-- Stretches with texts at the seams between them. -/
def woven : List (List Char) → List (List Char) → List Char
  | stretch :: stretches, seam :: seams => stretch ++ (seam ++ woven stretches seams)
  | stretches, _ => stretches.flatten

/-- What is at the seam of an occurrence after some texts have been cut out. -/
def remaining (gone : List (List Char)) (o : Occurrence) : List Char :=
  if o.needle ∈ gone then [] else o.needle

/-- Each opening bracket in the text is followed by a closing one. -/
def ClosesBrackets (text : List Char) : Prop := ∀ x y, text = x ++ '<' :: y → '>' ∈ y

/-- A cut of which no paired tag ends with another one, and every stretch but the last closes its
brackets. -/
structure Tidy (stretches : List (List Char)) (paired : List Occurrence) : Prop where
  apart : ∀ o ∈ paired, ∀ p ∈ paired, o.needle <:+ p.needle → o.needle = p.needle
  closed : ∀ stretch ∈ stretches.dropLast, ClosesBrackets stretch

theorem woven_of_forall_nil {stretches seams : List (List Char)} (h : ∀ seam ∈ seams, seam = []) :
    woven stretches seams = stretches.flatten := by
  induction seams generalizing stretches with
  | nil => cases stretches <;> rfl
  | cons seam seams ih =>
      cases stretches with
      | nil => rfl
      | cons stretch stretches =>
          rw [woven, h seam (List.mem_cons_self ..), ih fun s hs => h s (List.mem_cons_of_mem _ hs)]
          rfl

variable {s : List Char} {stretches : List (List Char)} {os : List Occurrence}

theorem Cut.eq_woven {find? : List Char → Option (Occurrence × List Char)}
    (cut : Cut find? s stretches os) : s = woven stretches (os.map (·.needle)) := by
  induction cut with
  | last => simp [woven]
  | next _ _ _ ih => rw [List.map_cons, woven, ← ih]

/-- Where a stretch closes its brackets no paired tag begins in it, whatever follows. -/
theorem not_prefix_of_closed {stretch rest : List Char} {o p : Occurrence} (hname : NoBracket name)
    (free : ∀ x y, stretch = x ++ y → y ≠ [] → paired? name (y ++ (o.needle ++ rest)) = none)
    (closed : ClosesBrackets stretch) (ho : o.Paired name) (hp : p.Paired name)
    {x y : List Char} (hxy : stretch = x ++ y) (hy : y ≠ []) (following : List Char) :
    ¬ p.needle <+: y ++ following := by
  intro h
  obtain ⟨u, close, opens, -, -, -, hneedle⟩ := hp
  obtain ⟨u', close', -, -, closes', -, hneedle'⟩ := ho
  have start : u ++ ['>'] <+: y ++ following := by
    refine (List.prefix_append (u ++ ['>']) (p.content ++ close)).trans ?_
    simpa [hneedle] using h
  have ends : '>' ∈ y := by
    obtain ⟨c, y, rfl⟩ := List.exists_cons_of_ne_nil hy
    obtain ⟨behind, rfl⟩ := opens.exists_eq_cons
    obtain rfl : '<' = c := (List.cons_prefix_cons.mp start).1
    exact List.mem_cons_of_mem _ (closed x y hxy)
  obtain ⟨inside, rfl⟩ := prefix_of_prefix_append start (opens.not_mem hname).2 ends
  -- the closing tag of the occurrence that follows makes it a tag that begins in the stretch
  have tag : IsPaired name (u ++ '>' :: (inside ++ (u' ++ '>' :: o.content) ++ close')) :=
    ⟨p.raw, u, inside ++ (u' ++ '>' :: o.content), close', opens, closes', rfl⟩
  apply paired?_ne_none tag rest
  have none := free x _ hxy hy
  rw [hneedle'] at none
  simpa using none

/-- Cutting out a paired tag empties the seams at which it stands. -/
theorem removeAll_woven (hname : NoBracket name) (cut : Cut (paired? name) s stretches os)
    (closed : ∀ stretch ∈ stretches.dropLast, ClosesBrackets stretch)
    {p : Occurrence} (hp : p.Paired name)
    (apart : ∀ o ∈ os, p.needle <:+ o.needle → p.needle = o.needle) (gone : List (List Char)) :
    removeAll p.needle (woven stretches (os.map (remaining gone))) =
      woven stretches (os.map (remaining (p.needle :: gone))) := by
  have nonempty := Occurrence.needle_ne_nil (.inr hp)
  induction cut with
  | @last stretch free =>
      have absent : ∀ x y, stretch = x ++ y → y ≠ [] → ¬ p.needle <+: y ++ [] := by
        rintro x y hxy hy ⟨t, ht⟩
        have found : paired? name y = some (p, t) :=
          (paired?_eq_some_iff hname).mpr ⟨hp, by simpa using ht.symm⟩
        rw [free x y hxy hy] at found
        cases found
      have kept := removeAll_append absent
      rw [List.append_nil] at kept
      simpa [woven] using kept
  | @next stretch rest o stretches os free found cut ih =>
      have ho : o.Paired name := ((paired?_eq_some_iff hname).mp found).1
      have later := ih
        (fun t ht => closed t (by
          rw [List.dropLast_cons_of_ne_nil cut.stretches_ne_nil]
          exact List.mem_cons_of_mem _ ht))
        fun q hq => apart q (List.mem_cons_of_mem _ hq)
      have here : ClosesBrackets stretch := closed stretch (by
        rw [List.dropLast_cons_of_ne_nil cut.stretches_ne_nil]
        exact List.mem_cons_self ..)
      rw [List.map_cons, List.map_cons, woven, woven,
        removeAll_append fun x y hxy hy => not_prefix_of_closed hname free here ho hp hxy hy _]
      congr 1
      by_cases before : o.needle ∈ gone
      · rw [remaining, remaining, if_pos before, if_pos (List.mem_cons_of_mem _ before)]
        exact later
      · by_cases same : o.needle = p.needle
        · have cutOut : o.needle ∈ p.needle :: gone := by
            rw [same]
            exact List.mem_cons_self ..
          rw [remaining, remaining, if_neg before, if_pos cutOut, same,
            removeAll_append_self nonempty]
          exact later
        · rw [remaining, remaining, if_neg before, if_neg (by simpa using ⟨same, before⟩), ← later]
          apply removeAll_append
          rintro x y hxy hy ⟨t, ht⟩
          have hneedle := ho.needle_eq_of_overlap hname hp hy hxy ht.symm
          refine same (apart o (List.mem_cons_self ..) ?_).symm
          rw [hneedle, hxy]
          exact List.suffix_append _ _

/-- Cutting out paired tags, one after the other, empties the seams at which they stand. -/
theorem without_woven (hname : NoBracket name) (cut : Cut (paired? name) s stretches os)
    (tidy : Tidy stretches os) {removed : List Occurrence} (h : ∀ o ∈ removed, o ∈ os)
    (gone : List (List Char)) : without removed (woven stretches (os.map (remaining gone))) =
      woven stretches (os.map (remaining ((removed.map (·.needle)).reverse ++ gone))) := by
  induction removed generalizing gone with
  | nil => rfl
  | cons p removed ih =>
      have hp := h p (List.mem_cons_self ..)
      obtain ⟨_, _, -, found⟩ := cut.exists_of_mem hp
      have paired := ((paired?_eq_some_iff hname).mp found).1
      have first := removeAll_woven hname cut tidy.closed paired (tidy.apart p hp) gone
      have later := ih (fun o ho => h o (List.mem_cons_of_mem _ ho)) (p.needle :: gone)
      rw [without, List.foldl_cons, first]
      simpa [without] using later

/-- Where cutting out the paired tags cuts out nothing else, the stretches are left. -/
theorem without_of_tidy (hname : NoBracket name) (cut : Cut (paired? name) s stretches os)
    (tidy : Tidy stretches os) : without os s = stretches.flatten := by
  have seams : os.map (remaining []) = os.map (·.needle) :=
    List.map_congr_left fun o _ => if_neg List.not_mem_nil
  have whole : s = woven stretches (os.map (remaining [])) := by
    rw [seams]
    exact cut.eq_woven
  rw [whole, without_woven hname cut tidy (fun _ ho => ho) []]
  apply woven_of_forall_nil
  intro seam hseam
  obtain ⟨o, ho, rfl⟩ := List.mem_map.mp hseam
  rw [remaining, if_pos]
  simpa using ⟨o, ho, rfl⟩

/-- No tag crosses a seam if the stretches before it close their brackets. -/
theorem not_crossesSeam_of_closed (hname : NoBracket name)
    (closed : ∀ stretch ∈ stretches.dropLast, ClosesBrackets stretch) :
    ¬ CrossesSeam name stretches := by
  rintro ⟨before, stretch, after, rfl, x, z, hx, hz, ⟨t, rfl⟩, hprefix, tag⟩
  have inner : t ++ x ∈ (before ++ (t ++ x) :: after).dropLast := by
    cases after with
    | nil => exact absurd (List.prefix_nil.mp hprefix) hz
    | cons next after => simp
  obtain ⟨raw, u, opens, heq⟩ := id tag
  obtain ⟨behind, rfl⟩ := opens.exists_eq_cons
  obtain ⟨c, x, rfl⟩ := List.exists_cons_of_ne_nil hx
  obtain rfl : c = '<' := (List.cons.inj heq).1
  have ends := closed _ inner t x rfl
  exact not_mem_of_isSelfClosed_append hname tag hz (List.mem_cons_of_mem _ ends)

end TagWeave.ViewTag
