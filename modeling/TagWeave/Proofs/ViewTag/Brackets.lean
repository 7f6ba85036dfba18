import TagWeave.Proofs.ViewTag.Removal
import TagWeave.Proofs.ViewTag.Substitution

/-!
# Brackets of needles

Every needle begins with an opening bracket and ends with a closing one. If a finder
finds tags at all, one of their needles stands in the text itself, not only in what is
left when the paired tags are cut out. So at least one needle is replaced, and if
contents have no opening brackets, fewer of them are left.
-/

namespace TagWeave

/-- The number of opening brackets in a text. -/
def openings (text : String) : Nat := text.toList.count '<'

namespace ViewTag

variable {name s : List Char} {o : Occurrence}

/-- A needle stands between brackets. -/
theorem exists_needle_eq_of_mem (ho : o ∈ occurrences name s) :
    ∃ middle, o.needle = '<' :: (middle ++ ['>']) := by
  rcases List.mem_append.mp ho with ho | ho
  · obtain ⟨_, _, -, found⟩ := exists_of_mem_scan (findsPrefix_selfClosed? name) ho
    obtain ⟨u, opens, -, hneedle, -⟩ := (selfClosed?_eq_some_iff.mp found).1
    obtain ⟨behind, rfl⟩ := opens.exists_eq_cons
    exact ⟨behind ++ ['/'], by simp [hneedle]⟩
  · obtain ⟨_, _, -, found⟩ := exists_of_mem_scan (findsPrefix_paired? name) ho
    obtain ⟨u, close, opens, -, ⟨n, blanks, -, -, rfl⟩, -, hneedle, -⟩ := exists_of_paired? found
    obtain ⟨behind, rfl⟩ := opens.exists_eq_cons
    exact ⟨behind ++ '>' :: (o.content ++ '<' :: '/' :: (n ++ blanks)), by simp [hneedle]⟩

/-- A self-closed occurrence may come about only when the paired ones are cut out; but then there is a
paired one. -/
theorem exists_infix_of_occurrences (nonempty : occurrences name s ≠ []) :
    ∃ o ∈ occurrences name s, o.needle <:+: s := by
  cases paired : scan (paired? name) s with
  | cons o os =>
      have ho : o ∈ scan (paired? name) s := by
        rw [paired]
        exact List.mem_cons_self ..
      obtain ⟨before, rest, rfl, -⟩ := exists_of_mem_scan (findsPrefix_paired? name) ho
      exact ⟨o, List.mem_append_right _ ho, before, rest, List.append_assoc _ _ _⟩
  | nil =>
      have alone : occurrences name s = scan (selfClosed? name) s := by
        rw [occurrences, paired]
        exact List.append_nil _
      rw [alone] at nonempty ⊢
      obtain ⟨o, ho⟩ := List.exists_mem_of_ne_nil _ nonempty
      obtain ⟨before, rest, rfl, -⟩ := exists_of_mem_scan (findsPrefix_selfClosed? name) ho
      exact ⟨o, ho, before, rest, List.append_assoc _ _ _⟩

end ViewTag

namespace Finder

open ViewTag

variable {template : String} {names : List String} {tags : List ViewTag}

theorem exists_needle_eq (h : findAll template names = .ok tags) {tag : ViewTag}
    (htag : tag ∈ tags) {needle : String} (hneedle : needle ∈ tag.needles) :
    ∃ middle, needle.toList = '<' :: (middle ++ ['>']) := by
  obtain ⟨-, groups, grouped, hgroup⟩ := exists_grouped_of_mem h htag
  obtain ⟨o, ho, own, single, hown, -⟩ := grouped.needle tag hgroup needle hneedle
  rw [(single?_eq_ok_iff.mp single).2.2.2.1] at hown
  obtain ⟨middle, hmiddle⟩ := exists_needle_eq_of_mem ho
  exact ⟨middle, by rw [← List.singleton_inj.mp hown, String.toList_ofList, hmiddle]⟩

/-- If tags are found, a needle of one of them stands in the text. -/
theorem exists_needle_infix (h : findAll template names = .ok tags) (nonempty : tags ≠ []) :
    ∃ tag ∈ tags, ∃ needle ∈ tag.needles, needle.toList <:+: template.toList := by
  induction names generalizing tags with
  | nil =>
      cases h
      exact absurd rfl nonempty
  | cons name names ih =>
      obtain ⟨first, rest, found, others, rfl⟩ := findAll_cons_eq_ok_iff.mp h
      have grouped := grouped_of_findOne found
      cases hfirst : first with
      | nil =>
          rw [hfirst, List.nil_append] at nonempty
          exact ih others nonempty
      | cons group groups =>
          have occur : occurrences name.toList template.toList ≠ [] := by
            intro empty
            obtain ⟨o, ho, -⟩ := grouped.identity group (hfirst ▸ List.mem_cons_self ..)
            simp [empty] at ho
          obtain ⟨o, ho, within⟩ := exists_infix_of_occurrences occur
          obtain ⟨tag, htag, hneedle⟩ := List.mem_flatMap.mp
            (grouped.perm.mem_iff.mpr (List.mem_map_of_mem ho))
          refine ⟨tag, List.mem_append_left _ (hfirst ▸ htag), _, hneedle, ?_⟩
          rwa [String.toList_ofList]

end Finder

/-! ### What is left after a substitution -/

namespace Replacements

variable {rs : Replacements} {r : List Char × List Char} {s : List Char}

theorem longestAt?_cons (r : List Char × List Char) (rs : Replacements) (s : List Char) :
    longestAt? (r :: rs) s =
      if !r.1.isEmpty && r.1.isPrefixOf s then longer (some r) (rs.longestAt? s)
      else rs.longestAt? s := rfl

theorem longer_eq_some {a r : List Char × List Char} {b? : Option (List Char × List Char)}
    (h : longer (some a) b? = some r) : a = r ∨ b? = some r := by
  cases b? with
  | none => exact .inl (Option.some.inj h)
  | some b =>
      rw [longer] at h
      split at h
      · exact .inr h
      · exact .inl (Option.some.inj h)

theorem longer_some_ne_none (a : List Char × List Char) (b? : Option (List Char × List Char)) :
    longer (some a) b? ≠ none := by
  cases b? with
  | none => exact Option.some_ne_none a
  | some b => grind [longer]

/-- What is found at the start of a text is one of the needles. -/
theorem of_longestAt? (h : rs.longestAt? s = some r) : r ∈ rs ∧ r.1 ≠ [] ∧ r.1 <+: s := by
  induction rs with
  | nil => cases h
  | cons first rs ih =>
      rw [longestAt?_cons] at h
      split at h
      · next here =>
        rcases longer_eq_some h with rfl | h
        · simpa using here
        · exact (ih h).imp_left (List.mem_cons_of_mem _)
      · exact (ih h).imp_left (List.mem_cons_of_mem _)

theorem not_prefix_of_longestAt? (h : rs.longestAt? s = none) (hr : r ∈ rs) (nonempty : r.1 ≠ []) :
    ¬ r.1 <+: s := by
  induction rs with
  | nil => simp at hr
  | cons first rs ih =>
      rw [longestAt?_cons] at h
      split at h
      · exact absurd h (longer_some_ne_none first _)
      · next absent =>
        rcases List.mem_cons.mp hr with rfl | hr
        · simpa [nonempty] using absent
        · exact ih h hr

theorem ofEmpty_eq_nil (nonempty : ∀ r ∈ rs, r.1 ≠ []) : rs.ofEmpty = [] := by
  have absent : rs.find? (·.1.isEmpty) = none :=
    List.find?_eq_none.mpr fun r hr => by simpa using nonempty r hr
  rw [ofEmpty, absent]
  rfl

/-- A needle is replaced. -/
theorem applyWithin_append {rest : List Char} (h : rs.longestAt? (r.1 ++ rest) = some r) (fuel : Nat) :
    rs.applyWithin (fuel + 1) (r.1 ++ rest) = r.2 ++ rs.applyWithin fuel rest := by
  rw [applyWithin.eq_def]
  simp only [h, List.drop_left]

/-- Where no needle begins, a character stays, if there is no empty needle. -/
theorem applyWithin_cons {c : Char} (nonempty : ∀ r ∈ rs, r.1 ≠ [])
    (h : rs.longestAt? (c :: s) = none) (fuel : Nat) :
    rs.applyWithin (fuel + 1) (c :: s) = c :: rs.applyWithin fuel s := by
  rw [applyWithin, h, ofEmpty_eq_nil nonempty]
  rfl

theorem longestAt?_nil (rs : Replacements) : rs.longestAt? [] = none := by
  cases found : rs.longestAt? [] with
  | none => rfl
  | some r =>
      obtain ⟨-, nonempty, within⟩ := of_longestAt? found
      exact absurd (List.prefix_nil.mp within) nonempty

theorem applyWithin_nil (nonempty : ∀ r ∈ rs, r.1 ≠ []) (fuel : Nat) :
    rs.applyWithin fuel [] = [] := by
  cases fuel with
  | zero => rfl
  | succ fuel =>
      rw [applyWithin, longestAt?_nil, ofEmpty_eq_nil nonempty]
      rfl

/-- Characters that are in no replacement do not become more. -/
theorem count_applyWithin_le {m : Char} (nonempty : ∀ r ∈ rs, r.1 ≠ [])
    (absent : ∀ r ∈ rs, m ∉ r.2) (fuel : Nat) (s : List Char) :
    (rs.applyWithin fuel s).count m ≤ s.count m := by
  induction fuel generalizing s with
  | zero => exact Nat.le_refl _
  | succ fuel ih =>
      cases found : rs.longestAt? s with
      | some r =>
          obtain ⟨hr, -, rest, rfl⟩ := of_longestAt? found
          rw [applyWithin_append found]
          simp only [List.count_append, List.count_eq_zero_of_not_mem (absent r hr)]
          have rest := ih rest
          omega
      | none =>
          cases s with
          | nil => rw [applyWithin_nil nonempty]
          | cons c s =>
              rw [applyWithin_cons nonempty found, List.count_cons, List.count_cons]
              exact Nat.add_le_add_right (ih s) _

/-- If they are in every needle, and a needle stands in the text, they become fewer. -/
theorem count_applyWithin_lt {m : Char} (marked : ∀ r ∈ rs, m ∈ r.1) (absent : ∀ r ∈ rs, m ∉ r.2)
    (hr : r ∈ rs) {fuel : Nat} {s : List Char} (stands : r.1 <:+: s) (enough : s.length < fuel) :
    (rs.applyWithin fuel s).count m < s.count m := by
  have nonempty : ∀ r ∈ rs, r.1 ≠ [] := fun r hr => List.ne_nil_of_mem (marked r hr)
  induction fuel generalizing s with
  | zero => omega
  | succ fuel ih =>
      cases found : rs.longestAt? s with
      | some r =>
          obtain ⟨hr, -, rest, rfl⟩ := of_longestAt? found
          rw [applyWithin_append found]
          simp only [List.count_append, List.count_eq_zero_of_not_mem (absent r hr)]
          have rest := count_applyWithin_le nonempty absent fuel rest
          have replaced := List.count_pos_iff.mpr (marked r hr)
          omega
      | none =>
          have notHere := not_prefix_of_longestAt? found hr (nonempty r hr)
          cases s with
          | nil => exact absurd (List.infix_nil.mp stands) (nonempty r hr)
          | cons c s =>
              have later := (List.infix_cons_iff.mp stands).resolve_left notHere
              rw [applyWithin_cons nonempty found, List.count_cons, List.count_cons]
              exact Nat.add_lt_add_right (ih later (by simpa using enough)) _

/-! ### Replacements of resolved tags -/

variable {resolved : List (ViewTag × Content)}

theorem exists_of_mem_ofResolved (h : r ∈ ofResolved resolved) :
    ∃ pair ∈ resolved, r.2 = pair.2.text.toList ∧ ∃ needle ∈ pair.1.needles, r.1 = needle.toList := by
  induction resolved using List.reverseRecOn with
  | nil => simp [ofResolved] at h
  | append_singleton resolved pair ih =>
      rw [ofResolved_append] at h
      rcases (mem_foldl_set (keyed_ofResolved resolved)).mp h with ⟨ht, hn⟩ | ⟨-, h⟩
      · exact ⟨pair, List.mem_append_right _ (List.mem_singleton_self _), ht, hn⟩
      · obtain ⟨earlier, hearlier, found⟩ := ih h
        exact ⟨earlier, List.mem_append_left _ hearlier, found⟩

/-- Every needle is replaced, though not always by the content of its own tag. -/
theorem exists_mem_ofResolved {pair : ViewTag × Content} (hpair : pair ∈ resolved) {needle : String}
    (hneedle : needle ∈ pair.1.needles) : ∃ text, (needle.toList, text) ∈ ofResolved resolved := by
  induction resolved using List.reverseRecOn with
  | nil => simp at hpair
  | append_singleton resolved last ih =>
      simp only [ofResolved_append, mem_foldl_set (keyed_ofResolved resolved)]
      by_cases again : ∃ other ∈ last.1.needles, needle.toList = other.toList
      · exact ⟨_, .inl ⟨rfl, again⟩⟩
      · have elsewhere : ∀ other ∈ last.1.needles, needle.toList ≠ other.toList :=
          fun other hother same => again ⟨other, hother, same⟩
        rcases List.mem_append.mp hpair with hpair | hpair
        · obtain ⟨text, there⟩ := ih hpair
          exact ⟨text, .inr ⟨elsewhere, there⟩⟩
        · rw [List.mem_singleton.mp hpair] at hneedle
          exact absurd rfl (elsewhere needle hneedle)

end Replacements

/-- What is replaced are needles of tags that were found, by the contents of such tags. -/
theorem Replacements.of_mem_ofResolved {text : String} {names : List String} {tags : List ViewTag}
    (found : Finder.findAll text names = .ok tags) {resolved : List (ViewTag × Content)}
    (whole : resolved.map (·.1) = tags) {r : List Char × List Char} (hr : r ∈ ofResolved resolved) :
    (∃ middle, r.1 = '<' :: (middle ++ ['>'])) ∧ ∃ pair ∈ resolved, r.2 = pair.2.text.toList := by
  obtain ⟨pair, hpair, htext, needle, hneedle, heq⟩ := exists_of_mem_ofResolved hr
  have htag : pair.1 ∈ tags := whole ▸ List.mem_map_of_mem hpair
  obtain ⟨middle, hmiddle⟩ := Finder.exists_needle_eq found htag hneedle
  exact ⟨⟨middle, heq.trans hmiddle⟩, pair, hpair, htext⟩

/-- If contents without opening brackets take the place of the tags that were found, the text has
fewer opening brackets. -/
theorem openings_substitute_lt {text : String} {names : List String} {tags : List ViewTag}
    (found : Finder.findAll text names = .ok tags) (nonempty : tags ≠ [])
    {resolved : List (ViewTag × Content)} (whole : resolved.map (·.1) = tags)
    (free : ∀ pair ∈ resolved, '<' ∉ pair.2.text.toList) :
    openings (substitute text resolved) < openings text := by
  obtain ⟨tag, htag, needle, hneedle, stands⟩ := Finder.exists_needle_infix found nonempty
  rw [← whole] at htag
  obtain ⟨pair, hpair, rfl⟩ := List.mem_map.mp htag
  obtain ⟨content, replaced⟩ := Replacements.exists_mem_ofResolved hpair hneedle
  rw [openings, substitute, String.toList_ofList]
  refine Replacements.count_applyWithin_lt ?_ ?_ replaced stands (Nat.lt_succ_self _)
  · intro r hr
    obtain ⟨⟨middle, hmiddle⟩, -⟩ := Replacements.of_mem_ofResolved found whole hr
    rw [hmiddle]
    exact List.mem_cons_self ..
  · intro r hr
    obtain ⟨-, pair, hpair, htext⟩ := Replacements.of_mem_ofResolved found whole hr
    rw [htext]
    exact free pair hpair

/-- If tags are found, there is an opening bracket. -/
theorem openings_pos {text : String} {names : List String} {tags : List ViewTag}
    (found : Finder.findAll text names = .ok tags) (nonempty : tags ≠ []) : 0 < openings text := by
  obtain ⟨tag, htag, needle, hneedle, stands⟩ := Finder.exists_needle_infix found nonempty
  obtain ⟨middle, hmiddle⟩ := Finder.exists_needle_eq found htag hneedle
  rw [hmiddle] at stands
  exact List.count_pos_iff.mpr (stands.subset (List.mem_cons_self ..))

end TagWeave
