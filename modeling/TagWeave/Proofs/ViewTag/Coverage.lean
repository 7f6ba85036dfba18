import Mathlib.Data.List.Infix
import TagWeave.Proofs.ViewTag.Removal

/-!
# What a search covers

The paired tags of a name cut the template, and self-closed tags may lie in the
stretches between them. The needles that a search returns are all the paired ones, and
the self-closed ones in what is left of the template. These need not be those of the
stretches: one may come about where a paired tag is cut out, so that it stands nowhere
in the template, and one may be cut out because it stands in the text of a paired tag
that comes about likewise.
-/

namespace TagWeave

open TagWeave.Text TagWeave.ViewTag

namespace ViewTag

/-- The texts of the tags that a template holds, given how the paired ones cut it. -/
def held (name : List Char) (stretches : List (List Char)) (paired : List Occurrence) :
    List String :=
  (stretches.flatMap (scan (selfClosed? name)) ++ paired).map (·.text)

variable {name s : List Char} {stretches : List (List Char)} {paired : List Occurrence}

theorem infix_of_mem_held (cut : Cut (paired? name) s stretches paired) {n : String}
    (hn : n ∈ held name stretches paired) : n.toList <:+: s := by
  obtain ⟨o, ho, rfl⟩ := List.mem_map.mp hn
  rw [Occurrence.text, String.toList_ofList]
  rcases List.mem_append.mp ho with ho | ho
  · obtain ⟨stretch, hstretch, ho⟩ := List.mem_flatMap.mp ho
    obtain ⟨before, rest, hsplit, -⟩ := exists_of_mem_scan (findsPrefix_selfClosed? name) ho
    have inner : o.needle <:+: stretch := ⟨before, rest, by rw [hsplit, List.append_assoc]⟩
    exact inner.trans (cut.infix_of_mem hstretch)
  · exact cut.needle_infix_of_mem ho

/-- The occurrences are what the template holds if what is left holds those of the stretches. -/
theorem occurrences_perm_held_iff (cut : Cut (paired? name) s stretches paired) :
    ((occurrences name s).map (·.text)).Perm (held name stretches paired) ↔
      ((scan (selfClosed? name) (without paired s)).map (·.text)).Perm
        ((stretches.flatMap (scan (selfClosed? name))).map (·.text)) := by
  rw [occurrences, ← cut.eq_scan (findsPrefix_paired? name), held, List.map_append, List.map_append]
  exact List.perm_append_right_iff _

-- the self-closed tag in the stretch after the first paired tag is cut out with that stretch
example : occurrences "b".toList "<b<b>q</b>>y<b/></b> <b>y<b/></b>".toList =
    [⟨"<b>q</b>".toList, [], ['q']⟩, ⟨"<b>y<b/></b>".toList, [], "y<b/>".toList⟩] := by decide

theorem occurrences_perm_held_iff_of_pieces (hname : NoBracket name)
    (cut : Cut (paired? name) s stretches paired) {pieces remnants : List (List Char)}
    (h : pieces.Perm (stretches ++ remnants)) (left : without paired s = pieces.flatten) :
    ((occurrences name s).map (·.text)).Perm (held name stretches paired) ↔
      ¬ CrossesSeam name pieces ∧ ∀ r ∈ remnants, scan (selfClosed? name) r = [] := by
  rw [occurrences_perm_held_iff cut, left]
  exact scan_flatten_perm_iff hname h

theorem occurrences_perm_held_of_tidy (hname : NoBracket name)
    (cut : Cut (paired? name) s stretches paired) (tidy : Tidy stretches paired) :
    ((occurrences name s).map (·.text)).Perm (held name stretches paired) := by
  have pieces : stretches.Perm (stretches ++ []) := by rw [List.append_nil]
  refine (occurrences_perm_held_iff_of_pieces hname cut pieces
    (without_of_tidy hname cut tidy)).mpr ⟨not_crossesSeam_of_closed hname tidy.closed, ?_⟩
  simp

end ViewTag

namespace Finder

/-- The needles of a name are its paired tags and the self-closed tags of what is left when those
are cut out. They are just what the template holds if, and only if, the text that is left holds the
self-closed tags of the stretches; for a text that is joined from the stretches and remnants, if
nothing crosses a seam and the remnants hold nothing. It is enough that the cut is tidy. Needles
that are what the template holds stand in it. -/
theorem needlesOf_perm_held_iff {names : List String} {finder : Finder}
    (made : ofNames names = .ok finder) {template : String} {tags : List ViewTag}
    (found : finder.find template = .ok tags) {name : String} (hname : name ∈ finder.names) :
    (∃ stretches paired, Cut (paired? name.toList) template.toList stretches paired) ∧
    ∀ stretches paired, Cut (paired? name.toList) template.toList stretches paired →
      ((needlesOf tags name).Perm (((scan (selfClosed? name.toList)
        (without paired template.toList)) ++ paired).map (·.text))) ∧
      ((needlesOf tags name).Perm (held name.toList stretches paired) ↔
        ((scan (selfClosed? name.toList) (without paired template.toList)).map (·.text)).Perm
          ((stretches.flatMap (scan (selfClosed? name.toList))).map (·.text))) ∧
      (∀ pieces remnants, pieces.Perm (stretches ++ remnants) →
        without paired template.toList = pieces.flatten →
        ((needlesOf tags name).Perm (held name.toList stretches paired) ↔
          ¬ CrossesSeam name.toList pieces ∧
            ∀ r ∈ remnants, scan (selfClosed? name.toList) r = [])) ∧
      (Tidy stretches paired → (needlesOf tags name).Perm (held name.toList stretches paired)) ∧
      ((needlesOf tags name).Perm (held name.toList stretches paired) →
        ∀ n ∈ needlesOf tags name, n.toList <:+: template.toList) := by
  have noBracket := noBracket_of_mem made hname
  have nodup : finder.names.Nodup := by
    rw [(ofNames_eq_ok_iff.mp made).2]
    exact nodup_distinct _
  have all := needlesOf_perm found nodup hname
  constructor
  · obtain ⟨stretch, stretches, cut⟩ :=
      exists_cut (findsPrefix_paired? name.toList) template.toList
    exact ⟨_, _, cut⟩
  · intro stretches paired cut
    refine ⟨?_, ?_, ?_, ?_, ?_⟩
    · rw [occurrences, ← cut.eq_scan (findsPrefix_paired? name.toList)] at all
      exact all
    · rw [all.congr_left]
      exact occurrences_perm_held_iff cut
    · intro pieces remnants hpieces left
      rw [all.congr_left]
      exact occurrences_perm_held_iff_of_pieces noBracket cut hpieces left
    · intro tidy
      exact all.trans (occurrences_perm_held_of_tidy noBracket cut tidy)
    · intro same n hn
      exact infix_of_mem_held cut (same.mem_iff.mp hn)

theorem needlesOf_paired_and_alone : ∃ finder tags, ofNames ["b"] = .ok finder ∧
    finder.find "<b>x</b><b/>" = .ok tags ∧ (needlesOf tags "b").Perm ["<b/>", "<b>x</b>"] := by
  have occurs : occurrences "b".toList "<b>x</b><b/>".toList =
      [⟨"<b/>".toList, [], []⟩, ⟨"<b>x</b>".toList, [], ['x']⟩] := by decide
  obtain ⟨tags, found⟩ : ∃ tags, findAll "<b>x</b><b/>" ["b"] = .ok tags := by
    rw [exists_findAll_iff, List.forall_mem_singleton, occurs, List.forall_mem_cons,
      List.forall_mem_singleton]
    exact ⟨⟨_, rfl⟩, ⟨_, rfl⟩⟩
  have cut : Cut (paired? "b".toList) "<b>x</b><b/>".toList [[], "<b/>".toList]
      [⟨"<b>x</b>".toList, [], ['x']⟩] := by
    have whole : "<b>x</b><b/>".toList = "<b>x</b>".toList ++ "<b/>".toList := by decide
    rw [whole]
    exact @Cut.single _ (findsPrefix_paired? _) ⟨"<b>x</b>".toList, [], ['x']⟩ _ (by decide)
      (by decide)
  have tidy : Tidy [[], "<b/>".toList] [⟨"<b>x</b>".toList, [], ['x']⟩] :=
    ⟨by simp, by simp [ClosesBrackets]⟩
  have made : ofNames ["b"] = .ok ⟨["b"]⟩ := rfl
  have same := ((needlesOf_perm_held_iff made found (List.mem_singleton_self _)).2 _ _ cut).2.2.2.1
    tidy
  refine ⟨⟨["b"]⟩, tags, made, found, ?_⟩
  have texts : held "b".toList [[], "<b/>".toList] [⟨"<b>x</b>".toList, [], ['x']⟩] =
      ["<b/>", "<b>x</b>"] := by decide
  rwa [texts] at same

theorem cut_glued : Cut (paired? "block".toList) "<blo<block>x</block>ck/>".toList
    ["<blo".toList, "ck/>".toList] [⟨"<block>x</block>".toList, [], ['x']⟩] := by
  have front : "<blo".toList = ['<', 'b', 'l', 'o'] := by decide
  have whole : "<blo<block>x</block>ck/>".toList =
      '<' :: 'b' :: 'l' :: 'o' :: ("<block>x</block>".toList ++ "ck/>".toList) := by decide
  rw [front, whole]
  apply Cut.cons (by decide)
  apply Cut.cons (by decide)
  apply Cut.cons (by decide)
  apply Cut.cons (by decide)
  exact @Cut.single _ (findsPrefix_paired? _) ⟨"<block>x</block>".toList, [], ['x']⟩ _ (by decide)
    (by decide)

/-- Where a paired tag is cut out of the middle of what looks like another one, that one is found,
though it stands nowhere in the template. -/
theorem needlesOf_glued : ∃ finder tags stretches paired, ofNames ["block"] = .ok finder ∧
    finder.find "<blo<block>x</block>ck/>" = .ok tags ∧
    Cut (paired? "block".toList) "<blo<block>x</block>ck/>".toList stretches paired ∧
    ¬ (needlesOf tags "block").Perm (held "block".toList stretches paired) ∧
    "<block/>" ∈ needlesOf tags "block" ∧
    ¬ "<block/>".toList <:+: "<blo<block>x</block>ck/>".toList := by
  have occurs : occurrences "block".toList "<blo<block>x</block>ck/>".toList =
      [⟨"<block/>".toList, [], []⟩, ⟨"<block>x</block>".toList, [], ['x']⟩] := by decide
  obtain ⟨tags, found⟩ : ∃ tags, findAll "<blo<block>x</block>ck/>" ["block"] = .ok tags := by
    rw [exists_findAll_iff, List.forall_mem_singleton, occurs, List.forall_mem_cons,
      List.forall_mem_singleton]
    exact ⟨⟨_, rfl⟩, ⟨_, rfl⟩⟩
  have all := needlesOf_perm found (by simp) (List.mem_singleton_self _)
  rw [occurs] at all
  have absent : ¬ "<block/>".toList <:+: "<blo<block>x</block>ck/>".toList := by
    have nowhere : ∀ t ∈ "<blo<block>x</block>ck/>".toList.tails,
        "<block/>".toList.isPrefixOf t = false := by decide
    intro inside
    obtain ⟨t, hprefix, hsuffix⟩ := List.infix_iff_prefix_suffix.mp inside
    have here := nowhere t ((List.mem_tails _ _).mpr hsuffix)
    rw [List.isPrefixOf_iff_prefix.mpr hprefix] at here
    cases here
  have glued : "<block/>" ∈ needlesOf tags "block" := all.mem_iff.mpr (by decide)
  refine ⟨⟨["block"]⟩, tags, _, _, rfl, found, cut_glued, ?_, glued, absent⟩
  intro same
  exact absent (infix_of_mem_held cut_glued (same.mem_iff.mp glued))

end Finder

end TagWeave
