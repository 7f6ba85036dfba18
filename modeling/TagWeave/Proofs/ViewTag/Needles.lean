import TagWeave.Proofs.ViewTag.Finder
import TagWeave.Proofs.ViewTag.Identity

/-!
# Needles tell tags

A needle stands for one tag only. Of all needles that a finder returns at most one can
begin at a place of a text, whatever the digests are. If the digests do not collide,
tags differ in what identifies them, and each needle alone is found as its tag.
-/

namespace TagWeave

open TagWeave.Text TagWeave.ViewTag

namespace Finder

variable {template : String} {names : List String} {tags : List ViewTag}

/-- The identities whose digests a search compares, as they are digested. -/
def digestedIn (finder : Finder) (template : String) : List (List UInt8) :=
  finder.names.flatMap fun name =>
    (occurrences name.toList template.toList).filterMap fun o =>
      (single? name o).toOption.map fun tag => digested tag.name tag.content tag.attributes

theorem mem_digestedIn {finder : Finder} {name : String} (hname : name ∈ finder.names)
    {o : Occurrence} (ho : o ∈ occurrences name.toList template.toList) {tag : ViewTag}
    (h : single? name o = .ok tag) :
    digested tag.name tag.content tag.attributes ∈ finder.digestedIn template := by
  refine List.mem_flatMap.mpr ⟨name, hname, List.mem_filterMap.mpr ⟨o, ho, ?_⟩⟩
  rw [h]
  rfl

/-- A needle is the text of an occurrence that has the tag's fingerprint. -/
theorem exists_of_needle (kept : KeptNames names) (h : findAll template names = .ok tags)
    {tag : ViewTag} (htag : tag ∈ tags) {n : String} (hn : n ∈ tag.needles) :
    ∃ o ∈ occurrences tag.name.toList template.toList, o.Of tag.name.toList ∧
      o.needle = n.toList ∧ ∃ alone, single? tag.name o = .ok alone ∧
        alone.needles = [n] ∧ alone.fingerprint = tag.fingerprint := by
  obtain ⟨hname, groups, grouped, hgroup⟩ := exists_grouped_of_mem h htag
  obtain ⟨o, ho, alone, found, hneedles, same⟩ := grouped.needle tag hgroup n hn
  refine ⟨o, ho, of_mem_occurrences (kept.noBracket hname) ho, ?_, alone, found, hneedles, same⟩
  have whole := (single?_eq_ok_iff.mp found).2.2.2.1
  rw [hneedles] at whole
  rw [(List.cons.inj whole).1, String.toList_ofList]

/-- Needles that begin at the same place of a text are the same, and so are their tags. -/
theorem needle_unique (kept : KeptNames names) (h : findAll template names = .ok tags)
    {tag tag' : ViewTag} (htag : tag ∈ tags) (htag' : tag' ∈ tags) {n n' : String}
    (hn : n ∈ tag.needles) (hn' : n' ∈ tag'.needles) {text : List Char} (at_ : n.toList <+: text)
    (at' : n'.toList <+: text) :
    n = n' ∧ tag.name = tag'.name ∧ tag.fingerprint = tag'.fingerprint := by
  obtain ⟨o, -, occurs, hneedle, alone, found, -, same⟩ := exists_of_needle kept h htag hn
  obtain ⟨o', -, occurs', hneedle', alone', found', -, same'⟩ := exists_of_needle kept h htag' hn'
  have hname := (exists_grouped_of_mem h htag).1
  have hname' := (exists_grouped_of_mem h htag').1
  obtain ⟨rest, hrest⟩ := at_
  obtain ⟨rest', hrest'⟩ := at'
  rw [← hneedle] at hrest
  rw [← hneedle'] at hrest'
  have together := hrest.trans hrest'.symm
  have name : tag.name = tag'.name := String.toList_injective
    (occurs.name_unique (kept.isKey hname) (kept.isKey hname') occurs' together)
  rw [← name] at occurs' found'
  obtain rfl : o = o' := occurs.unique (kept.noBracket hname) occurs' together
  rw [found] at found'
  obtain rfl : alone = alone' := Except.ok.inj found'
  exact ⟨String.toList_injective (hneedle.symm.trans hneedle'), name, same.symm.trans same'⟩

/-- No text is a needle of two tags. -/
theorem pairwise_needles (kept : KeptNames names) (h : findAll template names = .ok tags) :
    tags.Pairwise fun tag tag' => ∀ n ∈ tag.needles, n ∉ tag'.needles := by
  refine (pairwise_of_findAll h kept.nodup).imp_of_mem ?_
  intro tag tag' htag htag' differ n hn hn'
  have same := needle_unique kept h htag htag' hn hn' (List.prefix_refl _) (List.prefix_refl _)
  exact differ same.2

theorem exampleNeedle_mem (h : findAll template names = .ok tags) {tag : ViewTag}
    (htag : tag ∈ tags) : tag.exampleNeedle ∈ tag.needles := by
  obtain ⟨-, groups, grouped, hgroup⟩ := exists_grouped_of_mem h htag
  have nonempty := grouped.needles_ne_nil tag hgroup
  cases hneedles : tag.needles with
  | nil => exact absurd hneedles nonempty
  | cons n needles =>
      rw [exampleNeedle, hneedles]
      exact List.mem_cons_self ..

/-- No two tags are shown by the same needle. -/
theorem nodup_exampleNeedles (kept : KeptNames names) (h : findAll template names = .ok tags) :
    (tags.map (·.exampleNeedle)).Nodup := by
  refine List.pairwise_map.mpr ((pairwise_needles kept h).imp_of_mem ?_)
  intro tag tag' htag htag' differ same
  apply differ _ (exampleNeedle_mem h htag)
  rw [same]
  exact exampleNeedle_mem h htag'

/-- What identifies a tag is that of each of its occurrences, if no digests collide. -/
theorem single?_needle (kept : KeptNames names) (h : findAll template names = .ok tags)
    (distinct : NoCollision ((Finder.mk names).digestedIn template)) {tag : ViewTag}
    (htag : tag ∈ tags) {n : String} (hn : n ∈ tag.needles) :
    ∃ o, o.Of tag.name.toList ∧ o.needle = n.toList ∧
      single? tag.name o = .ok { tag with needles := [n] } := by
  obtain ⟨o, ho, occurs, hneedle, alone, found, hneedles, same⟩ := exists_of_needle kept h htag hn
  obtain ⟨hname, groups, grouped, hgroup⟩ := exists_grouped_of_mem h htag
  obtain ⟨seed, hseed, first, found', hidentity⟩ := grouped.identity tag hgroup
  have hfirst : first.fingerprint = alone.fingerprint := by
    rw [same, hidentity]
    rfl
  obtain ⟨name, content, attributes⟩ := identity_of_fingerprint distinct
    (mem_digestedIn hname hseed found') (mem_digestedIn hname ho found) hfirst
  refine ⟨o, occurs, hneedle, ?_⟩
  have whole : ({ tag with needles := [n] } : ViewTag) = alone := by
    rw [hidentity, name, content, attributes, ← hneedles]
  rw [whole]
  exact found

theorem find_needle {name : String} (hname : NoBracket name.toList) {o : Occurrence}
    (occurs : o.Of name.toList) {alone : ViewTag} (h : single? name o = .ok alone) {n : String}
    (hn : o.needle = n.toList) : (Finder.mk [name]).find n = .ok [alone] := by
  have hneedles := (single?_eq_ok_iff.mp h).2.2.2.1
  have found : findOne n name = .ok [alone] := by
    rw [findOne, ← hn, occurrences_needle hname occurs, collect, h]
    simp only [addOccurrence, ← hneedles, collect]
  simp only [find, findAll, found, Except.map, List.append_nil]

/-- The tags that are found, if no digests collide: they differ in name, content or attributes; each
of their needles alone is found as the same tag with just that needle; and no needle is one of
another tag or the beginning of another needle, so that at most one of them begins at a place. -/
theorem needles_tell_tags (names : List String) (plain : ∀ name ∈ names, IsPlain name) :
    ∃ finder, ofNames names = .ok finder ∧ ∀ template tags, finder.find template = .ok tags →
      NoCollision (finder.digestedIn template) →
      (tags.Pairwise fun tag tag' => ¬ (tag.name = tag'.name ∧ tag.content = tag'.content ∧
        tag.attributes = tag'.attributes)) ∧
      (∀ tag ∈ tags, ∀ n ∈ tag.needles, ∃ alone, ofNames [tag.name] = .ok alone ∧
        alone.find n = .ok [{ tag with needles := [n] }]) ∧
      (tags.Pairwise fun tag tag' => ∀ n ∈ tag.needles, n ∉ tag'.needles) ∧
      (∀ n ∈ tags.flatMap (·.needles), ∀ n' ∈ tags.flatMap (·.needles),
        (n.toList <+: n'.toList → n = n') ∧
        ∀ text : List Char, n.toList <+: text → n'.toList <+: text → n = n') := by
  obtain ⟨finder, made, kept⟩ := ofNames_of_isPlain plain
  refine ⟨finder, made, ?_⟩
  intro template tags h distinct
  refine ⟨?_, ?_, pairwise_needles kept h, ?_⟩
  · refine (pairwise_of_findAll h kept.nodup).imp ?_
    rintro tag tag' differ ⟨name, content, attributes⟩
    refine differ ⟨name, ?_⟩
    rw [fingerprint, fingerprint, name, content, attributes]
  · intro tag htag n hn
    have hname := (exists_grouped_of_mem h htag).1
    obtain ⟨o, occurs, hneedle, found⟩ := single?_needle kept h distinct htag hn
    exact ⟨⟨[tag.name]⟩, kept.ofNames_singleton hname,
      find_needle (kept.noBracket hname) occurs found hneedle⟩
  · intro n hn n' hn'
    obtain ⟨tag, htag, hn⟩ := List.mem_flatMap.mp hn
    obtain ⟨tag', htag', hn'⟩ := List.mem_flatMap.mp hn'
    have unique : ∀ text : List Char, n.toList <+: text → n'.toList <+: text → n = n' :=
      fun text at_ at' => (needle_unique kept h htag htag' hn hn' at_ at').1
    exact ⟨fun before => unique _ before (List.prefix_refl _), unique⟩

/-- Two tags of one name and one of another. The first one stands in two places. -/
def mixed : List ViewTag :=
  [⟨"b", "", [], ["<b/>", "<B />"]⟩, ⟨"b", "x", [], ["<b>x</b>"]⟩, ⟨"i", "", [], ["<i/>"]⟩]

theorem find_mixed : (Finder.mk ["b", "i"]).find "<b/><i/><B /><b>x</b>" = .ok mixed := by
  have found : ((Finder.mk ["b", "i"]).find "<b/><i/><B /><b>x</b>").toOption = some mixed := by
    decide +kernel
  cases outcome : (Finder.mk ["b", "i"]).find "<b/><i/><B /><b>x</b>" with
  | error => simp [outcome, Except.toOption] at found
  | ok tags =>
      rw [outcome] at found
      exact congrArg _ (Option.some.inj found)

/-- The tags are told by their names and contents, each needle alone is found as its tag, and at a
place where a needle of the one tag begins none of the others does. -/
theorem needles_tell_tags_twice :
    (Finder.mk ["b", "i"]).find "<b/><i/><B /><b>x</b>" = .ok mixed ∧
      (mixed.Pairwise fun tag tag' => ¬ (tag.name = tag'.name ∧ tag.content = tag'.content ∧
        tag.attributes = tag'.attributes)) ∧
      (∃ alone, ofNames ["b"] = .ok alone ∧ alone.find "<B />" = .ok [⟨"b", "", [], ["<B />"]⟩]) ∧
      (mixed.Pairwise fun tag tag' => ∀ n ∈ tag.needles, n ∉ tag'.needles) ∧
      ∀ text, "<b/>".toList <+: text → ¬ "<b>x</b>".toList <+: text := by
  have plain : ∀ name ∈ ["b", "i"], IsPlain name := by
    refine List.forall_mem_cons.mpr ⟨⟨'b', [], rfl, by decide, by simp⟩, ?_⟩
    exact List.forall_mem_singleton.mpr ⟨'i', [], rfl, by decide, by simp⟩
  have distinct : NoCollision ((Finder.mk ["b", "i"]).digestedIn "<b/><i/><B /><b>x</b>") := by
    unfold NoCollision
    decide +kernel
  obtain ⟨finder, made, told⟩ := needles_tell_tags ["b", "i"] plain
  obtain rfl : Finder.mk ["b", "i"] = finder := Except.ok.inj (Eq.trans rfl made)
  obtain ⟨differ, alone, apart, unique⟩ := told _ _ find_mixed distinct
  refine ⟨find_mixed, differ, ?_, apart, fun text here there => ?_⟩
  · exact alone ⟨"b", "", [], ["<b/>", "<B />"]⟩ (by simp [mixed]) "<B />" (by simp)
  · have same := (unique "<b/>" (by simp [mixed]) "<b>x</b>" (by simp [mixed])).2 text here there
    exact absurd same (by decide)

end Finder

end TagWeave
