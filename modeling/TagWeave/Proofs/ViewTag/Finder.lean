import TagWeave.Proofs.ViewTag.Name
import TagWeave.Proofs.ViewTag.Scan

/-!
# What finders find

The tags that a finder returns are its occurrences, grouped by fingerprint: no two of
them have the same name and the same fingerprint, and every occurrence adds its needle
to one of them.
-/

namespace TagWeave

open TagWeave.Text

namespace ViewTag

theorem single?_eq_ok_iff {name : String} {o : Occurrence} {tag : ViewTag} :
    single? name o = .ok tag ↔ parseAttributes (String.ofList o.raw) name = .ok tag.attributes ∧
      tag.name = name ∧ tag.content = String.ofList o.content ∧
      tag.needles = [String.ofList o.needle] ∧ tag.identityFault? = none := by
  obtain ⟨name', content, attributes', needles⟩ := tag
  unfold single?
  cases parseAttributes (String.ofList o.raw) name with
  | error e => simp
  | ok attributes =>
      simp only
      split
      · next f unencodable =>
        simp only [reduceCtorEq, Except.ok.injEq, false_iff, not_and]
        rintro rfl rfl rfl rfl encodable
        rw [encodable] at unencodable
        cases unencodable
      · next encodable =>
        simp only [Except.ok.injEq, mk.injEq]
        constructor
        · rintro ⟨rfl, rfl, rfl, rfl⟩
          exact ⟨rfl, rfl, rfl, rfl, encodable⟩
        · rintro ⟨rfl, rfl, rfl, rfl, -⟩
          exact ⟨rfl, rfl, rfl, rfl⟩

/-- An occurrence is no tag because its attributes cannot be read, or because it cannot be encoded. -/
theorem exists_of_single?_error {name : String} {o : Occurrence} {e : Error}
    (h : single? name o = .error e) :
    (∃ fragment fault, e = .parse name fragment fault none) ∨ ∃ f, e = .fault (.unencodable f) := by
  rw [single?, parseAttributes] at h
  split at h
  · next failed =>
    cases read : readAttributes name.toList (String.ofList o.raw).toList with
    | error fault =>
        rw [read] at failed
        cases failed
        cases h
        exact .inl ⟨_, fault, rfl⟩
    | ok attributes =>
        rw [read] at failed
        cases failed
  · simp only at h
    split at h
    · next unencodable =>
      cases h
      obtain ⟨f, -, rfl⟩ := Option.map_eq_some_iff.mp unencodable
      exact .inr ⟨f, rfl⟩
    · cases h

/-! ### Groups -/

theorem fingerprint_needles (tag : ViewTag) (needles : List String) :
    ({ tag with needles } : ViewTag).fingerprint = tag.fingerprint := rfl

/-- The fingerprints of the groups are a set. -/
theorem fingerprints_addOccurrence (groups : List ViewTag) (tag : ViewTag) (needle : String) :
    (addOccurrence groups tag needle).map (·.fingerprint) =
      addTo (groups.map (·.fingerprint)) tag.fingerprint := by
  induction groups with
  | nil => rfl
  | cons g groups ih =>
      rw [addOccurrence]
      by_cases same : g.fingerprint = tag.fingerprint
      · rw [if_pos same, List.map_cons, List.map_cons, fingerprint_needles, addTo, if_pos]
        simp [same]
      · rw [if_neg same, List.map_cons, List.map_cons, ih]
        by_cases present : tag.fingerprint ∈ groups.map (·.fingerprint)
        · rw [addTo, addTo, if_pos (by simpa using present), if_pos]
          simpa using Or.inr (by simpa using present)
        · rw [addTo, addTo, if_neg (by simpa using present), if_neg, List.cons_append]
          simpa [Ne.symm same] using present

theorem mem_addOccurrence {groups : List ViewTag} {tag g : ViewTag} {needle : String}
    (h : g ∈ addOccurrence groups tag needle) :
    g ∈ groups ∨ (∃ g' ∈ groups, g'.fingerprint = tag.fingerprint ∧
      g = { g' with needles := g'.needles ++ [needle] }) ∨
      g = { tag with needles := [needle] } := by
  induction groups with
  | nil => exact .inr (.inr (List.mem_singleton.mp h))
  | cons g' groups ih =>
      rw [addOccurrence] at h
      split at h
      · next same =>
        rcases List.mem_cons.mp h with rfl | h
        · exact .inr (.inl ⟨g', List.mem_cons_self .., same, rfl⟩)
        · exact .inl (List.mem_cons_of_mem _ h)
      · rcases List.mem_cons.mp h with rfl | h
        · exact .inl (List.mem_cons_self ..)
        · rcases ih h with h | ⟨g'', h, added⟩ | h
          · exact .inl (List.mem_cons_of_mem _ h)
          · exact .inr (.inl ⟨g'', List.mem_cons_of_mem _ h, added⟩)
          · exact .inr (.inr h)

theorem needles_addOccurrence (groups : List ViewTag) (tag : ViewTag) (needle : String) :
    ((addOccurrence groups tag needle).flatMap (·.needles)).Perm
      (groups.flatMap (·.needles) ++ [needle]) := by
  induction groups with
  | nil => exact .refl _
  | cons g groups ih =>
      rw [addOccurrence]
      split
      · simp only [List.flatMap_cons, List.append_assoc]
        exact List.Perm.append_left _ List.perm_append_comm
      · simp only [List.flatMap_cons, List.append_assoc]
        exact List.Perm.append_left _ ih

/-- The groups stand for the occurrences: each has the identity of one of them, and its needles are
those of occurrences with its fingerprint. -/
structure Grouped (name : String) (os : List Occurrence) (groups : List ViewTag) : Prop where
  distinct : (groups.map (·.fingerprint)).Nodup
  perm : (groups.flatMap (·.needles)).Perm (os.map fun o => String.ofList o.needle)
  identity : ∀ g ∈ groups, ∃ o ∈ os, ∃ tag, single? name o = .ok tag ∧
    g = { tag with needles := g.needles }
  needle : ∀ g ∈ groups, ∀ n ∈ g.needles, ∃ o ∈ os, ∃ tag, single? name o = .ok tag ∧
    tag.needles = [n] ∧ tag.fingerprint = g.fingerprint
  needles_ne_nil : ∀ g ∈ groups, g.needles ≠ []

variable {name : String} {os : List Occurrence} {groups : List ViewTag}

theorem Grouped.nil (name : String) : Grouped name [] [] :=
  ⟨List.nodup_nil, .refl _, by simp, by simp, by simp⟩

theorem Grouped.add (grouped : Grouped name os groups) {o : Occurrence} {tag : ViewTag}
    (h : single? name o = .ok tag) :
    Grouped name (os ++ [o]) (addOccurrence groups tag (String.ofList o.needle)) := by
  have hneedles := (single?_eq_ok_iff.mp h).2.2.2.1
  have last : o ∈ os ++ [o] := List.mem_append_right _ (List.mem_singleton_self o)
  constructor
  · rw [fingerprints_addOccurrence]
    exact nodup_addTo grouped.distinct _
  · refine (needles_addOccurrence ..).trans ?_
    rw [List.map_append]
    exact grouped.perm.append_right _
  · intro g hg
    rcases mem_addOccurrence hg with hg | ⟨g', hg', same, rfl⟩ | rfl
    · obtain ⟨o', ho', found⟩ := grouped.identity g hg
      exact ⟨o', List.mem_append_left _ ho', found⟩
    · obtain ⟨o', ho', tag', found, heq⟩ := grouped.identity g' hg'
      refine ⟨o', List.mem_append_left _ ho', tag', found, ?_⟩
      rw [heq]
    · exact ⟨o, last, tag, h, rfl⟩
  · intro g hg n hn
    rcases mem_addOccurrence hg with hg | ⟨g', hg', same, rfl⟩ | rfl
    · obtain ⟨o', ho', found⟩ := grouped.needle g hg n hn
      exact ⟨o', List.mem_append_left _ ho', found⟩
    · rcases List.mem_append.mp hn with hn | hn
      · obtain ⟨o', ho', found⟩ := grouped.needle g' hg' n hn
        exact ⟨o', List.mem_append_left _ ho', found⟩
      · rw [List.mem_singleton.mp hn]
        exact ⟨o, last, tag, h, hneedles, same.symm⟩
    · rw [List.mem_singleton.mp hn]
      exact ⟨o, last, tag, h, hneedles, rfl⟩
  · intro g hg
    rcases mem_addOccurrence hg with hg | ⟨g', hg', same, rfl⟩ | rfl
    · exact grouped.needles_ne_nil g hg
    · simp
    · simp

theorem Grouped.name_eq (grouped : Grouped name os groups) {g : ViewTag} (hg : g ∈ groups) :
    g.name = name := by
  obtain ⟨o, -, tag, h, heq⟩ := grouped.identity g hg
  rw [heq]
  exact (single?_eq_ok_iff.mp h).2.1

theorem Grouped.eq_nil (grouped : Grouped name os []) : os = [] :=
  List.map_eq_nil_iff.mp grouped.perm.symm.eq_nil

/-- Occurrences can be grouped exactly if each is a tag. -/
theorem exists_collect_iff : (∃ tags, collect name groups os = .ok tags) ↔
    ∀ o ∈ os, ∃ tag, single? name o = .ok tag := by
  induction os generalizing groups with
  | nil => simp [collect]
  | cons o os ih =>
      rw [collect, List.forall_mem_cons]
      cases found : single? name o with
      | error e => simp
      | ok tag => simp [ih]

theorem exists_of_collect_error {e : Error} (h : collect name groups os = .error e) :
    ∃ o ∈ os, single? name o = .error e := by
  induction os generalizing groups with
  | nil => cases h
  | cons o os ih =>
      rw [collect] at h
      cases found : single? name o with
      | error e' =>
          rw [found] at h
          cases h
          exact ⟨o, List.mem_cons_self .., found⟩
      | ok tag =>
          rw [found] at h
          obtain ⟨o', among, spoilt⟩ := ih h
          exact ⟨o', List.mem_cons_of_mem _ among, spoilt⟩

theorem grouped_of_collect {done : List Occurrence} {tags : List ViewTag}
    (grouped : Grouped name done groups) (h : collect name groups os = .ok tags) :
    Grouped name (done ++ os) tags := by
  induction os generalizing done groups with
  | nil =>
      cases h
      rwa [List.append_nil]
  | cons o os ih =>
      rw [collect] at h
      cases found : single? name o with
      | error e =>
          rw [found] at h
          cases h
      | ok tag =>
          rw [found] at h
          have whole := ih (grouped.add found) h
          rwa [List.append_assoc] at whole

end ViewTag

namespace Finder

open ViewTag

variable {template : String} {names : List String} {tags : List ViewTag}

theorem grouped_of_findOne {name : String} (h : findOne template name = .ok tags) :
    Grouped name (occurrences name.toList template.toList) tags := by
  have whole := grouped_of_collect (.nil name) h
  rwa [List.nil_append] at whole

theorem findAll_cons_eq_ok_iff {name : String} : findAll template (name :: names) = .ok tags ↔
    ∃ first rest, findOne template name = .ok first ∧ findAll template names = .ok rest ∧
      tags = first ++ rest := by
  rw [findAll]
  cases findOne template name with
  | error e => simp
  | ok first =>
      cases findAll template names with
      | error e => simp [Except.map]
      | ok rest => simp [Except.map, eq_comm]

/-- A search succeeds exactly if every occurrence is a tag. -/
theorem exists_findAll_iff : (∃ tags, findAll template names = .ok tags) ↔
    ∀ name ∈ names, ∀ o ∈ occurrences name.toList template.toList,
      ∃ tag, single? name o = .ok tag := by
  induction names with
  | nil => simp [findAll]
  | cons name names ih =>
      rw [List.forall_mem_cons, ← ih, ← exists_collect_iff]
      constructor
      · rintro ⟨tags, h⟩
        obtain ⟨first, rest, found, others, -⟩ := findAll_cons_eq_ok_iff.mp h
        exact ⟨⟨first, found⟩, rest, others⟩
      · rintro ⟨⟨first, found⟩, rest, others⟩
        exact ⟨first ++ rest, findAll_cons_eq_ok_iff.mpr ⟨first, rest, found, others, rfl⟩⟩

/-- A search fails by an occurrence that is no tag. -/
theorem exists_of_findAll_error {e : Error} (h : findAll template names = .error e) :
    ∃ name ∈ names, ∃ o ∈ occurrences name.toList template.toList, single? name o = .error e := by
  induction names with
  | nil => cases h
  | cons name names ih =>
      rw [findAll] at h
      cases found : findOne template name with
      | error e' =>
          rw [found] at h
          cases h
          exact ⟨name, List.mem_cons_self .., exists_of_collect_error found⟩
      | ok first =>
          rw [found] at h
          cases others : findAll template names with
          | error e' =>
              rw [others] at h
              cases h
              obtain ⟨name', among, spoilt⟩ := ih others
              exact ⟨name', List.mem_cons_of_mem _ among, spoilt⟩
          | ok rest =>
              rw [others] at h
              cases h

/-- Every tag belongs to the groups of its name. -/
theorem exists_grouped_of_mem (h : findAll template names = .ok tags) {tag : ViewTag}
    (htag : tag ∈ tags) : tag.name ∈ names ∧
      ∃ groups, Grouped tag.name (occurrences tag.name.toList template.toList) groups ∧
        tag ∈ groups := by
  induction names generalizing tags with
  | nil =>
      cases h
      simp at htag
  | cons name names ih =>
      obtain ⟨first, rest, found, others, rfl⟩ := findAll_cons_eq_ok_iff.mp h
      rcases List.mem_append.mp htag with htag | htag
      · have grouped := grouped_of_findOne found
        have hname := grouped.name_eq htag
        rw [hname]
        exact ⟨List.mem_cons_self .., first, grouped, htag⟩
      · obtain ⟨hname, groups⟩ := ih others htag
        exact ⟨List.mem_cons_of_mem _ hname, groups⟩

/-- No two tags have the same name and the same fingerprint. -/
theorem pairwise_of_findAll (h : findAll template names = .ok tags) (nodup : names.Nodup) :
    tags.Pairwise fun tag tag' =>
      ¬ (tag.name = tag'.name ∧ tag.fingerprint = tag'.fingerprint) := by
  induction names generalizing tags with
  | nil =>
      cases h
      exact .nil
  | cons name names ih =>
      obtain ⟨first, rest, found, others, rfl⟩ := findAll_cons_eq_ok_iff.mp h
      obtain ⟨absent, nodup⟩ := List.nodup_cons.mp nodup
      have grouped := grouped_of_findOne found
      refine List.pairwise_append.mpr ⟨?_, ih others nodup, ?_⟩
      · exact (List.pairwise_map.mp grouped.distinct).imp fun differ same => differ same.2
      · rintro tag htag tag' htag' ⟨same, -⟩
        have hname := (exists_grouped_of_mem others htag').1
        rw [← same, grouped.name_eq htag] at hname
        exact absent hname

/-- The needles of the tags of a name, with their multiplicities. -/
def needlesOf (tags : List ViewTag) (name : String) : List String :=
  (tags.filter (·.name = name)).flatMap (·.needles)

/-- The needles of a name are those of its occurrences. -/
theorem needlesOf_perm (h : findAll template names = .ok tags) (nodup : names.Nodup) {name : String}
    (hname : name ∈ names) : (needlesOf tags name).Perm
      ((occurrences name.toList template.toList).map fun o => String.ofList o.needle) := by
  induction names generalizing tags with
  | nil => simp at hname
  | cons name' names ih =>
      obtain ⟨first, rest, found, others, rfl⟩ := findAll_cons_eq_ok_iff.mp h
      obtain ⟨absent, nodup⟩ := List.nodup_cons.mp nodup
      have grouped := grouped_of_findOne found
      rw [needlesOf, List.filter_append, List.flatMap_append]
      by_cases same : name = name'
      · subst same
        have all : first.filter (·.name = name) = first :=
          List.filter_eq_self.mpr fun tag htag => by simpa using grouped.name_eq htag
        have none : rest.filter (·.name = name) = [] := by
          refine List.filter_eq_nil_iff.mpr fun tag htag heq => absent ?_
          rw [← of_decide_eq_true heq]
          exact (exists_grouped_of_mem others htag).1
        rw [all, none, List.flatMap_nil, List.append_nil]
        exact grouped.perm
      · have none : first.filter (·.name = name) = [] := by
          refine List.filter_eq_nil_iff.mpr fun tag htag heq => same ?_
          rw [← of_decide_eq_true heq]
          exact grouped.name_eq htag
        rw [none, List.flatMap_nil, List.nil_append]
        exact ih others nodup (List.mem_of_ne_of_mem same hname)

/-- In another order of the names the same tags are found, in another order. -/
theorem findAll_perm {names' : List String} (perm : names.Perm names')
    (h : findAll template names = .ok tags) :
    ∃ tags', findAll template names' = .ok tags' ∧ tags.Perm tags' := by
  induction perm generalizing tags with
  | nil => exact ⟨tags, h, .refl _⟩
  | cons name _ ih =>
      obtain ⟨first, rest, found, others, rfl⟩ := findAll_cons_eq_ok_iff.mp h
      obtain ⟨rest', others', perm⟩ := ih others
      exact ⟨first ++ rest', findAll_cons_eq_ok_iff.mpr ⟨first, rest', found, others', rfl⟩,
        perm.append_left first⟩
  | swap name name' names =>
      obtain ⟨first, behind, found, after, rfl⟩ := findAll_cons_eq_ok_iff.mp h
      obtain ⟨second, rest, found', others, rfl⟩ := findAll_cons_eq_ok_iff.mp after
      refine ⟨second ++ (first ++ rest), ?_, ?_⟩
      · apply findAll_cons_eq_ok_iff.mpr
        exact ⟨second, _, found', findAll_cons_eq_ok_iff.mpr ⟨first, rest, found, others, rfl⟩, rfl⟩
      · rw [← List.append_assoc, ← List.append_assoc]
        exact List.perm_append_comm.append_right rest
  | trans _ _ ih ih' =>
      obtain ⟨between, found, perm⟩ := ih h
      obtain ⟨tags', found', perm'⟩ := ih' found
      exact ⟨tags', found', perm.trans perm'⟩

/-- If no tag is found, there are no occurrences of any name. -/
theorem occurrences_eq_nil (h : findAll template names = .ok []) :
    ∀ name ∈ names, occurrences name.toList template.toList = [] := by
  induction names with
  | nil => simp
  | cons name names ih =>
      obtain ⟨first, rest, found, others, heq⟩ := findAll_cons_eq_ok_iff.mp h
      obtain ⟨rfl, rfl⟩ := List.append_eq_nil_iff.mp heq.symm
      intro name' hname'
      rcases List.mem_cons.mp hname' with rfl | hname'
      · exact (grouped_of_findOne found).eq_nil
      · exact ih others name' hname'

end Finder

end TagWeave
