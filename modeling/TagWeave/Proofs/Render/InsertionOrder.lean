import TagWeave.Proofs.Render.Pool
import TagWeave.Proofs.ViewTag.Needles
import TagWeave.Proofs.ViewTag.Substitution

/-!
# The order of a registry

Registries that have the same retrievers under the same names may have them in different
orders. The order is that in which tags are found and resolved. Nothing else depends on
it, if what a retriever answers depends on the tag alone: the tags that are found differ
in their order only, no two of them share a needle, and a report is about sets of names
and labels.
-/

namespace TagWeave

variable {τ σ : Type} [Add τ] [LE τ] [DecidableLE τ]

namespace Registry

variable {registry registry' : Registry τ σ}

omit [Add τ] [LE τ] [DecidableLE τ] in
/-- The same names are registered, in some order. -/
theorem names_perm (kept : KeptNames registry.names) (kept' : KeptNames registry'.names)
    (same : ∀ name, registry.find? name = registry'.find? name) :
    registry.names.Perm registry'.names := by
  apply (List.perm_ext_iff_of_nodup kept.nodup kept'.nodup).mpr
  intro name
  rw [mem_names_iff kept, mem_names_iff kept', same]

omit [Add τ] [LE τ] [DecidableLE τ] in
/-- If the names differ, the order of the entries decides nothing. -/
theorem find?_eq_of_perm (perm : registry.entries.Perm registry'.entries)
    (once : registry.names.Nodup) (name : String) : registry.find? name = registry'.find? name := by
  rw [find?, find?, find?_perm perm]
  intro entry there entry' there' named named'
  apply List.inj_on_of_nodup_map once there there'
  exact (of_decide_eq_true named).trans (of_decide_eq_true named').symm

/-- What a tag is resolved to depends only on what is found under its name. -/
theorem resolve_congr (same : ∀ name, registry.find? name = registry'.find? name) :
    registry.resolve = registry'.resolve := by
  funext guarded tag world
  rw [resolve, resolve, same]

end Registry

/-- In another order of the names a search fails or succeeds as before, and finds the same tags. -/
theorem Finder.findAll_error_or_ok {names names' : List String} (perm : names.Perm names')
    (text : String) :
    (∃ e e', findAll text names = .error e ∧ findAll text names' = .error e') ∨
      ∃ tags tags', findAll text names = .ok tags ∧ findAll text names' = .ok tags' ∧
        tags.Perm tags' := by
  cases found : findAll text names with
  | ok tags =>
      obtain ⟨tags', found', same⟩ := findAll_perm perm found
      exact .inr ⟨tags, tags', rfl, found', same⟩
  | error e =>
      cases found' : findAll text names' with
      | error e' => exact .inl ⟨e, e', rfl, rfl⟩
      | ok tags' =>
          obtain ⟨tags, succeeds, -⟩ := findAll_perm perm.symm found'
          rw [found] at succeeds
          cases succeeds

/-- The tags of a search keep their needles apart when they have contents. -/
theorem Settled.apart_contents {names : List String} (kept : KeptNames names) {text : String}
    {tags : List ViewTag} (found : Finder.findAll text names = .ok tags)
    (answer : ViewTag → Outcome Content) : Replacements.Apart (contents answer tags) :=
  List.pairwise_map.mpr (Finder.pairwise_needles kept found)

namespace Renderer

variable {renderer : Renderer τ σ} {registry' : Registry τ σ} {bindings : List Value}
variable {alike : World τ σ → World τ σ → Prop}

/-- The renderer with another registry, and a finder for the names in it. -/
def withRegistry (renderer : Renderer τ σ) (registry : Registry τ σ) : Renderer τ σ :=
  { renderer with registry, finder := ⟨registry.names⟩ }

/-- The same retrievers, in whatever order, answer as they did. -/
theorem TagDetermined.reordered (determined : renderer.TagDetermined bindings alike)
    (same : ∀ name, renderer.registry.find? name = registry'.find? name) :
    (renderer.withRegistry registry').TagDetermined bindings alike where
  symm := determined.symm
  trans := determined.trans
  interpolate := determined.interpolate
  retrieve := fun h name _ found => determined.retrieve h ((same name).trans found)
  note := determined.note
  delayed := determined.delayed

/-- Passes with registries in different orders concur: they find and resolve the same tags, in
different orders. -/
theorem TagDetermined.concurrent_reordered (determined : renderer.TagDetermined bindings alike)
    (kept : KeptNames renderer.registry.names) (kept' : KeptNames registry'.names)
    (same : ∀ name, renderer.registry.find? name = registry'.find? name)
    (derived : renderer.finder = ⟨renderer.registry.names⟩)
    (complete : renderer.maxWorkers = 1 ∨ ∀ workers, (renderer.course workers false).Complete) :
    Steps.Concurrent alike
      (fun text tags tags' => renderer.finder.find text = .ok tags ∧ tags.Perm tags')
      (fun report report' => report.Agrees report' ∧ report.Tidy ∧ report'.Tidy)
      (renderer.steps bindings false) ((renderer.withRegistry registry').steps bindings false) where
  expands := by
    have empty := (Registry.names_perm kept kept' same).isEmpty_eq
    rw [Registry.names, Registry.names, List.isEmpty_map, List.isEmpty_map] at empty
    exact congrArg (!·) empty
  unchecked _ _ := rfl
  unchecked' _ _ := rfl
  interpolate := by
    intro w w' h text
    exact determined.interpolate h text
  find := by
    intro text
    have names := Registry.names_perm kept kept' same
    simp only [steps, withRegistry, derived, Finder.find]
    rcases Finder.findAll_error_or_ok names text with failed | ⟨tags, tags', found, found', perm⟩
    · exact .inl failed
    · exact .inr ⟨tags, tags', found, found', found, perm⟩
  nil_iff := by
    rintro text tags tags' ⟨-, perm⟩
    rw [← List.isEmpty_iff, ← List.isEmpty_iff, perm.isEmpty_eq]
  resolve := by
    rintro w w' h text tags tags' ⟨found, perm⟩ -
    have length := perm.length_eq
    by_cases unstaffed : renderer.Unstaffed tags
    · have unstaffed' : (renderer.withRegistry registry').Unstaffed tags' := by
        rwa [Unstaffed, ← length]
      simp only [steps, resolve_of_unstaffed unstaffed, resolve_of_unstaffed unstaffed']
      exact .fails ..
    have staffed' : ¬ (renderer.withRegistry registry').Unstaffed tags' := by
      rwa [Unstaffed, ← length]
    obtain ⟨settled, after⟩ := determined.settled complete unstaffed (determined.refl_left h)
    obtain ⟨settled', after'⟩ := (determined.reordered same).settled complete staffed' h
    simp only [withRegistry, ← Registry.resolve_congr same] at settled'
    have contents := perm.map fun tag =>
      (tag, ((renderer.registry.resolve false tag w).1.toOption.getD default : Content))
    refine Settled.concur (a := (renderer.steps bindings false).resolve tags w) settled settled'
      perm ⟨?_, ?_⟩ (determined.trans (determined.symm after) after')
    · rw [derived] at found
      exact substitute_perm (Settled.apart_contents kept found _) contents text
    · rintro report report' ⟨agrees, tidy, tidy'⟩
      exact ⟨agrees.recordResolved tidy tidy' contents, tidy.recordResolved _,
        tidy'.recordResolved _⟩
  note := by
    intro w w' h message message'
    exact determined.trans (determined.symm (determined.note (determined.refl_left h) _ _ message))
      (determined.note h _ _ message')

/-- The order in which retrievers were registered has no influence on a render. With registries that
have the same retrievers under the same names, renders both fail, or both succeed, with the same
text and with reports that tell and show the same. -/
theorem render_ignores_insertion_order {retrievers retrievers' : List (String × Retriever τ σ)}
    (made : Registry.ofList retrievers = .ok renderer.registry)
    (plain : ∀ entry ∈ retrievers, ViewTag.IsPlain entry.1)
    (made' : Registry.ofList retrievers' = .ok registry')
    (plain' : ∀ entry ∈ retrievers', ViewTag.IsPlain entry.1)
    (same : ∀ name, renderer.registry.find? name = registry'.find? name)
    (derived : renderer.finder = ⟨renderer.registry.names⟩)
    (determined : renderer.TagDetermined bindings alike)
    (complete : renderer.maxWorkers = 1 ∨ ∀ workers, (renderer.course workers false).Complete)
    {world world' : World τ σ} (start : alike world world') (template : String) :
    (∃ e e', (renderer.compose template bindings false world).1 = .error e ∧
      ((renderer.withRegistry registry').compose template bindings false world').1 = .error e') ∨
    ∃ text report report',
      (renderer.compose template bindings false world).1 = .ok (text, report) ∧
      ((renderer.withRegistry registry').compose template bindings false world').1 =
        .ok (text, report') ∧
      report.Agrees report' ∧ ∀ elapsed, report.toFields elapsed = report'.toFields elapsed := by
  have kept := Registry.keptNames_of_ofList made plain
  have kept' := Registry.keptNames_of_ofList made' plain'
  let stage : Stage (World τ σ) := ⟨{}, template, world⟩
  let stage' : Stage (World τ σ) := ⟨{}, template, world'⟩
  have states : alike stage.state stage'.state := start
  have concur := (determined.concurrent_reordered kept kept' same derived complete).expandAt states
    ⟨.refl {}, Report.tidy_empty, Report.tidy_empty⟩ rfl renderer.maxPasses renderer.maxPasses
  rcases concur.error_or_ok with failed | ⟨⟨text, report⟩, ⟨text', report'⟩, eq, eq', results⟩
  · exact .inl failed
  · obtain ⟨rfl, agrees, -⟩ := results
    exact .inr ⟨text, report, report', eq, eq', agrees, agrees.toFields_eq⟩

/-- The market with its stalls the other way round. -/
theorem market_ignores_insertion_order :
    ∃ report : Report, Report.Agrees ⟨[2, 1], ["apples", "pears"], ["fruit"]⟩ report ∧
      ((market.withRegistry ⟨market.registry.entries.reverse⟩).compose "<apples/>, <pears/>" [] false
        morning).1 = .ok ("red apples, pears and red apples", report) := by
  have plain : ∀ entry ∈ market.registry.entries, ViewTag.IsPlain entry.1 := by
    intro entry among
    simp only [market, List.mem_cons, List.not_mem_nil, or_false] at among
    rcases among with rfl | rfl | rfl
    · exact ⟨'a', "pples".toList, rfl, rfl, List.all_eq_true.mp (by decide)⟩
    · exact ⟨'p', "ears".toList, rfl, rfl, List.all_eq_true.mp (by decide)⟩
    · exact ⟨'p', "lums".toList, rfl, rfl, List.all_eq_true.mp (by decide)⟩
  have plain' : ∀ entry ∈ market.registry.entries.reverse, ViewTag.IsPlain entry.1 :=
    fun entry among => plain entry (List.mem_reverse.mp among)
  have composed : (market.compose "<apples/>, <pears/>" [] false morning).1 =
      .ok ("red apples, pears and red apples", ⟨[2, 1], ["apples", "pears"], ["fruit"]⟩) := rfl
  rcases @render_ignores_insertion_order Nat Nat _ _ _ market ⟨market.registry.entries.reverse⟩ []
      _ market.registry.entries market.registry.entries.reverse rfl plain rfl plain'
      (Registry.find?_eq_of_perm (List.reverse_perm _).symm (by decide)) rfl market_determined
      (.inl rfl) morning morning trivial "<apples/>, <pears/>" with
    ⟨e, -, failed, -⟩ | ⟨text, report, report', eq, eq', agrees, -⟩
  · rw [composed] at failed
    cases failed
  · rw [composed] at eq
    cases eq
    exact ⟨report', agrees, eq'⟩

end Renderer

end TagWeave
