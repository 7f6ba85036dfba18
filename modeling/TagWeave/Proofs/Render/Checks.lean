import TagWeave.Proofs.Render.Fronted

/-!
# Checks with caching and without

Two configurations with the same settings, but for whether content is cached, build
renderers from the same tables as long as these hold retrievers only and the lifetime of
content can be read. The renderers conform: they come to the same text, or to errors in
resolving a tag, or to the same other error, unless one is turned away that answers with a
text in place of content.
-/

namespace TagWeave

open TagWeave.ViewTag

namespace Config

/-- Two configurations have the same settings, but for whether content is cached. -/
def SameButCaching (config config' : Entries) : Prop :=
  ∀ sectionName name, (sectionName, name) ≠ ("cache", "enabled") →
    setting? config sectionName name = setting? config' sectionName name

namespace SameButCaching

variable {config config' : Entries}

theorem interpolatorName (same : SameButCaching config config') :
    interpolatorName config = interpolatorName config' := by
  rw [Config.interpolatorName, Config.interpolatorName, same _ _ (by simp)]

theorem maxPasses (same : SameButCaching config config') : maxPasses config = maxPasses config' := by
  rw [Config.maxPasses, Config.maxPasses, same _ _ (by simp)]

theorem maxWorkers (same : SameButCaching config config') :
    maxWorkers config = maxWorkers config' := by
  rw [Config.maxWorkers, Config.maxWorkers, same _ _ (by simp)]

theorem cacheLifetime (same : SameButCaching config config') :
    cacheLifetime config = cacheLifetime config' := by
  rw [Config.cacheLifetime, Config.cacheLifetime, fractionSetting, fractionSetting,
    same _ _ (by simp)]

end SameButCaching

end Config

/-- A cache that is added does not hide another one. -/
theorem World.cache?_append {τ σ : Type} (world : World τ σ) (name : String) (cache : Cache τ)
    (other : String) :
    World.cache? { world with caches := world.caches ++ [(name, cache)] } other =
      (world.cache? other).or (if name = other then some cache else none) := by
  rw [cache?, cache?, List.find?_append]
  cases world.caches.find? fun c => decide (c.1 = other) with
  | some c => rfl
  | none => by_cases same : name = other <;> simp [same]

namespace Renderer

variable {σ : Type} {config config' : Entries} {plan : CachePlan}
variable {retrievers : List (String × Retriever Float σ)} {world : World Float σ}
variable {renderer caching plain : Renderer Float σ}

/-- The name of the cache that a renderer uses. -/
abbrev cacheName (plan : CachePlan) : String := plan.given?.getD plan.own

theorem buildable_iff (same : Config.SameButCaching config config') {tags : List String}
    {interpolator : Interpolator} {passes workers : Int} :
    Buildable config tags interpolator passes workers ↔
      Buildable config' tags interpolator passes workers := by
  constructor
  · rintro ⟨names, distinct, chosen, readPasses, readWorkers, somePasses, someWorkers⟩
    rw [same.interpolatorName] at chosen
    rw [same.maxPasses] at readPasses
    rw [same.maxWorkers] at readWorkers
    exact ⟨names, distinct, chosen, readPasses, readWorkers, somePasses, someWorkers⟩
  · rintro ⟨names, distinct, chosen, readPasses, readWorkers, somePasses, someWorkers⟩
    rw [← same.interpolatorName] at chosen
    rw [← same.maxPasses] at readPasses
    rw [← same.maxWorkers] at readWorkers
    exact ⟨names, distinct, chosen, readPasses, readWorkers, somePasses, someWorkers⟩

/-- If both or neither of them cache, the same is built. -/
theorem build_congr (same : Config.SameButCaching config config')
    (enabled : Config.cacheEnabled config = Config.cacheEnabled config') :
    build plan config retrievers world = build plan config' retrievers world := by
  have settings : ∀ retrievers : List (String × Retriever Float σ),
      ofSettings config retrievers = ofSettings config' retrievers := by
    intro retrievers
    rw [ofSettings, ofSettings, same.interpolatorName, same.maxPasses, same.maxWorkers]
  simp only [build, cached, enabled, same.cacheLifetime, settings]

theorem build_caching_iff (enabled : Config.cacheEnabled config = true) :
    (∃ renderer, (build plan config retrievers world).1 = .ok renderer) ↔
      (∃ interpolator passes workers,
        Buildable config (retrievers.map (·.1)) interpolator passes workers) ∧
      ∃ lifetime?, Config.cacheLifetime config = .ok lifetime? := by
  simp only [build_eq_ok_iff, enabled, if_true]
  constructor
  · rintro ⟨_, interpolator, passes, workers, lifetime?, buildable, read, -⟩
    exact ⟨⟨interpolator, passes, workers, buildable⟩, lifetime?, read⟩
  · rintro ⟨⟨interpolator, passes, workers, buildable⟩, lifetime?, read⟩
    exact ⟨_, interpolator, passes, workers, lifetime?, buildable, read, rfl⟩

theorem build_plain_iff (disabled : Config.cacheEnabled config = false) :
    (∃ renderer, (build plan config retrievers world).1 = .ok renderer) ↔
      (∃ interpolator passes workers,
        Buildable config (retrievers.map (·.1)) interpolator passes workers) ∧
      ∀ r ∈ retrievers, r.2.isGenuine := by
  simp only [build_eq_ok_iff, disabled, Bool.false_eq_true, if_false]
  constructor
  · rintro ⟨_, interpolator, passes, workers, _, buildable, ⟨-, genuine⟩, -⟩
    exact ⟨⟨interpolator, passes, workers, buildable⟩, genuine⟩
  · rintro ⟨⟨interpolator, passes, workers, buildable⟩, genuine⟩
    exact ⟨_, interpolator, passes, workers, none, buildable, ⟨rfl, genuine⟩, rfl⟩

/-- The renderer that is built with caching is that without, with a cache in front. -/
theorem exists_fronted_of_build (same : Config.SameButCaching config config')
    (enabled : Config.cacheEnabled config = true) (disabled : Config.cacheEnabled config' = false)
    (built : (build plan config retrievers world).1 = .ok caching)
    (built' : (build plan config' retrievers world).1 = .ok plain) :
    ∃ lifetime?, caching = plain.fronted (cacheName plan) lifetime? := by
  obtain ⟨interpolator, passes, workers, lifetime?, buildable, -, rfl⟩ := build_eq_ok_iff.mp built
  obtain ⟨interpolator', passes', workers', _, buildable', -, rfl⟩ := build_eq_ok_iff.mp built'
  rw [← buildable_iff same] at buildable'
  cases buildable.interpolator_eq.symm.trans buildable'.interpolator_eq
  cases buildable.passes_eq.symm.trans buildable'.passes_eq
  cases buildable.workers_eq.symm.trans buildable'.workers_eq
  refine ⟨lifetime?, ?_⟩
  simp only [tabled, enabled, disabled, if_true, Bool.false_eq_true, if_false, assembled, fronted,
    Registry.fronted, List.map_map]
  rfl

/-- Building leaves the world as it was, but for the cache, which is empty. -/
theorem sameBut_cached (plan : CachePlan) (config : Entries)
    (retrievers : List (String × Retriever Float σ)) {world : World Float σ}
    (empty : world.entriesIn (cacheName plan) = []) :
    world.SameBut (cacheName plan) (cached plan config retrievers world).2 ∧
      (cached plan config retrievers world).2.entriesIn (cacheName plan) = [] := by
  have unchanged : world.SameBut (cacheName plan) world := ⟨rfl, rfl, fun _ _ => rfl⟩
  rw [cached]
  split
  · exact ⟨unchanged, empty⟩
  · split
    · exact ⟨unchanged, empty⟩
    · next lifetime? _ =>
      cases given : plan.given? with
      | some name => exact ⟨unchanged.note .., empty⟩
      | none =>
          let fresh : Cache Float := { lifetime?, clock := .system }
          have named : cacheName plan = plan.own := by rw [cacheName, given, Option.getD_none]
          rw [named] at empty ⊢
          have added := world.cache?_append plan.own fresh
          constructor
          · refine ⟨rfl, rfl, fun other differs => (added other).trans ?_⟩
            rw [if_neg differs.symm, Option.or_none]
          · change ((World.cache? { world with caches := world.caches ++ [(plan.own, fresh)] }
              plan.own).map (·.entries)).getD [] = []
            rw [added, if_pos rfl]
            rw [World.entriesIn] at empty
            cases found : world.cache? plan.own with
            | none => rfl
            | some cache =>
                rw [found] at empty
                exact empty

theorem build_world (plan : CachePlan) (config : Entries)
    (retrievers : List (String × Retriever Float σ)) (world : World Float σ) :
    (build plan config retrievers world).2 = (cached plan config retrievers world).2 := by
  rw [build]
  split
  · next h => rw [h]
  · next h => rw [h]

/-- Of two configurations with the same settings, but for whether content is cached, either both build
a renderer from a table or none does, if it makes no difference between them whether the lifetime of
content can be read and whether the table holds retrievers only. If both build one, the answers of
steady retrievers are judged on alike: a render comes to the same text with caching and without, or
to errors in resolving a tag, or to the same other error, unless without caching a text is turned
away that a retriever answers in place of content. Several workers may also come to the errors of
different tags of a pass, whatever courses they take on either side. -/
theorem caching_judges_alike (same : Config.SameButCaching config config') (plan : CachePlan)
    (retrievers : List (String × Retriever Float σ)) (world : World Float σ) :
    (Config.cacheEnabled config = Config.cacheEnabled config' →
      build plan config retrievers world = build plan config' retrievers world) ∧
    (Config.cacheEnabled config = true → Config.cacheEnabled config' = false →
      (((∃ caching, (build plan config retrievers world).1 = .ok caching) ↔
          ∃ plain, (build plan config' retrievers world).1 = .ok plain) ↔
        ∀ interpolator passes workers,
          Buildable config (retrievers.map (·.1)) interpolator passes workers →
            ((∃ lifetime?, Config.cacheLifetime config = .ok lifetime?) ↔
              ∀ r ∈ retrievers, r.2.isGenuine)) ∧
      ∀ caching plain, (build plan config retrievers world).1 = .ok caching →
        (build plan config' retrievers world).1 = .ok plain →
        ∀ sound, plain.registry.Steady (cacheName plan) sound →
        sound world → world.entriesIn (cacheName plan) = [] →
        ∀ course course' : Nat → Bool → Course, (∀ workers, (course workers false).Complete) →
        (∀ workers, (course' workers false).Complete) →
        ∀ lambda? template bindings,
          let plain : Renderer Float σ := { plain with lambda?, course := course' }
          NoCollision (digestedOf (plain.tagsResolved template bindings world)) →
          Conforms (plain.registry.TurnsAway sound)
            (plain.registry.MayStand sound plain.maxWorkers (plain.passesOf template bindings world))
            (({ caching with lambda?, course }).render template bindings false
              (build plan config retrievers world).2).1
            (plain.render template bindings false (build plan config' retrievers world).2).1) := by
  refine ⟨build_congr same, fun enabled disabled => ⟨?builds, ?renders⟩⟩
  case builds =>
    simp only [build_caching_iff enabled, build_plain_iff disabled, ← buildable_iff same]
    constructor
    · intro both interpolator passes workers buildable
      have built : ∃ interpolator passes workers,
          Buildable config (retrievers.map (·.1)) interpolator passes workers :=
        ⟨interpolator, passes, workers, buildable⟩
      exact ⟨fun read => (both.mp ⟨built, read⟩).2, fun genuine => (both.mpr ⟨built, genuine⟩).2⟩
    · intro both
      exact and_congr_right fun ⟨interpolator, passes, workers, buildable⟩ =>
        both interpolator passes workers buildable
  case renders =>
    intro caching plain built built' sound steady start empty course course' complete complete' lambda?
      template bindings right distinct
    obtain ⟨lifetime?, rfl⟩ := exists_fronted_of_build same enabled disabled built built'
    have plainWorld : (build plan config' retrievers world).2 = world := by
      rw [build_world, cached, disabled]
      rfl
    obtain ⟨_, _, _, _, -, -, made⟩ := build_eq_ok_iff.mp built'
    obtain ⟨left, nothing⟩ := sameBut_cached plan config retrievers empty
    have fronts : ∀ tags, plain.registry.Fronts (cacheName plan) sound tags
        (build plan config retrievers world).2 world := by
      intro tags
      rw [build_world]
      refine ⟨steady.of_sameBut start left, start, by rw [left.scene], left.memory, ?_⟩
      intro entry among
      rw [nothing] at among
      cases among
    have composed := compose_fronted { plain with lambda? } lifetime? steady
      (by rw [made, assembled]) complete complete' distinct (fronts _)
    rw [plainWorld, render, render]
    exact composed.map _

/-- A configuration that only says whether content is cached. -/
def switch (on : Bool) : Entries := [(.str "cache", .dict [(.str "enabled", .bool on)])]

theorem switch_sameButCaching : Config.SameButCaching (switch true) (switch false) := by
  intro sectionName name other
  have unset : ∀ on, Config.setting? (switch on) sectionName name = none := by
    intro on
    by_cases there : sectionName = "cache"
    · have elsewhere : "enabled" ≠ name := fun enabled => other (by rw [there, enabled])
      simp [Config.setting?, Config.sectionOf, switch, Entries.get?, Key.same, Key.sense,
        Value.entries?, there, elsewhere]
    · simp [Config.setting?, Config.sectionOf, switch, Entries.get?, Key.same, Key.sense,
        Ne.symm there]
  rw [unset, unset]

/-- A table with a retriever that answers by a number. -/
def scales : List (String × Retriever Float Unit) :=
  [("weight", .leaf fun _ _ scene => (.ok (.value (.int 42)), scene))]

/-- A world in which nothing has happened. -/
def scalesWorld : World Float Unit := { scene := { sessionTime := 0, systemTime := 0, state := () } }

/-- The renderer of the table without caching. -/
def weigher : Renderer Float Unit := assembled scales (.mustache false) 32 1

theorem weigher_steady : weigher.registry.Steady "own" fun _ => True := by
  refine Registry.steady_of_functions (fun _ _ => .ok (.value (.int 42))) (fun _ _ _ _ => rfl) ?_
  intro name retriever found
  obtain ⟨entry, there, rfl⟩ := Option.map_eq_some_iff.mp found
  have among := List.mem_of_find?_eq_some there
  rw [List.mem_singleton.mp among]
  exact ⟨fun _ _ => ⟨rfl, rfl⟩, .leaf _⟩

/-- With caching as without, the number is refused. -/
theorem number_refused :
    let made := fun on => build { own := "own" } (switch on) scales scalesWorld
    ∃ caching plain, (made true).1 = .ok caching ∧ (made false).1 = .ok plain ∧
      (∃ e, (caching.render "Weight: <weight/>" [] false (made true).2).1 = .error e ∧
        e.kind = "RetrieverError") ∧
      ∃ e, (plain.render "Weight: <weight/>" [] false (made false).2).1 = .error e ∧
        e.kind = "RetrieverError" := by
  intro made
  obtain ⟨builds, renders⟩ :=
    (caching_judges_alike switch_sameButCaching { own := "own" } scales scalesWorld).2 rfl rfl
  have genuine : ∀ r ∈ scales, r.2.isGenuine := List.forall_mem_singleton.mpr rfl
  have built' : (made false).1 = .ok weigher := by
    refine build_eq_ok_iff.mpr ⟨.mustache false, 32, 1, none, ?_, ⟨rfl, genuine⟩, rfl⟩
    exact ⟨by decide, List.nodup_singleton _, rfl, rfl, rfl, by decide, by decide⟩
  obtain ⟨caching, built⟩ : ∃ caching, (made true).1 = .ok caching :=
    (builds.mpr fun _ _ _ _ => iff_of_true ⟨none, rfl⟩ genuine).mpr ⟨weigher, built'⟩
  have tags : weigher.tagsResolved "Weight: <weight/>" [] scalesWorld = [wanted "weight"] := rfl
  have distinct : NoCollision
      (digestedOf (weigher.tagsResolved "Weight: <weight/>" [] scalesWorld)) := by
    intro m hm m' hm' _
    rw [tags, digestedOf, List.map_singleton, List.mem_singleton] at hm hm'
    rw [hm, hm']
  have conforms := renders caching weigher built built' _ weigher_steady trivial rfl .prompt .prompt
    Course.prompt_complete Course.prompt_complete (fun _ => none) "Weight: <weight/>" [] distinct
  have failed : (weigher.render "Weight: <weight/>" [] false (made false).2).1 =
      .error (.wrongResult (wanted "weight").site "int") := rfl
  refine ⟨caching, weigher, built, built', ?_, _, failed, rfl⟩
  obtain ⟨lifetime?, rfl⟩ := exists_fronted_of_build switch_sameButCaching rfl rfl built built'
  change Conforms _ _ ((weigher.fronted _ lifetime?).render _ _ _ (made true).2).1
    (weigher.render _ _ _ (made false).2).1 at conforms
  rw [failed] at conforms
  generalize ((weigher.fronted _ lifetime?).render _ _ _ (made true).2).1 = o at conforms ⊢
  cases conforms with
  | same => exact ⟨_, rfl, rfl⟩
  | apart stands => exact ⟨_, rfl, (stands.resolve_right fun race => race.1 rfl).1⟩
  | besides _ excuse =>
      -- a number is no text
      obtain ⟨tag, retriever, w, text, -, -, -, same⟩ := excuse
      exact absurd (Error.wrongResult.inj same).2 (by decide)

/-- What stands in a table is checked without caching only. -/
theorem stray_checked_without_caching :
    Config.SameButCaching (switch true) (switch false) ∧
      (∃ renderer, (build { own := "own" } (switch true) [("block", .foreign "str")]
        scalesWorld).1 = .ok renderer) ∧
      (build { own := "own" } (switch false) [("block", .foreign "str")] scalesWorld).1 =
        .error (.fault (.notRetriever "block" "str")) := by
  refine ⟨switch_sameButCaching, ?_, rfl⟩
  refine (build_caching_iff rfl).mpr ⟨⟨.mustache false, 32, 1, ?_⟩, none, rfl⟩
  exact ⟨by decide, List.nodup_singleton _, rfl, rfl, rfl, by decide, by decide⟩

end Renderer

end TagWeave
