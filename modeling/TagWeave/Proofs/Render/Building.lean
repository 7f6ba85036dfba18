import TagWeave.Proofs.Registry.Table
import TagWeave.Render.Build

/-!
# When renderers are built

A renderer is built of a table of retrievers and of settings. The table has to become a registry,
and the settings have to give an interpolator, and numbers of passes and workers of at least one.

With caching, what is put into the registry are retrievers in any case. So the lifetime of content
has to be read then, but anything may stand in the table.
-/

namespace TagWeave

open TagWeave.Text

namespace Renderer

variable {σ : Type} {config : Entries} {retrievers : List (String × Retriever Float σ)}
variable {renderer : Renderer Float σ}

theorem settingOutcome_eq_ok_iff {α : Type} {read : Except Fault α} {value : α} :
    settingOutcome read = .ok value ↔ read = .ok value := by
  cases read <;> simp [settingOutcome]

/-- The names are those of tags, each once up to case, and a configuration gives an interpolator and
numbers of passes and workers that are allowed. -/
structure Buildable (config : Entries) (tags : List String) (interpolator : Interpolator)
    (passes workers : Int) : Prop where
  names : ∀ name ∈ tags, ViewTag.isName name
  distinct : (tags.map lower).Nodup
  interpolator_eq : Interpolator.ofName (Config.interpolatorName config) = .ok interpolator
  passes_eq : Config.maxPasses config = .ok passes
  workers_eq : Config.maxWorkers config = .ok workers
  one_le_passes : 1 ≤ passes
  one_le_workers : 1 ≤ workers

/-- The renderer of some retrievers and settings. -/
def assembled (retrievers : List (String × Retriever Float σ)) (interpolator : Interpolator)
    (passes workers : Int) : Renderer Float σ where
  registry := ⟨retrievers.map fun r => (lower r.1, r.2)⟩
  finder := ⟨retrievers.map (lower ·.1)⟩
  interpolator := interpolator
  maxPasses := passes.toNat
  maxWorkers := workers.toNat

theorem ofSettings_eq_ok_iff :
    ofSettings config retrievers = .ok renderer ↔
      (∀ r ∈ retrievers, r.2.isGenuine) ∧ ∃ interpolator passes workers,
        Buildable config (retrievers.map (·.1)) interpolator passes workers ∧
          renderer = assembled retrievers interpolator passes workers := by
  constructor
  · intro built
    simp only [ofSettings, bind, Except.bind] at built
    split at built
    · cases built
    next registry made =>
    split at built
    · cases built
    next interpolator chosen =>
    split at built
    · cases built
    next passes readPasses =>
    split at built
    · cases built
    next workers readWorkers =>
    rw [ofParts] at built
    split at built
    · cases built
    next passesAllowed =>
    split at built
    · cases built
    next workersAllowed =>
    cases built
    obtain ⟨good, distinct, rfl⟩ := Registry.ofList_eq_ok_iff.mp made
    refine ⟨fun r among => (good r among).2, interpolator, passes, workers, ?_, ?_⟩
    · refine ⟨?_, ?_, chosen, settingOutcome_eq_ok_iff.mp readPasses,
        settingOutcome_eq_ok_iff.mp readWorkers, not_lt.mp passesAllowed, not_lt.mp workersAllowed⟩
      · exact List.forall_mem_map.mpr fun r among => (good r among).1
      · rwa [List.map_map]
    · rw [assembled, Option.getD_none, Registry.names, List.map_map]
      rfl
  · rintro ⟨genuine, interpolator, passes, workers, buildable, rfl⟩
    have made : Registry.ofList retrievers = .ok ⟨retrievers.map fun r => (lower r.1, r.2)⟩ := by
      refine Registry.ofList_eq_ok_iff.mpr ⟨fun r among => ⟨?_, genuine r among⟩, ?_, rfl⟩
      · exact buildable.names r.1 (List.mem_map_of_mem among)
      · have distinct := buildable.distinct
        rwa [List.map_map] at distinct
    simp only [ofSettings, made, buildable.interpolator_eq, buildable.passes_eq, buildable.workers_eq,
      settingOutcome, bind, Except.bind, ofParts]
    rw [if_neg (not_lt.mpr buildable.one_le_passes), if_neg (not_lt.mpr buildable.one_le_workers),
      assembled, Option.getD_none, Registry.names, List.map_map]
    rfl

/-- What is put into the registry: the table itself, or with caching retrievers that look into a cache
before they ask what stands in the table. -/
def tabled (plan : CachePlan) (config : Entries) (lifetime? : Option Float)
    (retrievers : List (String × Retriever Float σ)) : List (String × Retriever Float σ) :=
  if Config.cacheEnabled config then
    retrievers.map fun r => (r.1, .caching r.2 (plan.given?.getD plan.own) lifetime?)
  else retrievers

/-- A renderer is built if the settings can be read and the table can be made a registry. The lifetime
of content is read only for caching, and what stands in the table is checked only without it. -/
theorem build_eq_ok_iff {plan : CachePlan} {world : World Float σ} :
    (build plan config retrievers world).1 = .ok renderer ↔
      ∃ interpolator passes workers lifetime?,
        Buildable config (retrievers.map (·.1)) interpolator passes workers ∧
        (if Config.cacheEnabled config then Config.cacheLifetime config = .ok lifetime?
          else lifetime? = none ∧ ∀ r ∈ retrievers, r.2.isGenuine) ∧
        renderer = assembled (tabled plan config lifetime? retrievers) interpolator passes workers := by
  rw [build, cached]
  cases enabled : Config.cacheEnabled config with
  | false =>
      simp only [tabled, enabled, Bool.not_false, Bool.false_eq_true, if_true, if_false,
        ofSettings_eq_ok_iff]
      constructor
      · rintro ⟨genuine, interpolator, passes, workers, buildable, rfl⟩
        exact ⟨interpolator, passes, workers, none, buildable, ⟨rfl, genuine⟩, rfl⟩
      · rintro ⟨interpolator, passes, workers, lifetime?, buildable, ⟨-, genuine⟩, rfl⟩
        exact ⟨genuine, interpolator, passes, workers, buildable, rfl⟩
  | true =>
      simp only [tabled, enabled, Bool.not_true, Bool.false_eq_true, if_true, if_false]
      cases read : Config.cacheLifetime config with
      | error f => simp
      | ok lifetime? =>
          have names : (retrievers.map fun r => (r.1, Retriever.caching r.2
              (plan.given?.getD plan.own) lifetime?)).map (·.1) = retrievers.map (·.1) :=
            List.map_map ..
          simp only [ofSettings_eq_ok_iff, names, Except.ok.injEq]
          constructor
          · rintro ⟨-, interpolator, passes, workers, buildable, rfl⟩
            exact ⟨interpolator, passes, workers, lifetime?, buildable, rfl, rfl⟩
          · rintro ⟨interpolator, passes, workers, _, buildable, rfl, rfl⟩
            refine ⟨List.forall_mem_map.mpr fun _ _ => rfl, interpolator, passes, workers, ?_⟩
            exact ⟨buildable, rfl⟩

end Renderer

end TagWeave
