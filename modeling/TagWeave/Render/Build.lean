import TagWeave.Config.Manager
import TagWeave.Config.Settings
import TagWeave.Render.Renderer

/-!
# Building renderers

A renderer is built from retrievers and a configuration. If caching is enabled, each
retriever is put behind a cache: one that is given, or else one of the renderer's own.
-/

namespace TagWeave

/-- Which cache a renderer uses: one that is given, or else one of its own under a name that no other
cache has. -/
structure CachePlan where
  given? : Option String := none
  own : String

namespace Renderer

variable {σ : Type}

/-- The outcome of reading a setting. -/
def settingOutcome {α : Type} : Except Fault α → Outcome α
  | .ok value => .ok value
  | .error f => .error (.fault f)

/-- Puts retrievers behind a cache, if caching is enabled. A cache of the renderer's own is new and
goes by the system's clock. -/
def cached (plan : CachePlan) (config : Entries) (retrievers : List (String × Retriever Float σ))
    (world : World Float σ) : Outcome (List (String × Retriever Float σ)) × World Float σ :=
  if !Config.cacheEnabled config then (.ok retrievers, world)
  else
    match Config.cacheLifetime config with
    | .error f => (.error (.fault f), world)
    | .ok lifetime? =>
      let name := plan.given?.getD plan.own
      let world := match plan.given? with
        | some _ => world
        | none =>
          let fresh : Cache Float := { lifetime?, clock := .system }
          { world with caches := world.caches ++ [(name, fresh)] }
      (.ok (retrievers.map fun (tag, retriever) => (tag, .caching retriever name lifetime?)),
        world.note Log.debug .assembly
          ("caching enabled for " ++ toString retrievers.length ++ " tag name(s)"))

/-- The renderer of some retrievers, with the settings of a configuration. -/
def ofSettings (config : Entries) (retrievers : List (String × Retriever Float σ)) :
    Outcome (Renderer Float σ) := do
  let registry ← Registry.ofList retrievers
  let interpolator ← Interpolator.ofName (Config.interpolatorName config)
  let maxPasses ← settingOutcome (Config.maxPasses config)
  let maxWorkers ← settingOutcome (Config.maxWorkers config)
  ofParts registry none interpolator maxPasses maxWorkers

/-- Builds a renderer. -/
def build (plan : CachePlan) (config : Entries) (retrievers : List (String × Retriever Float σ))
    (world : World Float σ) : Outcome (Renderer Float σ) × World Float σ :=
  match cached plan config retrievers world with
  | (.error e, world) => (.error e, world)
  | (.ok retrievers, world) => (ofSettings config retrievers, world)

end Renderer

/-- The token that a configuration gives a render, if it sets a deadline. It goes by the system's
clock. -/
def CancelToken.ofSettings (config : Entries) (now : Float) : Outcome (Option (CancelToken Float)) :=
  match Config.timeout config with
  | .error f => .error (.fault f)
  | .ok none => .ok none
  | .ok (some timeout) => .ok (some (.after now (some timeout) .system))

end TagWeave
