import TagWeave.Interpolator
import TagWeave.Render.Resolution

/-!
# Renderers

A renderer joins a registry, a finder for tags, an interpolator and limits. It keeps
bindings of its own, which those of a render follow and take precedence over.
-/

namespace TagWeave

/-- The application's own way to interpolate a text with bindings. -/
abbrev Engine (τ σ : Type) := String → List Value → Scene τ σ → Outcome String × Scene τ σ

/-- A renderer. An engine of the application takes the place of the interpolator. A pool with so many
workers takes the course that `course` gives, which depends on whether there is a deadline. -/
structure Renderer (τ σ : Type) where
  registry : Registry τ σ
  finder : Finder
  interpolator : Interpolator
  engine? : Option (Engine τ σ) := none
  maxPasses : Nat
  maxWorkers : Nat
  bindings : List Value := []
  lambda? : String → Option (String → Mustache.Script) := fun _ => none
  course : Nat → Bool → Course := Course.prompt

namespace Renderer

variable {τ σ : Type}

/-- The number of passes that are allowed by default. -/
def defaultPasses : Int := 32

/-- The renderer of some parts. Without a finder it looks for the names in the registry. -/
def ofParts (registry : Registry τ σ) (finder? : Option Finder) (interpolator : Interpolator)
    (maxPasses maxWorkers : Int) : Outcome (Renderer τ σ) :=
  if maxPasses < 1 then .error (.fault .tooFewPasses)
  else if maxWorkers < 1 then .error (.fault .tooFewWorkers)
  else .ok
    { registry, interpolator, finder := finder?.getD ⟨registry.names⟩
      maxPasses := maxPasses.toNat, maxWorkers := maxWorkers.toNat }

/-- Adds bindings to the renderer's own. -/
def addBindings (renderer : Renderer τ σ) (bindings : List Value) : Renderer τ σ :=
  { renderer with bindings := renderer.bindings ++ bindings }

/-- Replaces the renderer's own bindings. -/
def setBindings (renderer : Renderer τ σ) (bindings : List Value) : Renderer τ σ :=
  { renderer with bindings }

/-- Interpolates a text, with bindings after the renderer's own. -/
def interpolate (renderer : Renderer τ σ) (bindings : List Value) (text : String)
    (world : World τ σ) : Outcome String × World τ σ :=
  match renderer.engine? with
  | some run =>
    match run text (renderer.bindings ++ bindings) world.scene with
    | (outcome, scene) => (outcome, { world with scene })
  | none =>
    let host := Mustache.Host.ofFiles renderer.lambda? world.scene.files
    match renderer.interpolator.interpolate host text (renderer.bindings ++ bindings) world.memory with
    | (outcome, memory) => (outcome, { world with memory })

variable [Add τ] [LE τ] [DecidableLE τ]

/-- Whether the render has a deadline. -/
def hasDeadline (guarded : Bool) (world : World τ σ) : Bool :=
  guarded && world.scene.token?.any (·.deadline?.isSome)

/-- Resolves the tags of a pass, with a pool unless there is one worker or one tag. A pool has no more
workers than there are tags, and there is none without workers. -/
def resolve (renderer : Renderer τ σ) (guarded : Bool) (tags : List ViewTag) (world : World τ σ) :
    Outcome (List (ViewTag × Content)) × World τ σ :=
  if renderer.maxWorkers = 1 || tags.length = 1 then
    resolveInTurn (renderer.registry.resolve guarded) tags world
  else
    let workers := min renderer.maxWorkers tags.length
    if workers = 0 then (.error (.fault .noWorkers), world)
    else resolvePooled (fun tag => World.timed (renderer.registry.resolve guarded tag))
      (renderer.course workers (hasDeadline guarded world)) tags world

/-- The steps of the renderer's passes, with some bindings and perhaps a token. -/
def steps (renderer : Renderer τ σ) (bindings : List Value) (guarded : Bool) : Steps (World τ σ) where
  expands := !renderer.registry.entries.isEmpty
  check place world := world.scene.check guarded place
  interpolate := renderer.interpolate bindings
  find := renderer.finder.find
  resolve := renderer.resolve guarded
  note message world := world.note Log.debug .passes message

/-- Renders a template and reports on it. -/
def compose (renderer : Renderer τ σ) (template : String) (bindings : List Value) (guarded : Bool)
    (world : World τ σ) : Outcome (String × Report) × World τ σ :=
  (renderer.steps bindings guarded).expand renderer.maxPasses template world

/-- Renders a template. -/
def render (renderer : Renderer τ σ) (template : String) (bindings : List Value) (guarded : Bool)
    (world : World τ σ) : Outcome String × World τ σ :=
  match renderer.compose template bindings guarded world with
  | (outcome, world) => (outcome.map (·.1), world)

/-- Interpolates a content, binds the result as `content` to interpolate a layout, and renders what
comes out. -/
def renderInLayout (renderer : Renderer τ σ) (content layout : String) (bindings : List Value)
    (guarded : Bool) (world : World τ σ) : Outcome String × World τ σ :=
  match world.scene.check guarded "layout" with
  | some why => (.error (.cancelled why), world)
  | none =>
    match renderer.interpolate bindings content world with
    | (.error e, world) => (.error e, world)
    | (.ok body, world) =>
      match renderer.interpolate (bindings ++ [Value.ofFields [("content", .str body)]]) layout world with
      | (.error e, world) => (.error e, world)
      | (.ok page, world) => renderer.render page bindings guarded world

end Renderer

end TagWeave
