import TagWeave.Proofs.Render.Pool
import TagWeave.Proofs.Retrieval.Leaves

/-!
# Giving up

Beside the steps of a renderer that resolves tags in turn stand steps that also list the
calls of leaves. With a token a leaf is called only while the token is live, in whatever
pass and however deep in its tree, and a render succeeds only if the token is live at the
end. So a leaf that cancels the token, or lets its deadline pass, is the last one to be
called, and the render fails.
-/

namespace TagWeave

section

variable {α ω ε : Type}

/-- Runs something for a tag, and lists entries about it. -/
def tracing (entries : ViewTag → ω → List ε) (run : ViewTag → ω → α × ω) (tag : ViewTag)
    (state : ω × List ε) : α × (ω × List ε) :=
  match run tag state.1 with
  | (answer, next) => (answer, (next, state.2 ++ entries tag state.1))

/-- Listing entries has no influence on what is run. -/
theorem tracing_alike (entries : ViewTag → ω → List ε) (run : ViewTag → ω → α × ω) (tag : ViewTag)
    (s : ω) (s' : ω × List ε) (h : s = s'.1) :
    Alike (fun s s' => s = s'.1) (run tag s) (tracing entries run tag s') := by
  rw [h]
  exact ⟨rfl, rfl⟩

end

variable {τ σ : Type} [Add τ] [LE τ] [DecidableLE τ]

/-- The calls of leaves by which a tag is resolved, if it gets as far as asking a retriever. -/
def Registry.leafCalls (registry : Registry τ σ) (guarded : Bool) (tag : ViewTag)
    (world : World τ σ) : List (LeafCall τ σ) :=
  match world.scene.check guarded ("resolving <" ++ tag.name ++ ">") with
  | some _ => []
  | none =>
    match registry.find? tag.name with
    | none => []
    | some retriever => retriever.leafCalls tag guarded world

/-- A tag is resolved only while the token is live, so it need not be live before. -/
theorem Registry.heeded_resolve (registry : Registry τ σ) (tag : ViewTag) (world : World τ σ) :
    Heeded world.scene.live (registry.leafCalls true tag world)
      (registry.resolve true tag world).2.scene.live := by
  rw [leafCalls, resolve]
  cases checked : world.scene.check true ("resolving <" ++ tag.name ++ ">") with
  | some why => exact .nil _
  | none =>
      cases registry.find? tag.name with
      | none => exact .nil _
      | some retriever =>
          have live := Scene.check_eq_none_iff.mp checked
          have heeded := retriever.heeds tag world live
          rw [live]
          simp only
          generalize retriever.retrieve tag true world = answered at heeded
          obtain ⟨e | content | value, next⟩ := answered
          · exact heeded
          · exact heeded
          · exact heeded

namespace Renderer

/-- The steps of a renderer that resolves tags in turn, which also list the calls of leaves. -/
def tracingSteps (renderer : Renderer τ σ) (bindings : List Value) (guarded : Bool) :
    Steps (World τ σ × List (LeafCall τ σ)) :=
  (renderer.steps bindings guarded).beside
    (resolveInTurn
      (tracing (renderer.registry.leafCalls guarded) (renderer.registry.resolve guarded)))

/-- Renders a template as `compose` does with one worker, and lists the calls of leaves. -/
def composeTracing (renderer : Renderer τ σ) (template : String) (bindings : List Value)
    (guarded : Bool) (world : World τ σ) :
    Outcome (String × Report) × (World τ σ × List (LeafCall τ σ)) :=
  (renderer.tracingSteps bindings guarded).expand renderer.maxPasses template (world, [])

/-- The calls of leaves that a render makes with one worker, in their order. -/
def leafCalls (renderer : Renderer τ σ) (template : String) (bindings : List Value)
    (guarded : Bool) (world : World τ σ) : List (LeafCall τ σ) :=
  (renderer.composeTracing template bindings guarded world).2.2

variable {renderer : Renderer τ σ} {bindings : List Value}

theorem similar_tracingSteps (alone : renderer.maxWorkers = 1) (bindings : List Value)
    (guarded : Bool) : Steps.Similar (fun world state => world = state.1)
      (renderer.steps bindings guarded) (renderer.tracingSteps bindings guarded) := by
  apply Steps.similar_beside
  intro tags state
  simp only [steps, resolve, alone, decide_true, Bool.true_or, if_true]
  exact resolveInTurn_alike (fun tag _ => tracing_alike _ _ tag) rfl

/-- Listing the calls has no influence on a render. -/
theorem composeTracing_eq (alone : renderer.maxWorkers = 1) (template : String)
    (bindings : List Value) (guarded : Bool) (world : World τ σ) :
    (renderer.composeTracing template bindings guarded world).1 =
        (renderer.compose template bindings guarded world).1 ∧
      (renderer.composeTracing template bindings guarded world).2.1 =
        (renderer.compose template bindings guarded world).2 := by
  have related : world = (world, ([] : List (LeafCall τ σ))).1 := rfl
  obtain ⟨same, after⟩ := (similar_tracingSteps alone bindings guarded).expandFrom related
    renderer.maxPasses renderer.maxPasses {} template
  exact ⟨same.symm, after.symm⟩

/-- Interpolation neither cancels the token nor lets its deadline pass. -/
def KeepsToken (renderer : Renderer τ σ) (bindings : List Value) : Prop :=
  ∀ text world, (renderer.interpolate bindings text world).2.scene.live = world.scene.live

/-- The calls of a render heed the token, however the render ends. -/
theorem KeepsToken.heeded (steady : renderer.KeepsToken bindings) (alone : renderer.maxWorkers = 1)
    (template : String) (world : World τ σ) :
    Heeded world.scene.live (renderer.leafCalls template bindings true world)
      (renderer.compose template bindings true world).2.scene.live := by
  let heeded : World τ σ × List (LeafCall τ σ) → Prop :=
    fun state => Heeded world.scene.live state.2 state.1.scene.live
  have resolved : ∀ tag state, heeded state →
      heeded (tracing (renderer.registry.leafCalls true) (renderer.registry.resolve true) tag
        state).2 :=
    fun tag state h => Heeded.append h (renderer.registry.heeded_resolve tag state.1)
  let same : World τ σ × List (LeafCall τ σ) → World τ σ × List (LeafCall τ σ) → Prop :=
    fun s s' => s = s' ∧ heeded s'
  have similar : Steps.Similar same (renderer.tracingSteps bindings true)
      (renderer.tracingSteps bindings true) :=
    { expands := rfl
      find := rfl
      check := by
        rintro s _ ⟨rfl, -⟩ place
        rfl
      interpolate := by
        rintro s _ ⟨rfl, h⟩ text
        have kept : Heeded world.scene.live s.2 s.1.scene.live := h
        rw [← steady text s.1] at kept
        exact ⟨rfl, rfl, kept⟩
      resolve := by
        rintro s _ ⟨rfl, h⟩ tags
        exact ⟨rfl, rfl, resolveInTurn_keeps resolved tags h⟩
      note := by
        rintro s _ ⟨rfl, h⟩ message
        exact ⟨rfl, h⟩ }
  have start : same (world, []) (world, []) := ⟨rfl, .nil _⟩
  have ended := (similar.expandFrom start renderer.maxPasses renderer.maxPasses {} template).2.2
  rw [← (composeTracing_eq alone template bindings true world).2]
  exact ended

/-- A render that succeeds has checked the token when its last pass began, and only interpolated
since. -/
theorem KeepsToken.live_of_compose (steady : renderer.KeepsToken bindings) {template text : String}
    {report : Report} {world : World τ σ}
    (h : (renderer.compose template bindings true world).1 = .ok (text, report)) :
    (renderer.compose template bindings true world).2.scene.live = true := by
  have expanded : (renderer.steps bindings true).expandAt renderer.maxPasses renderer.maxPasses
      ⟨{}, template, world⟩ = (.ok (text, report), _) := Prod.ext h rfl
  obtain ⟨passes, last, -, -, surveyed, -⟩ := Steps.exists_run_of_expandAt expanded
  have live := Scene.check_eq_none_iff.mp (Steps.check_of_survey surveyed)
  have interpolated := Steps.interpolate_of_survey surveyed
  have kept := congrArg (fun result => result.2.scene.live) interpolated
  exact kept.symm.trans ((steady last.text last.state).trans live)

/-- With one worker and a token, leaves are called only while the token is live, and a render succeeds
only if it is live at the end. So once a call has not left the token live, no other leaf is called
and the render fails. -/
theorem leaves_heed_token (alone : renderer.maxWorkers = 1) (steady : renderer.KeepsToken bindings)
    (template : String) (world : World τ σ) :
    let calls := renderer.leafCalls template bindings true world
    let composed := renderer.compose template bindings true world
    (∀ call ∈ calls, call.before.live = true) ∧
      (∀ text report, composed.1 = .ok (text, report) → composed.2.scene.live = true) ∧
      ∀ earlier call later, calls = earlier ++ call :: later → call.after.live = false →
        later = [] ∧ ∃ e, composed.1 = .error e := by
  intro calls composed
  have heeded : Heeded world.scene.live calls composed.2.scene.live :=
    steady.heeded alone template world
  have ended : ∀ text report, composed.1 = .ok (text, report) → composed.2.scene.live = true :=
    fun _ _ => steady.live_of_compose
  refine ⟨heeded.before, ended, ?_⟩
  intro earlier call later split spent
  rw [split] at heeded
  obtain ⟨none, expired⟩ := heeded.of_not_live spent
  refine ⟨none, ?_⟩
  cases outcome : composed.1 with
  | error e => exact ⟨e, rfl⟩
  | ok result =>
      rw [ended result.1 result.2 outcome] at expired
      cases expired

/-- A leaf that takes so long. -/
def slow (time : Nat) (outcome : Outcome Answer) : Retriever Nat Nat :=
  .leaf fun _ _ scene => (outcome, scene.advance time)

/-- A renderer of two tags. The first one takes two leaves, of which the first fails. -/
def queue : Renderer Nat Nat where
  registry :=
    ⟨[("first", .fallback
        [.caching (slow 3 (.error (.fault (.noSources "first")))) "turns" none,
          slow 3 (.ok (.content { text := "your turn" }))] none),
      ("second", slow 0 (.ok (.content { text := "please wait" })))]⟩
  finder := ⟨["first", "second"]⟩
  interpolator := .mustache false
  engine? := some fun text _ scene => (.ok text, scene)
  maxPasses := 2
  maxWorkers := 1

/-- A world with a deadline. -/
def closing : World Nat Nat where
  scene := { sessionTime := 0, systemTime := 0, token? := some { deadline? := some 5 }, state := 0 }
  caches := [("turns", { clock := .session })]

/-- The second leaf of the first tag is called in time but ends too late. So the second tag is not
resolved. -/
theorem queue_closes :
    (queue.leafCalls "<first/>, <second/>" [] true closing).map (·.after.live) = [true, false] ∧
      (∀ call ∈ queue.leafCalls "<first/>, <second/>" [] true closing, call.before.live = true) ∧
      ∃ e, (queue.compose "<first/>, <second/>" [] true closing).1 = .error e := by
  obtain ⟨before, -, last⟩ := @leaves_heed_token Nat Nat _ _ _ queue [] rfl (fun _ _ => rfl)
    "<first/>, <second/>" closing
  refine ⟨rfl, before, ?_⟩
  exact (last [_] _ [] rfl rfl).2

end Renderer

end TagWeave
