import TagWeave.Proofs.Registry.Table
import TagWeave.Proofs.Render.Passes
import TagWeave.Render.Renderer

/-!
# Resolving, and what is asked for

Resolving tags in turn or by a pool answers alike if resolving each tag does. Beside the
steps of a renderer stand steps that also list the tags for which a retriever is asked.
They answer as the renderer's own steps do.
-/

namespace TagWeave

section

variable {ω ω' : Type} {related : ω → ω' → Prop}

theorem resolveInTurn_alike {run : ViewTag → ω → Outcome Content × ω}
    {run' : ViewTag → ω' → Outcome Content × ω'}
    {tags : List ViewTag}
    (alike : ∀ tag ∈ tags, ∀ s s', related s s' → Alike related (run tag s) (run' tag s'))
    {s : ω} {s' : ω'} (h : related s s') :
    Alike related (resolveInTurn run tags s) (resolveInTurn run' tags s') := by
  induction tags generalizing s s' with
  | nil => exact ⟨rfl, h⟩
  | cons tag tags ih =>
      obtain ⟨first, others⟩ := List.forall_mem_cons.mp alike
      obtain ⟨outcome, state, state', eq, eq', after⟩ := (first s s' h).exists_eq
      rw [resolveInTurn, resolveInTurn, eq, eq']
      cases outcome with
      | error e => exact ⟨rfl, after⟩
      | ok content =>
          obtain ⟨rest, state, state', eq, eq', after⟩ := (ih others after).exists_eq
          simp only [eq, eq']
          cases rest with
          | error e => exact ⟨rfl, after⟩
          | ok resolved => exact ⟨rfl, after⟩

variable {run : ViewTag → ω → (Outcome Content × Nat) × ω}
variable {run' : ViewTag → ω' → (Outcome Content × Nat) × ω'}

variable {tags : List ViewTag}

theorem runTasks_alike
    (alike : ∀ tag ∈ tags, ∀ s s', related s s' → Alike related (run tag s) (run' tag s'))
    (cancels : List Task → Bool) (begun : List Task) {s : ω} {s' : ω'} (h : related s s') :
    Alike related (runTasks run cancels begun tags s) (runTasks run' cancels begun tags s') := by
  induction tags generalizing begun s s' with
  | nil => exact ⟨rfl, h⟩
  | cons tag tags ih =>
      obtain ⟨first, others⟩ := List.forall_mem_cons.mp alike
      obtain ⟨⟨outcome, delay⟩, state, state', eq, eq', after⟩ := (first s s' h).exists_eq
      rw [runTasks, runTasks]
      split
      · exact ⟨rfl, h⟩
      · rw [eq, eq']
        exact ih others _ after

theorem resolvePooled_alike
    (alike : ∀ tag ∈ tags, ∀ s s', related s s' → Alike related (run tag s) (run' tag s'))
    (course : Course) {s : ω} {s' : ω'} (h : related s s') :
    Alike related (resolvePooled run course tags s) (resolvePooled run' course tags s') := by
  obtain ⟨begun, state, state', eq, eq', after⟩ :=
    (runTasks_alike alike course.cancels [] h).exists_eq
  rw [resolvePooled, resolvePooled, eq, eq']
  simp only
  split
  · exact ⟨rfl, after⟩
  · split
    · exact ⟨rfl, after⟩
    · exact ⟨rfl, after⟩

section

variable {sound : ω → Prop} {s : ω}

theorem alike_of_keeps {α : Type} {run : ViewTag → ω → α × ω}
    (keeps : ∀ tag s, sound s → sound (run tag s).2) (tag : ViewTag) (s s' : ω)
    (same : s = s' ∧ sound s') :
    Alike (fun s s' => s = s' ∧ sound s') (run tag s) (run tag s') := by
  obtain ⟨rfl, h⟩ := same
  exact ⟨rfl, rfl, keeps tag s h⟩

/-- What every resolution of a tag keeps is kept when tags are resolved in turn. -/
theorem resolveInTurn_keeps {run : ViewTag → ω → Outcome Content × ω}
    (keeps : ∀ tag s, sound s → sound (run tag s).2) (tags : List ViewTag) (start : sound s) :
    sound (resolveInTurn run tags s).2 :=
  (resolveInTurn_alike (fun tag _ => alike_of_keeps keeps tag) ⟨rfl, start⟩).2.2

/-- What every task keeps is kept by a pool. -/
theorem resolvePooled_keeps {run : ViewTag → ω → (Outcome Content × Nat) × ω}
    (keeps : ∀ tag s, sound s → sound (run tag s).2) (course : Course) (tags : List ViewTag)
    (start : sound s) : sound (resolvePooled run course tags s).2 :=
  (resolvePooled_alike (fun tag _ => alike_of_keeps keeps tag) course ⟨rfl, start⟩).2.2

end

end

section

variable {τ σ : Type} {related : World τ σ → World τ σ → Prop} {w w' : World τ σ}

/-- A tag is resolved alike if its retrievers answer alike. -/
theorem Registry.resolve_alike [Add τ] [LE τ] [DecidableLE τ] {registry registry' : Registry τ σ}
    {tag : ViewTag} {retriever retriever' : Retriever τ σ}
    (found : registry.find? tag.name = some retriever)
    (found' : registry'.find? tag.name = some retriever')
    (note : ∀ w w', related w w' → ∀ level origin message,
      related (w.note level origin message) (w'.note level origin message))
    (alike : Alike related (retriever.retrieve tag false w) (retriever'.retrieve tag false w')) :
    Alike related (registry.resolve false tag w) (registry'.resolve false tag w') := by
  obtain ⟨outcome, state, state', eq, eq', after⟩ := alike.exists_eq
  simp only [resolve, Scene.check, Bool.false_eq_true, if_false, found, found', eq, eq']
  rcases outcome with e | content | value
  · exact ⟨rfl, after⟩
  · exact ⟨rfl, note _ _ after _ _ _⟩
  · exact ⟨rfl, after⟩

/-- What a tag comes to is told by the answer of its retriever, and what this leaves is kept. -/
theorem Registry.resolve_eq [Add τ] [LE τ] [DecidableLE τ] {registry registry' : Registry τ σ}
    {tag : ViewTag} {retriever retriever' : Retriever τ σ}
    (found : registry.find? tag.name = some retriever)
    (found' : registry'.find? tag.name = some retriever') (P : World τ σ → Prop)
    (note : ∀ {w}, P w → ∀ level origin message, P (w.note level origin message))
    (same : (retriever.retrieve tag false w).1 = (retriever'.retrieve tag false w').1)
    (after : P (retriever.retrieve tag false w).2) :
    (registry.resolve false tag w).1 = (registry'.resolve false tag w').1 ∧
      P (registry.resolve false tag w).2 :=
  let reached : World τ σ → World τ σ → Prop := fun w _ => P w
  have asked : Alike reached (retriever.retrieve tag false w) (retriever'.retrieve tag false w') :=
    ⟨same, after⟩
  resolve_alike found found' (fun _ _ => note) asked

/-- Tasks that do the same take the same time, if what they leave tells so. -/
theorem World.timed_alike {run run' : World τ σ → Outcome Content × World τ σ}
    (delays : ∀ w w', related w w' → w.scene.delay = w'.scene.delay)
    (delayed : ∀ w w', related w w' → ∀ delay, related (w.withDelay delay) (w'.withDelay delay))
    (alike : ∀ w w', related w w' → Alike related (run w) (run' w')) (h : related w w') :
    Alike related (World.timed run w) (World.timed run' w') := by
  obtain ⟨outcome, state, state', eq, eq', after⟩ := (alike _ _ (delayed _ _ h 0)).exists_eq
  rw [World.timed, World.timed, eq, eq', delays _ _ h]
  exact ⟨congrArg (Prod.mk outcome) (delays _ _ after), delayed _ _ after _⟩

end

/-! ### The tags that are asked for -/

section

variable {α ω : Type}

/-- Runs something for a tag, and lists the tag if it is asked for. -/
def listing (asks : ViewTag → ω → Bool) (run : ViewTag → ω → α × ω) (tag : ViewTag)
    (state : ω × List ViewTag) : α × (ω × List ViewTag) :=
  match run tag state.1 with
  | (answer, next) => (answer, (next, if asks tag state.1 then state.2 ++ [tag] else state.2))

/-- Listing tags has no influence on what is run. -/
theorem listing_alike (asks : ViewTag → ω → Bool) (run : ViewTag → ω → α × ω) (tag : ViewTag)
    (s : ω) (s' : ω × List ViewTag) (h : s = s'.1) :
    Alike (fun s s' => s = s'.1) (run tag s) (listing asks run tag s') := by
  rw [h]
  exact ⟨rfl, rfl⟩

variable {asks : ViewTag → ω → Bool}

theorem listed_inTurn {run : ViewTag → ω → Outcome Content × ω}
    (asked : ∀ tag s content next, run tag s = (.ok content, next) → asks tag s = true)
    {tags : List ViewTag} {s s' : ω × List ViewTag} {resolved : List (ViewTag × Content)}
    (h : resolveInTurn (listing asks run) tags s = (.ok resolved, s')) : s'.2 = s.2 ++ tags := by
  induction tags generalizing s resolved with
  | nil =>
      cases h
      rw [List.append_nil]
  | cons tag tags ih =>
      rw [resolveInTurn, listing] at h
      cases first : run tag s.1 with
      | mk outcome next =>
          rw [first] at h
          cases outcome with
          | error e => cases h
          | ok content =>
              simp only [asked tag s.1 content next first, if_true] at h
              split at h
              · cases h
              · next rest state followed =>
                cases h
                rw [ih followed, List.append_assoc]
                rfl

theorem listed_runTasks {run : ViewTag → ω → (Outcome Content × Nat) × ω} {tags : List ViewTag}
    (asked : ∀ tag ∈ tags, ∀ s, asks tag s = true) {cancels : List Task → Bool}
    {begun begun' : List Task} {s s' : ω × List ViewTag}
    (ran : runTasks (listing asks run) cancels begun tags s = (begun', s')) :
    begun'.length ≤ begun.length + tags.length ∧
      (begun'.length = begun.length + tags.length → s'.2 = s.2 ++ tags) := by
  induction tags generalizing begun s with
  | nil =>
      cases ran
      exact ⟨Nat.le_refl _, fun _ => (List.append_nil _).symm⟩
  | cons tag tags ih =>
      rw [runTasks] at ran
      split at ran
      · cases ran
        refine ⟨by simp, fun whole => ?_⟩
        simp at whole
      · obtain ⟨atMost, listed⟩ := ih (fun tag' h => asked tag' (List.mem_cons_of_mem _ h)) ran
        simp only [List.length_append, List.length_singleton] at atMost listed
        refine ⟨by rw [List.length_cons]; omega, fun whole => ?_⟩
        rw [listed (by rw [whole, List.length_cons]; omega)]
        simp only [asked tag (List.mem_cons_self ..) s.1, if_true, List.append_assoc]
        rfl

/-- A pool that resolves its tags has asked for all of them. -/
theorem listed_pooled {run : ViewTag → ω → (Outcome Content × Nat) × ω} {tags : List ViewTag}
    (asked : ∀ tag ∈ tags, ∀ s, asks tag s = true) {course : Course} {s s' : ω × List ViewTag}
    {resolved : List (ViewTag × Content)}
    (h : resolvePooled (listing asks run) course tags s = (.ok resolved, s')) :
    s'.2 = s.2 ++ tags := by
  rw [resolvePooled] at h
  cases ran : runTasks (listing asks run) course.cancels [] tags s with
  | mk begun state =>
      obtain ⟨atMost, listed⟩ := listed_runTasks asked ran
      simp only [ran] at h
      split at h
      · cases h
      · split at h
        · cases h
        · next whole =>
          cases h
          simp only [Bool.or_eq_true, decide_eq_true_eq, not_or, not_lt] at whole
          simp only [List.length_nil, Nat.zero_add] at atMost listed
          exact listed (Nat.le_antisymm atMost whole.1)

end

variable {τ σ : Type} [Add τ] [LE τ] [DecidableLE τ]

/-- Whether the resolution of a tag gets as far as asking a retriever. -/
def Registry.asks (registry : Registry τ σ) (guarded : Bool) (tag : ViewTag) (world : World τ σ) :
    Bool :=
  (world.scene.check guarded ("resolving <" ++ tag.name ++ ">")).isNone &&
    (registry.find? tag.name).isSome

theorem Registry.asks_of_resolve {registry : Registry τ σ} {guarded : Bool} {tag : ViewTag}
    {world next : World τ σ} {content : Content}
    (h : registry.resolve guarded tag world = (.ok content, next)) :
    registry.asks guarded tag world = true := by
  rw [resolve] at h
  split at h
  · cases h
  · next unchecked =>
    split at h
    · cases h
    · next retriever found => simp [asks, unchecked, found]

omit [Add τ] [LE τ] [DecidableLE τ] in
/-- The names of a registry are those in lower case under which it has a retriever. -/
theorem Registry.mem_names_iff {registry : Registry τ σ} (kept : KeptNames registry.names)
    {name : String} :
    name ∈ registry.names ↔ Text.lower name = name ∧ (registry.find? name).isSome = true := by
  constructor
  · intro hname
    obtain ⟨s, plain, hs⟩ := kept.plain name hname
    have hlower : Text.lower name = name := by
      rw [← hs]
      exact plain.lower_lower
    obtain ⟨entry, hentry, same⟩ := List.mem_map.mp hname
    refine ⟨hlower, ?_⟩
    rw [find?, hlower, Option.isSome_map]
    exact List.find?_isSome.mpr ⟨entry, hentry, by simpa using same⟩
  · rintro ⟨hlower, found⟩
    rw [find?, hlower, Option.isSome_map] at found
    obtain ⟨entry, hentry, same⟩ := List.find?_isSome.mp found
    exact List.mem_map.mpr ⟨entry, hentry, by simpa using same⟩

omit [Add τ] in
/-- Without a token, a retriever is asked for every tag of a registered name. -/
theorem Registry.asks_unguarded {registry : Registry τ σ} (kept : KeptNames registry.names)
    {tag : ViewTag} (hname : tag.name ∈ registry.names) (world : World τ σ) :
    registry.asks false tag world = true := by
  rw [asks, Scene.check, if_neg (by simp)]
  exact ((mem_names_iff kept).mp hname).2

namespace Renderer

/-- Resolves the tags of a pass, and lists those that are asked for. -/
def resolveListing (renderer : Renderer τ σ) (guarded : Bool) (tags : List ViewTag)
    (state : World τ σ × List ViewTag) :
    Outcome (List (ViewTag × Content)) × (World τ σ × List ViewTag) :=
  let asks := renderer.registry.asks guarded
  if renderer.maxWorkers = 1 || tags.length = 1 then
    resolveInTurn (listing asks (renderer.registry.resolve guarded)) tags state
  else
    let workers := min renderer.maxWorkers tags.length
    if workers = 0 then (.error (.fault .noWorkers), state)
    else resolvePooled (listing asks fun tag => World.timed (renderer.registry.resolve guarded tag))
      (renderer.course workers (hasDeadline guarded state.1)) tags state

/-- The steps of the renderer's passes, which also list the tags that are asked for. -/
def listingSteps (renderer : Renderer τ σ) (bindings : List Value) (guarded : Bool) :
    Steps (World τ σ × List ViewTag) where
  expands := !renderer.registry.entries.isEmpty
  check place state := state.1.scene.check guarded place
  interpolate text state :=
    match renderer.interpolate bindings text state.1 with
    | (outcome, world) => (outcome, (world, state.2))
  find := renderer.finder.find
  resolve := renderer.resolveListing guarded
  note message state := (state.1.note Log.debug .passes message, state.2)

/-- Renders a template as `compose` does, and lists the tags for which a retriever is asked. -/
def composeListing (renderer : Renderer τ σ) (template : String) (bindings : List Value)
    (guarded : Bool) (world : World τ σ) : Outcome (String × Report) × (World τ σ × List ViewTag) :=
  (renderer.listingSteps bindings guarded).expand renderer.maxPasses template (world, [])

variable {renderer : Renderer τ σ} {bindings : List Value} {guarded : Bool}

theorem listingSteps_eq (renderer : Renderer τ σ) (bindings : List Value) (guarded : Bool) :
    renderer.listingSteps bindings guarded =
      (renderer.steps bindings guarded).beside (renderer.resolveListing guarded) := rfl

/-- The listing steps answer as the renderer's own. -/
theorem similar_listingSteps (renderer : Renderer τ σ) (bindings : List Value) (guarded : Bool) :
    Steps.Similar (fun world state => world = state.1) (renderer.steps bindings guarded)
      (renderer.listingSteps bindings guarded) := by
  rw [listingSteps_eq]
  apply Steps.similar_beside
  intro tags state
  simp only [steps, resolve, resolveListing]
  split
  · have alone := listing_alike (renderer.registry.asks guarded) (renderer.registry.resolve guarded)
    exact resolveInTurn_alike (fun tag _ => alone tag) rfl
  · split
    · exact ⟨rfl, rfl⟩
    · have pooled := listing_alike (renderer.registry.asks guarded) fun tag =>
        World.timed (renderer.registry.resolve guarded tag)
      exact resolvePooled_alike (fun tag _ => pooled tag) _ rfl

/-- Listing has no influence on a render. -/
theorem composeListing_eq (renderer : Renderer τ σ) (template : String) (bindings : List Value)
    (guarded : Bool) (world : World τ σ) :
    (renderer.composeListing template bindings guarded world).1 =
        (renderer.compose template bindings guarded world).1 ∧
      (renderer.composeListing template bindings guarded world).2.1 =
        (renderer.compose template bindings guarded world).2 := by
  have related : world = (world, ([] : List ViewTag)).1 := rfl
  obtain ⟨same, after⟩ := (similar_listingSteps renderer bindings guarded).expandFrom
    related renderer.maxPasses renderer.maxPasses {} template
  exact ⟨same.symm, after.symm⟩

theorem listed_survey (pass : Nat) (text : String) (state : World τ σ × List ViewTag) :
    ((renderer.listingSteps bindings guarded).survey pass text state).2.2 = state.2 := by
  rw [listingSteps_eq]
  exact Steps.survey_beside pass text state

/-- A pass that succeeds has asked for its tags, in their order. -/
theorem listed_of_performs {stage next : Stage (World τ σ × List ViewTag)} {pass : Pass}
    (performs : (renderer.listingSteps bindings guarded).Performs stage pass next)
    (asked : renderer.maxWorkers = 1 ∨
      ∀ tag ∈ pass.tags, ∀ world, renderer.registry.asks guarded tag world = true) :
    next.state.2 = stage.state.2 ++ pass.tags := by
  rw [listingSteps_eq] at performs
  obtain ⟨between, resolved⟩ := performs.resolved_beside
  simp only [resolveListing] at resolved
  split at resolved
  · have succeeded : ∀ tag world content next,
        renderer.registry.resolve guarded tag world = (.ok content, next) →
          renderer.registry.asks guarded tag world = true :=
      fun _ _ _ _ => Registry.asks_of_resolve
    have listed := listed_inTurn succeeded resolved
    exact listed
  · next pooled =>
    rcases asked with alone | asked
    · simp [alone] at pooled
    · split at resolved
      · cases resolved
      · have listed := listed_pooled asked resolved
        exact listed

/-- A run lists the tags of its passes. -/
theorem listed_of_run {stage last : Stage (World τ σ × List ViewTag)} {passes : List Pass}
    (run : (renderer.listingSteps bindings guarded).Run stage passes last)
    (asked : renderer.maxWorkers = 1 ∨ ∀ pass ∈ passes, ∀ tag ∈ pass.tags, ∀ world,
      renderer.registry.asks guarded tag world = true) :
    last.state.2 = stage.state.2 ++ passes.flatMap (·.tags) := by
  induction run with
  | nil => simp
  | @cons stage mid last pass passes first rest ih =>
      rw [ih (asked.imp_right fun h p hp => h p (List.mem_cons_of_mem _ hp)),
        listed_of_performs first (asked.imp_right fun h => h pass (List.mem_cons_self ..)),
        List.flatMap_cons, List.append_assoc]

end Renderer

end TagWeave
