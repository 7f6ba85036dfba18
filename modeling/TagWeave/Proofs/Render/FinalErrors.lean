import TagWeave.Proofs.Render.Cancellation
import TagWeave.Proofs.Render.Failure
import TagWeave.Proofs.Retrieval.Visits

/-!
# Errors that end a render

A cancellation that a leaf raises ends everything. Whatever tree it stands in, no chain
takes it for the failure of a source, no content for the case of failure is put in its place,
and no cache keeps anything after it: the tree fails with it in the world that the leaf
left. With one worker it ends the render in the same way, and no error of the renderer is
put around it.
-/

namespace TagWeave

variable {τ σ : Type}

/-- None of the calls ended with an error after which nothing else is tried. -/
def Calm (calls : List (LeafCall τ σ)) : Prop :=
  ∀ call ∈ calls, ∀ e, call.outcome = .error e → e.isFinal = false

theorem Calm.append {calls calls' : List (LeafCall τ σ)} (calm : Calm calls) (calm' : Calm calls') :
    Calm (calls ++ calls') := by
  intro call hcall
  rcases List.mem_append.mp hcall with h | h
  · exact calm call h
  · exact calm' call h

variable [Add τ] [LE τ] [DecidableLE τ]

namespace Registry

variable {registry : Registry τ σ} {guarded : Bool} {tag : ViewTag} {world : World τ σ}

/-- A call that ended with such an error is the last one for its tag, which is not resolved and has
this error. -/
theorem error_of_leafCalls {earlier later : List (LeafCall τ σ)} {call : LeafCall τ σ} {e : Error}
    (split : registry.leafCalls guarded tag world = earlier ++ call :: later)
    (raised : call.outcome = .error e) (final : e.isFinal = true) :
    later = [] ∧ (registry.resolve guarded tag world).1 = .error e := by
  rw [leafCalls] at split
  rw [resolve]
  cases checked : world.scene.check guarded ("resolving <" ++ tag.name ++ ">") with
  | some why => simp [checked] at split
  | none =>
      cases found : registry.find? tag.name with
      | none => simp [checked, found] at split
      | some retriever =>
          simp only [checked, found, Retriever.leafCalls_eq] at split
          obtain ⟨before, behind, visited, rfl, split'⟩ := List.map_eq_append_iff.mp split
          obtain ⟨visit, after, rfl, rfl, rfl⟩ := List.map_eq_cons_iff.mp split'
          obtain ⟨rfl, failed⟩ :=
            retriever.passesFinal Retriever.everywhere tag guarded world before visit after e visited
              raised final
          refine ⟨rfl, ?_⟩
          simp only [failed, Error.ofRetrieval, final, if_true]

/-- A tag that is resolved has had no such call. -/
theorem calm_of_resolve {content : Content} {next : World τ σ}
    (resolved : registry.resolve guarded tag world = (.ok content, next)) :
    Calm (registry.leafCalls guarded tag world) := by
  intro call hcall e raised
  obtain ⟨earlier, later, split⟩ := List.append_of_mem hcall
  by_contra final
  obtain ⟨-, failed⟩ := error_of_leafCalls split raised (Bool.not_eq_false _ ▸ final)
  rw [resolved] at failed
  cases failed

end Registry

/-- Nor have tags that are resolved in turn. -/
theorem calm_inTurn {registry : Registry τ σ} {guarded : Bool} {tags : List ViewTag}
    {s s' : World τ σ × List (LeafCall τ σ)} {resolved : List (ViewTag × Content)}
    (calm : Calm s.2)
    (h : resolveInTurn (tracing (registry.leafCalls guarded) (registry.resolve guarded)) tags s =
      (.ok resolved, s')) : Calm s'.2 := by
  induction tags generalizing s resolved with
  | nil =>
      cases h
      exact calm
  | cons tag tags ih =>
      rw [resolveInTurn, tracing] at h
      cases first : registry.resolve guarded tag s.1 with
      | mk outcome next =>
          rw [first] at h
          cases outcome with
          | error e => cases h
          | ok content =>
              simp only at h
              split at h
              · cases h
              · next followed =>
                cases h
                exact ih (calm.append (Registry.calm_of_resolve first)) followed

/-- If tags that are resolved in turn had such a call, it is the last one, and they fail with its
error. -/
theorem error_inTurn {registry : Registry τ σ} {guarded : Bool} {tags : List ViewTag}
    {s s' : World τ σ × List (LeafCall τ σ)} {e e' : Error} (calm : Calm s.2)
    (h : resolveInTurn (tracing (registry.leafCalls guarded) (registry.resolve guarded)) tags s =
      (.error e', s'))
    {earlier later : List (LeafCall τ σ)} {call : LeafCall τ σ}
    (split : s'.2 = earlier ++ call :: later) (raised : call.outcome = .error e)
    (final : e.isFinal = true) : later = [] ∧ e' = e := by
  obtain ⟨before, tag, -, resolved, between, -, passed, here⟩ := exists_of_resolveInTurn_error h
  obtain ⟨failed, rfl⟩ := Prod.mk.inj here
  rcases cases_of_append_eq split with ⟨others, among, -⟩ | ⟨others, -, own⟩
  · have ordinary := calm_inTurn calm passed call
      (among ▸ List.mem_append_right _ (List.mem_cons_self ..)) e raised
    rw [final] at ordinary
    cases ordinary
  · obtain ⟨none, failed'⟩ := Registry.error_of_leafCalls own raised final
    exact ⟨none, Except.error.inj (failed.symm.trans failed')⟩

namespace Renderer

variable {renderer : Renderer τ σ} {bindings : List Value} {guarded : Bool}

/-- Nor have the passes that a render goes on after. -/
theorem calm_of_run {stage last : Stage (World τ σ × List (LeafCall τ σ))} {passes : List Pass}
    (run : (renderer.tracingSteps bindings guarded).Run stage passes last)
    (calm : Calm stage.state.2) : Calm last.state.2 := by
  induction run with
  | nil => exact calm
  | @cons stage _ _ _ _ first _ ih =>
      obtain ⟨between, resolved⟩ := first.resolved_beside
      have before : Calm (between, stage.state.2).2 := calm
      exact ih (calm_inTurn before resolved)

/-- So only the resolution of a pass that fails can have had such a call. -/
theorem error_of_ends {stage : Stage (World τ σ × List (LeafCall τ σ))} {limit allowed : Nat}
    {outcome : Outcome (String × Report)} {state : World τ σ × List (LeafCall τ σ)}
    (calm : Calm stage.state.2)
    (ends : (renderer.tracingSteps bindings guarded).Ends limit allowed stage (outcome, state))
    {earlier later : List (LeafCall τ σ)} {call : LeafCall τ σ} {e : Error}
    (split : state.2 = earlier ++ call :: later) (raised : call.outcome = .error e)
    (final : e.isFinal = true) : later = [] ∧ outcome = .error e := by
  have surveyed : Calm ((renderer.tracingSteps bindings guarded).surveyAt stage).2.2 := by
    have kept : ((renderer.tracingSteps bindings guarded).surveyAt stage).2.2 = stage.state.2 :=
      Steps.survey_beside (stage.report.passes + 1) stage.text stage.state
    rwa [kept]
  have restless : ¬ Calm state.2 := by
    intro calm
    have ordinary := calm call (split ▸ List.mem_append_right _ (List.mem_cons_self ..)) e raised
    rw [final] at ordinary
    cases ordinary
  cases ends with
  | failed found =>
      rw [found] at surveyed
      exact absurd surveyed restless
  | done found =>
      rw [found] at surveyed
      exact absurd surveyed restless
  | exceeded found =>
      rw [found] at surveyed
      exact absurd surveyed restless
  | unresolved found _ unresolved =>
      rw [found] at surveyed
      obtain ⟨none, same⟩ := error_inTurn (by exact surveyed) unresolved split raised final
      exact ⟨none, congrArg Except.error same⟩

/-- With one worker, a leaf's call that ended with such an error is the last one of a render, which
fails with this error. -/
theorem error_of_leafCalls (alone : renderer.maxWorkers = 1) {template : String} {world : World τ σ}
    {earlier later : List (LeafCall τ σ)} {call : LeafCall τ σ} {e : Error}
    (split : renderer.leafCalls template bindings guarded world = earlier ++ call :: later)
    (raised : call.outcome = .error e) (final : e.isFinal = true) :
    later = [] ∧ (renderer.compose template bindings guarded world).1 = .error e := by
  obtain ⟨passes, last, remaining, -, run, ends⟩ := Steps.exists_run_ends
    (renderer.tracingSteps bindings guarded) renderer.maxPasses renderer.maxPasses
    ⟨{}, template, (world, [])⟩
  have start : Calm ([] : List (LeafCall τ σ)) := by simp [Calm]
  rw [← (composeTracing_eq alone template bindings guarded world).1]
  exact error_of_ends (calm_of_run run start) ends split raised final

end Renderer

/-- A cancellation that a leaf raises is the error of the whole tree, in the world that the leaf
left, and no leaf is called after it. With one worker it is the error of a render. -/
theorem cancellation_passes {e : Error} (cancels : e.isCancellation = true) :
    (∀ (retriever : Retriever τ σ) (tag : ViewTag) (guarded : Bool) (world : World τ σ)
        (earlier : List (Visit τ σ)) (visit : Visit τ σ) (later : List (Visit τ σ)),
      retriever.visits Retriever.everywhere tag guarded world = earlier ++ visit :: later →
      visit.outcome = .error e →
        later = [] ∧ retriever.retrieve tag guarded world = (.error e, visit.after)) ∧
    ∀ (renderer : Renderer τ σ) (template : String) (bindings : List Value) (guarded : Bool)
        (world : World τ σ) (earlier : List (LeafCall τ σ)) (call : LeafCall τ σ)
        (later : List (LeafCall τ σ)), renderer.maxWorkers = 1 →
      renderer.leafCalls template bindings guarded world = earlier ++ call :: later →
      call.outcome = .error e →
        later = [] ∧ (renderer.compose template bindings guarded world).1 = .error e := by
  have final : e.isFinal = true := by
    rw [Error.isFinal, cancels, Bool.true_or]
  constructor
  · intro retriever tag guarded world earlier visit later split raised
    exact retriever.passesFinal Retriever.everywhere tag guarded world earlier visit later e split
      raised final
  · intro renderer template bindings guarded world earlier call later alone split raised
    exact renderer.error_of_leafCalls alone split raised final

/-- A clerk who gives up after a minute. -/
def clerk : Retriever Nat Nat :=
  .leaf fun _ _ scene => (.error (.custom .cancelled "closed"), scene.advance 1)

/-- A counter at which somebody is found for any question. The answers are written down. -/
def counter : Retriever Nat Nat :=
  .caching
    (.fallback
      [Renderer.slow 1 (.error (.fault (.noSources "ask"))),
        .caching (.fallback [clerk, Renderer.slow 1 (.ok (.content { text := "here" }))]
          (some { text := "come back" })) "turns" none]
      (some { text := "come back" })) "turns" none

/-- An office with one counter. -/
def office : Renderer Nat Nat :=
  { Renderer.queue with registry := ⟨[("ask", counter)]⟩, finder := ⟨["ask"]⟩ }

/-- When the clerk has given up, nobody else is asked and no answer is written down. -/
theorem office_closes :
    (Error.custom .cancelled "closed").isCancellation = true ∧
      (counter.visits Retriever.everywhere { name := "ask" } true Renderer.closing).length = 2 ∧
      (∃ world, counter.retrieve { name := "ask" } true Renderer.closing =
          (.error (.custom .cancelled "closed"), world) ∧
        world.caches.map (fun c => c.2.entries.length) = [0]) ∧
      (office.compose "<ask/>, please" [] true Renderer.closing).1 =
        .error (.custom .cancelled "closed") := by
  have cancels : (Error.custom .cancelled "closed").isCancellation = true := rfl
  obtain ⟨whole, render⟩ := @cancellation_passes Nat Nat _ _ _ _ cancels
  have asked := whole counter { name := "ask" } true Renderer.closing [_] _ [] rfl rfl
  refine ⟨cancels, rfl, ⟨_, asked.2, rfl⟩, ?_⟩
  have rendered := render office "<ask/>, please" [] true Renderer.closing
  exact (rendered [_] _ [] rfl rfl rfl).2

end TagWeave
