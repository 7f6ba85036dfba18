import TagWeave.Proofs.Render.Resolution
import TagWeave.Proofs.Render.Result
import TagWeave.Proofs.ViewTag.Needles

/-!
# The limit of passes

The limit of a render only says how many passes there may be. If a render succeeds in
some passes, it comes to the same with every limit that allows them. With a smaller limit
it fails after the passes that are allowed, and the failure shows all tags that are left.
-/

namespace TagWeave

namespace Renderer

variable {τ σ : Type} [Add τ] [LE τ] [DecidableLE τ]

/-- The interpolator and the retrievers answer the same way in worlds that are alike, and leave
worlds that are alike. -/
structure Steady (renderer : Renderer τ σ) (bindings : List Value)
    (alike : World τ σ → World τ σ → Prop) : Prop where
  interpolate : ∀ {w w'}, alike w w' → ∀ text, Alike alike
    (renderer.interpolate bindings text w) (renderer.interpolate bindings text w')
  retrieve : ∀ {w w'}, alike w w' → ∀ entry ∈ renderer.registry.entries, ∀ tag,
    Alike alike (entry.2.retrieve tag false w) (entry.2.retrieve tag false w')
  note : ∀ {w w'}, alike w w' → ∀ level origin message,
    alike (w.note level origin message) (w'.note level origin message)
  delay : ∀ {w w'}, alike w w' → w.scene.delay = w'.scene.delay
  delayed : ∀ {w w'}, alike w w' → ∀ delay, alike (w.withDelay delay) (w'.withDelay delay)

variable {renderer : Renderer τ σ} {bindings : List Value}
variable {alike : World τ σ → World τ σ → Prop}

theorem Steady.resolve (steady : renderer.Steady bindings alike) (tag : ViewTag)
    (w w' : World τ σ) (h : alike w w') :
    Alike alike (renderer.registry.resolve false tag w)
      (renderer.registry.resolve false tag w') := by
  cases found : renderer.registry.find? tag.name with
  | none =>
      simp only [Registry.resolve, Scene.check, Bool.false_eq_true, if_false, found]
      exact ⟨rfl, h⟩
  | some retriever =>
      apply Registry.resolve_alike found found fun _ _ => steady.note
      obtain ⟨entry, hentry, rfl⟩ := Option.map_eq_some_iff.mp found
      exact steady.retrieve h entry (List.mem_of_find?_eq_some hentry) tag

theorem Steady.timed (steady : renderer.Steady bindings alike) (tag : ViewTag)
    (w w' : World τ σ) (h : alike w w') :
    Alike alike (World.timed (renderer.registry.resolve false tag) w)
      (World.timed (renderer.registry.resolve false tag) w') :=
  World.timed_alike (fun _ _ => steady.delay) (fun _ _ => steady.delayed) (steady.resolve tag) h

theorem Steady.similar (steady : renderer.Steady bindings alike) :
    Steps.Similar alike (renderer.steps bindings false) (renderer.steps bindings false) where
  expands := rfl
  find := rfl
  check := fun _ _ => rfl
  interpolate := steady.interpolate
  resolve := by
    intro w w' h tags
    simp only [steps, Renderer.resolve]
    split
    · exact resolveInTurn_alike (fun tag _ => steady.resolve tag) h
    · split
      · exact ⟨rfl, h⟩
      · exact resolvePooled_alike (fun tag _ => steady.timed tag) _ h
  note := fun h message => steady.note h _ _ message

omit [Add τ] in
/-- Every tag that a pass finds has a retriever, and is asked for. -/
theorem asks_of_find (kept : KeptNames renderer.registry.names)
    (derived : renderer.finder = ⟨renderer.registry.names⟩) {pass : Pass}
    (found : renderer.finder.find pass.text = .ok pass.tags) :
    ∀ tag ∈ pass.tags, ∀ world, renderer.registry.asks false tag world = true := by
  intro tag htag world
  rw [derived] at found
  exact Registry.asks_unguarded kept (Finder.exists_grouped_of_mem found htag).1 world

omit [Add τ] [LE τ] [DecidableLE τ] in
/-- The tags that are left are shown in order, each by a needle of its own. -/
theorem pendingNeedles_of_find (kept : KeptNames renderer.registry.names)
    (derived : renderer.finder = ⟨renderer.registry.names⟩) {text : String} {tags : List ViewTag}
    (found : renderer.finder.find text = .ok tags) :
    (pendingNeedles tags).Perm (tags.map (·.exampleNeedle)) ∧
      (pendingNeedles tags).Pairwise (· < ·) := by
  rw [derived] at found
  have nodup := Finder.nodup_exampleNeedles kept found
  rw [pendingNeedles, Text.distinct_of_nodup nodup]
  exact ⟨Text.perm_sorted _, Text.pairwise_lt_sorted nodup⟩

section

variable {start last : Stage (World τ σ × List ViewTag)} {passes : List Pass} {limit : Nat}

/-- Where passes are left after the limit, an expansion fails with the tags of the next one. It has
asked for the tags of the passes before. -/
theorem expandAt_of_lt (run : (renderer.listingSteps bindings false).Run start passes last)
    (asked : ∀ pass ∈ passes, ∀ tag ∈ pass.tags, ∀ world,
      renderer.registry.asks false tag world = true) (below : limit < passes.length) :
    ∃ state, (renderer.listingSteps bindings false).expandAt limit limit start =
        (.error (.recursionLimit limit (pendingNeedles passes[limit].tags)), state) ∧
      state.2 = start.state.2 ++ (passes.take limit).flatMap (·.tags) := by
  obtain ⟨mid, before, after⟩ := run.divide limit
  rw [List.drop_eq_getElem_cons below] at after
  cases after with
  | cons first _ =>
      obtain ⟨between, surveyed, -⟩ := first.surveys
      refine ⟨between, ?_, ?_⟩
      · have ran := @Steps.Run.expandAt _ _ _ _ _ limit 0 before
        rw [List.length_take_of_le (Nat.le_of_lt below), Nat.add_zero] at ran
        rw [ran]
        exact Steps.expandAt_zero surveyed first.tags_ne_nil
      · have listed := listed_of_run before
          (.inr fun pass hp => asked pass (List.mem_of_mem_take hp))
        rw [← listed, ← listed_survey (mid.report.passes + 1) mid.text mid.state]
        exact congrArg (·.2.2) surveyed.symm

/-- Where the limit suffices, it has no influence on an expansion. -/
theorem expandAt_of_le (run : (renderer.listingSteps bindings false).Run start passes last)
    (asked : ∀ pass ∈ passes, ∀ tag ∈ pass.tags, ∀ world,
      renderer.registry.asks false tag world = true) {text : String}
    (ended : ((renderer.listingSteps bindings false).surveyAt last).1 = .ok (text, []))
    (above : passes.length ≤ limit) :
    ∃ state, (renderer.listingSteps bindings false).expandAt limit limit start =
        (.ok (text, last.report), state) ∧
      state.2 = start.state.2 ++ passes.flatMap (·.tags) := by
  refine ⟨((renderer.listingSteps bindings false).surveyAt last).2, ?_, ?_⟩
  · have ran := @Steps.Run.expandAt _ _ _ _ _ limit (limit - passes.length) run
    rw [Nat.add_sub_cancel' above] at ran
    rw [ran]
    exact Steps.expandAt_of_surveyAt_nil (Prod.ext ended rfl)
  · rw [listed_survey, listed_of_run run (.inr asked)]

end

/-- What a render comes to under each limit, if its passes lead to a text without tags. -/
theorem compose_of_run {passes : List Pass} {template text : String} {world : World τ σ}
    {last : Stage (World τ σ)}
    (run : (renderer.steps bindings false).Run ⟨{}, template, world⟩ passes last)
    (ended : ((renderer.steps bindings false).surveyAt last).1 = .ok (text, []))
    (asked : ∀ pass ∈ passes, ∀ tag ∈ pass.tags, ∀ world,
      renderer.registry.asks false tag world = true) (limit : Nat) :
    (passes.length ≤ limit →
      (({ renderer with maxPasses := limit }).compose template bindings false world).1 =
          .ok (text, last.report) ∧
        (({ renderer with maxPasses := limit }).composeListing template bindings false world).2.2 =
          passes.flatMap (·.tags)) ∧
    ∀ below : limit < passes.length,
      (({ renderer with maxPasses := limit }).compose template bindings false world).1 =
          .error (.recursionLimit limit (pendingNeedles passes[limit].tags)) ∧
        (({ renderer with maxPasses := limit }).composeListing template bindings false world).2.2 =
          (passes.take limit).flatMap (·.tags) := by
  have start : world = (world, ([] : List ViewTag)).1 := rfl
  obtain ⟨state, related, listed⟩ := (similar_listingSteps renderer bindings false).run run start
  have ended' := ((similar_listingSteps renderer bindings false).survey related
    (last.report.passes + 1) last.text).1
  rw [ended] at ended'
  obtain ⟨same, -⟩ :=
    composeListing_eq { renderer with maxPasses := limit } template bindings false world
  constructor
  · intro above
    obtain ⟨state, expanded, calls⟩ := expandAt_of_le listed asked ended'.symm above
    have composed : ({ renderer with maxPasses := limit }).composeListing template bindings false
      world = (.ok (text, last.report), state) := expanded
    rw [← same, composed]
    exact ⟨rfl, calls⟩
  · intro below
    obtain ⟨state, expanded, calls⟩ := expandAt_of_lt listed asked below
    have composed : ({ renderer with maxPasses := limit }).composeListing template bindings false
        world = (.error (.recursionLimit limit (pendingNeedles passes[limit].tags)), state) :=
      expanded
    rw [← same, composed]
    exact ⟨rfl, calls⟩

/-- A render that succeeds, without a token, comes to the same in all worlds that are alike and with
every limit that allows its passes. With a smaller limit it fails when it has asked for the tags of
the passes that are allowed, and shows the tags that the next pass finds, each by a needle of its
own, in order. -/
theorem compose_of_limit {retrievers : List (String × Retriever τ σ)} {renderer : Renderer τ σ}
    (made : Registry.ofList retrievers = .ok renderer.registry)
    (plain : ∀ entry ∈ retrievers, ViewTag.IsPlain entry.1)
    (derived : renderer.finder = ⟨renderer.registry.names⟩) {bindings : List Value}
    {alike : World τ σ → World τ σ → Prop} (steady : renderer.Steady bindings alike)
    {template text : String} {world finish : World τ σ} {report : Report}
    (h : renderer.compose template bindings false world = (.ok (text, report), finish)) :
    ∃ passes : List Pass, passes.length = report.passes ∧
      (∃ last, (renderer.steps bindings false).Run ⟨{}, template, world⟩ passes last) ∧
      (∀ pass ∈ passes, renderer.finder.find pass.text = .ok pass.tags) ∧
      (renderer.composeListing template bindings false world).2.2 = passes.flatMap (·.tags) ∧
      ∀ world', alike world world' → ∀ limit,
        (report.passes ≤ limit →
          (({ renderer with maxPasses := limit }).compose template bindings false world').1 =
              .ok (text, report) ∧
            (({ renderer with maxPasses := limit }).composeListing template bindings false
              world').2.2 = passes.flatMap (·.tags)) ∧
        (limit < report.passes → ∃ pass pending, passes[limit]? = some pass ∧
          (({ renderer with maxPasses := limit }).compose template bindings false world').1 =
              .error (.recursionLimit limit pending) ∧
            (({ renderer with maxPasses := limit }).composeListing template bindings false
              world').2.2 = (passes.take limit).flatMap (·.tags) ∧
            pending.Perm (pass.tags.map (·.exampleNeedle)) ∧ pending.Pairwise (· < ·)) := by
  have kept := Registry.keptNames_of_ofList made plain
  have staged : (renderer.steps bindings false).expandAt renderer.maxPasses renderer.maxPasses
      ⟨{}, template, world⟩ = (.ok (text, report), finish) := h
  obtain ⟨passes, last, hle, run, ended, hreport⟩ := Steps.exists_run_of_expandAt staged
  have hlength : passes.length = report.passes := by
    rw [← hreport, run.passes_report]
    exact (Nat.zero_add _).symm
  have found : ∀ pass ∈ passes, renderer.finder.find pass.text = .ok pass.tags :=
    fun pass hp => (run.find pass hp).1
  have asked : ∀ pass ∈ passes, ∀ tag ∈ pass.tags, ∀ world,
      renderer.registry.asks false tag world = true :=
    fun pass hp => asks_of_find kept derived (found pass hp)
  refine ⟨passes, hlength, ⟨last, run⟩, found, ?_, ?_⟩
  · have ended' : ((renderer.steps bindings false).surveyAt last).1 = .ok (text, []) :=
      congrArg Prod.fst ended
    exact ((compose_of_run run ended' asked renderer.maxPasses).1 hle).2
  · intro world' related limit
    obtain ⟨state', relatedEnd, run'⟩ := steady.similar.run run related
    have ended' := (steady.similar.survey relatedEnd (last.report.passes + 1) last.text).1
    rw [Steps.surveyAt] at ended
    rw [ended] at ended'
    obtain ⟨above, below⟩ := compose_of_run run' ended'.symm asked limit
    rw [hlength, hreport] at above
    refine ⟨above, ?_⟩
    intro hlt
    rw [← hlength] at hlt
    obtain ⟨failed, calls⟩ := below hlt
    obtain ⟨perm, ordered⟩ := pendingNeedles_of_find kept derived
      (found passes[limit] (List.getElem_mem hlt))
    exact ⟨passes[limit], _, List.getElem?_eq_getElem hlt, failed, calls, perm, ordered⟩

/-- What is in the log has no influence on a greeting. -/
theorem steady_greeter : greeter.Steady [] fun w w' => w.scene = w'.scene where
  interpolate := fun h _ => ⟨rfl, h⟩
  retrieve := by
    intro w w' h entry hentry tag
    simp only [greeter, List.mem_cons, List.not_mem_nil, or_false] at hentry
    rcases hentry with rfl | rfl
    · exact ⟨rfl, h⟩
    · exact ⟨rfl, h⟩
  note := fun h _ _ _ => h
  delay := fun h => congrArg Scene.delay h
  delayed := fun h delay => congrArg (fun scene : Scene Nat Unit => { scene with delay }) h

theorem greeting_of_limit_one : ∃ passes : List Pass, passes.length = 2 ∧
    (greeter.composeListing "<greet/>" [] false quiet).2.2 = passes.flatMap (·.tags) ∧
    ∃ pass pending, passes[1]? = some pass ∧
      (({ greeter with maxPasses := 1 }).compose "<greet/>" [] false
        (quiet.note Log.debug .assembly "once more")).1 = .error (.recursionLimit 1 pending) ∧
      (({ greeter with maxPasses := 1 }).composeListing "<greet/>" [] false
        (quiet.note Log.debug .assembly "once more")).2.2 = (passes.take 1).flatMap (·.tags) ∧
      pending.Perm (pass.tags.map (·.exampleNeedle)) := by
  have plain : ∀ entry ∈ greeter.registry.entries, ViewTag.IsPlain entry.1 := by
    intro entry hentry
    simp only [greeter, List.mem_cons, List.not_mem_nil, or_false] at hentry
    rcases hentry with rfl | rfl
    · exact ⟨'g', "reet".toList, rfl, rfl, List.all_eq_true.mp (by decide)⟩
    · exact ⟨'w', "ho".toList, rfl, rfl, List.all_eq_true.mp (by decide)⟩
  have composed : greeter.compose "<greet/>" [] false quiet =
      (.ok ("Hello world!", ⟨[1, 1], ["greet", "who"], []⟩),
        (greeter.compose "<greet/>" [] false quiet).2) := rfl
  obtain ⟨passes, hlength, -, -, calls, limits⟩ :=
    @compose_of_limit Nat Unit _ _ _ greeter.registry.entries greeter rfl plain rfl [] _
      steady_greeter _ _ _ _ _ composed
  obtain ⟨-, below⟩ := limits (quiet.note Log.debug .assembly "once more") rfl 1
  obtain ⟨pass, pending, hpass, failed, calls', perm, -⟩ := below (by decide)
  exact ⟨passes, hlength, calls, pass, pending, hpass, failed, calls', perm⟩

end Renderer

end TagWeave
