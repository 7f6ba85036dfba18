import TagWeave.Proofs.Render.Contents
import TagWeave.Proofs.Render.Pool
import TagWeave.Proofs.ViewTag.Brackets

/-!
# How many passes there are

If interpolation adds no opening brackets, and what the retrievers return has none, each
pass leaves fewer of them in the text. So there are at most as many passes as there are
opening brackets when the template has been interpolated, and a limit that allows so many
is never exceeded.
-/

namespace TagWeave

/-- Whether an error says that a render takes too many passes. -/
def Error.isRecursionLimit (e : Error) : Bool :=
  match e.details? with
  | some (.recursionLimit _ _) => true
  | _ => false

/-! ### Expansions -/

namespace Steps

variable {ω : Type} {steps : Steps ω} {sound : ω → Prop}

/-- In sound states, which are kept, interpolation adds no opening brackets and each pass leaves
fewer of them. The steps do not tell of a limit on their own, apart from interpolation. -/
structure Shrinks (steps : Steps ω) (sound : ω → Prop) : Prop where
  interpolate : ∀ {text text' state state'}, sound state →
    steps.interpolate text state = (.ok text', state') →
      sound state' ∧ openings text' ≤ openings text
  resolve : ∀ {text tags resolved state state'}, sound state → steps.find text = .ok tags →
    tags ≠ [] → steps.resolve tags state = (.ok resolved, state') →
      sound state' ∧ openings (substitute text resolved) < openings text
  note : ∀ {state}, sound state → ∀ message, sound (steps.note message state)
  opened : ∀ {text tags}, steps.find text = .ok tags → tags ≠ [] → 0 < openings text
  find_error : ∀ {text e}, steps.find text = .error e → e.isRecursionLimit = false
  resolve_error : ∀ {tags state e state'}, steps.resolve tags state = (.error e, state') →
    e.isRecursionLimit = false

/-- The text that the next pass interpolates has no more than `n` opening brackets then. -/
def Within (steps : Steps ω) (n : Nat) (stage : Stage ω) : Prop :=
  ∀ text tags state, steps.surveyAt stage = (.ok (text, tags), state) → openings text ≤ n

theorem Shrinks.survey (shrinks : steps.Shrinks sound) {pass : Nat} {text text' : String}
    {tags : List ViewTag} {state state' : ω} (start : sound state)
    (h : steps.survey pass text state = (.ok (text', tags), state')) :
    sound state' ∧ openings text' ≤ openings text :=
  shrinks.interpolate start (interpolate_of_survey h)

/-- Each pass uses up an opening bracket. -/
theorem Shrinks.performs (shrinks : steps.Shrinks sound) {stage next : Stage ω} {pass : Pass}
    (performs : steps.Performs stage pass next) (start : sound stage.state) {n : Nat}
    (within : steps.Within n stage) :
    sound next.state ∧ 1 ≤ n ∧ steps.Within (n - 1) next := by
  obtain ⟨nonempty, ⟨between, surveyed, resolved⟩, -, htext⟩ := performs
  have here := within _ _ _ surveyed
  have found := find_of_survey surveyed (.inr nonempty)
  obtain ⟨after, fewer⟩ :=
    shrinks.resolve (shrinks.note (shrinks.survey start surveyed).1 _) found nonempty resolved
  refine ⟨after, by omega, ?_⟩
  intro text tags state surveyed'
  have later := (shrinks.survey after surveyed').2
  rw [htext] at later
  omega

theorem Shrinks.run (shrinks : steps.Shrinks sound) {stage last : Stage ω} {passes : List Pass}
    (run : steps.Run stage passes last) (start : sound stage.state) {n : Nat}
    (within : steps.Within n stage) :
    sound last.state ∧ passes.length ≤ n ∧ steps.Within (n - passes.length) last := by
  induction run generalizing n with
  | nil stage => exact ⟨start, Nat.zero_le _, within⟩
  | @cons stage mid last pass passes first rest ih =>
      obtain ⟨between, enough, within⟩ := shrinks.performs first start within
      obtain ⟨after, le, within⟩ := ih between within
      rw [Nat.sub_sub, Nat.add_comm] at within
      rw [List.length_cons]
      exact ⟨after, by omega, within⟩

/-- If as many passes are allowed as there are opening brackets, only interpolation can tell of a
limit. -/
theorem Shrinks.exists_of_expandAt (shrinks : steps.Shrinks sound) {stage : Stage ω}
    (start : sound stage.state) {n limit allowed : Nat} (within : steps.Within n stage)
    (enough : n ≤ allowed) {e : Error} {state : ω}
    (h : steps.expandAt limit allowed stage = (.error e, state)) (told : e.isRecursionLimit = true) :
    ∃ passes last, steps.Run stage passes last ∧
      (steps.interpolate last.text last.state).1 = .error e := by
  obtain ⟨passes, last, remaining, hallowed, run, ends⟩ :=
    steps.exists_run_ends limit allowed stage
  obtain ⟨-, le, within⟩ := shrinks.run run start within
  rw [h] at ends
  cases ends with
  | failed surveyed =>
      rw [surveyAt, Steps.survey] at surveyed
      split at surveyed
      · cases surveyed
        simp [Error.isRecursionLimit, Error.details?] at told
      · split at surveyed
        · next failed =>
          cases surveyed
          exact ⟨passes, last, run, congrArg Prod.fst failed⟩
        · split at surveyed
          · split at surveyed
            · next unread =>
              cases surveyed
              have quiet := shrinks.find_error unread
              unfold Error.inPass at told
              split at told
              · simp [Error.isRecursionLimit, Error.details?] at told
              · simp [quiet] at told
            · cases surveyed
          · cases surveyed
  | exceeded surveyed nonempty =>
      have none := within _ _ _ surveyed
      have some := shrinks.opened (find_of_survey surveyed (.inr nonempty)) nonempty
      omega
  | unresolved surveyed nonempty unresolved =>
      rw [shrinks.resolve_error unresolved] at told
      cases told

/-! ### Counting -/

/-- The steps beside which the resolutions are counted. -/
def counting (steps : Steps ω) : Steps (ω × Nat) :=
  steps.beside fun tags state =>
    match steps.resolve tags state.1 with
    | (outcome, next) => (outcome, (next, state.2 + 1))

theorem similar_counting (steps : Steps ω) :
    Similar (fun state counted => state = counted.1) steps steps.counting := by
  apply similar_beside
  intro tags state
  exact ⟨rfl, rfl⟩

/-- Counting changes nothing about what is left. -/
theorem Shrinks.counting (shrinks : steps.Shrinks sound) :
    steps.counting.Shrinks fun counted => sound counted.1 where
  interpolate := by
    intro text text' state state' start h
    obtain ⟨same, rfl⟩ := Prod.mk.inj h
    exact shrinks.interpolate start (Prod.ext same rfl)
  resolve := by
    intro text tags resolved state state' start found nonempty h
    obtain ⟨same, rfl⟩ := Prod.mk.inj h
    exact shrinks.resolve start found nonempty (Prod.ext same rfl)
  note := fun start message => shrinks.note start message
  opened := shrinks.opened
  find_error := shrinks.find_error
  resolve_error := by
    intro tags state e state' h
    obtain ⟨same, -⟩ := Prod.mk.inj h
    exact shrinks.resolve_error (Prod.ext same rfl)

theorem counted_survey (steps : Steps ω) (stage : Stage (ω × Nat)) :
    (steps.counting.surveyAt stage).2.2 = stage.state.2 :=
  survey_beside _ _ _

theorem counted_run {stage last : Stage (ω × Nat)} {passes : List Pass}
    (run : steps.counting.Run stage passes last) :
    last.state.2 = stage.state.2 + passes.length := by
  induction run with
  | nil => rfl
  | @cons stage mid last pass passes first rest ih =>
      obtain ⟨between, resolved⟩ := first.resolved_beside
      have counted : mid.state.2 = stage.state.2 + 1 := congrArg (·.2.2) resolved.symm
      rw [ih, counted, List.length_cons]
      omega

/-- No more resolutions are begun than there are opening brackets, however the expansion ends. -/
theorem Shrinks.counted_expandAt (shrinks : steps.Shrinks sound) {stage : Stage (ω × Nat)}
    (start : sound stage.state.1) {n : Nat} (within : steps.counting.Within n stage)
    (limit allowed : Nat) :
    (steps.counting.expandAt limit allowed stage).2.2 ≤ stage.state.2 + n := by
  obtain ⟨passes, last, remaining, -, run, ends⟩ :=
    steps.counting.exists_run_ends limit allowed stage
  obtain ⟨-, le, within⟩ := shrinks.counting.run run start within
  have counted := counted_run run
  have surveyed := steps.counted_survey last
  generalize steps.counting.expandAt limit allowed stage = result at ends
  cases ends with
  | failed h =>
      rw [h] at surveyed
      exact surveyed.trans_le (by omega)
  | done h =>
      rw [h] at surveyed
      exact surveyed.trans_le (by omega)
  | exceeded h _ =>
      rw [h] at surveyed
      exact surveyed.trans_le (by omega)
  | @unresolved _ _ text tags _ between state h nonempty unresolved =>
      have some := shrinks.counting.opened (find_of_survey h (.inr nonempty)) nonempty
      have left := within _ _ _ h
      rw [h] at surveyed
      have counted' : state.2 = between.2 + 1 := congrArg (·.2.2) unresolved.symm
      simp only at surveyed counted' ⊢
      omega

end Steps

/-! ### Renderers -/

theorem Interpolator.isRecursionLimit_mustacheError (f : InterpolationFault) :
    (mustacheError f).isRecursionLimit = false := by
  cases f with
  | mustacheFailed cause =>
      rw [mustacheError]
      split
      · rfl
      · cases cause.told <;> rfl
  | _ => rfl

/-- An error after which nothing else is tried does not tell of a limit. -/
theorem Error.isRecursionLimit_of_isFinal {e : Error} (final : e.isFinal = true) :
    e.isRecursionLimit = false := by
  cases e with
  | recursionLimit => cases final
  | custom details message => cases details <;> first | rfl | cases final
  | _ => rfl

theorem Error.isRecursionLimit_ofRetrieval (site : Site) (e : Error) :
    (e.ofRetrieval site).isRecursionLimit = false := by
  rw [ofRetrieval]
  split
  · next final => exact isRecursionLimit_of_isFinal final
  · cases e.told <;> rfl

/-- An interpolator of the library fails with errors of its own. -/
theorem Interpolator.isRecursionLimit_eq_false {interpolator : Interpolator} {host : Mustache.Host}
    {text : String} {bindings : List Value} {memory : Mustache.Memory} {e : Error}
    (h : (interpolator.interpolate host text bindings memory).1 = .error e) :
    e.isRecursionLimit = false := by
  unfold interpolate interpolateWith at h
  split at h
  · split at h
    · cases h
    · cases h
      exact isRecursionLimit_mustacheError _
  · simp only [Jinja.interpolateWith] at h
    split at h
    · cases h
      rfl
    · split at h
      · cases h
      · cases h
        rfl
      · cases h
        rfl

namespace Renderer

variable {τ σ : Type} [Add τ] [LE τ] [DecidableLE τ]

/-- In sound worlds, which are kept, interpolation adds no opening brackets, and what the retrievers
return has none. -/
structure Tame (renderer : Renderer τ σ) (bindings : List Value) (guarded : Bool)
    (sound : World τ σ → Prop) : Prop extends
    Yields renderer guarded sound fun content => openings content.text = 0 where
  interpolate : ∀ {text text' world world'}, sound world →
    renderer.interpolate bindings text world = (.ok text', world') →
      sound world' ∧ openings text' ≤ openings text

/-- Renders a template as `compose` does, and counts how often the tags of a pass are resolved. -/
def composeCounting (renderer : Renderer τ σ) (template : String) (bindings : List Value)
    (guarded : Bool) (world : World τ σ) : Outcome (String × Report) × (World τ σ × Nat) :=
  (renderer.steps bindings guarded).counting.expand renderer.maxPasses template (world, 0)

/-- The number of passes of a render that begin to resolve tags, whether or not they succeed. -/
def resolutions (renderer : Renderer τ σ) (template : String) (bindings : List Value)
    (guarded : Bool) (world : World τ σ) : Nat :=
  (renderer.composeCounting template bindings guarded world).2.2

/-- Counting has no influence on a render. -/
theorem composeCounting_eq (renderer : Renderer τ σ) (template : String) (bindings : List Value)
    (guarded : Bool) (world : World τ σ) :
    (renderer.composeCounting template bindings guarded world).1 =
        (renderer.compose template bindings guarded world).1 ∧
      (renderer.composeCounting template bindings guarded world).2.1 =
        (renderer.compose template bindings guarded world).2 := by
  have related : world = (world, 0).1 := rfl
  obtain ⟨same, after⟩ := ((renderer.steps bindings guarded).similar_counting).expandFrom related
    renderer.maxPasses renderer.maxPasses {} template
  exact ⟨same.symm, after.symm⟩

variable {renderer : Renderer τ σ} {bindings : List Value} {guarded : Bool}
variable {sound : World τ σ → Prop}

omit [Add τ] [LE τ] [DecidableLE τ] in
theorem isRecursionLimit_of_interpolate (own : renderer.engine? = none) {text : String}
    {world : World τ σ} {e : Error}
    (h : (renderer.interpolate bindings text world).1 = .error e) : e.isRecursionLimit = false := by
  simp only [Renderer.interpolate, own] at h
  exact Interpolator.isRecursionLimit_eq_false h

/-- What goes wrong with a tag is not that there are too many passes. -/
theorem isRecursionLimit_of_resolve {registry : Registry τ σ} {tag : ViewTag} {world : World τ σ}
    {e : Error} (h : (registry.resolve guarded tag world).1 = .error e) :
    e.isRecursionLimit = false := by
  rw [Registry.resolve] at h
  split at h
  · cases h
    rfl
  · split at h
    · cases h
      rfl
    · split at h
      · cases h
        exact Error.isRecursionLimit_ofRetrieval ..
      · cases h
        rfl
      · cases h

theorem Tame.shrinks (tame : renderer.Tame bindings guarded sound) :
    (renderer.steps bindings guarded).Shrinks sound where
  interpolate := tame.interpolate
  resolve := by
    intro text tags resolved world next start found nonempty h
    obtain ⟨after, whole, free⟩ := tame.resolves start h
    refine ⟨after, openings_substitute_lt found nonempty whole ?_⟩
    exact fun pair hpair => List.count_eq_zero.mp (free pair hpair)
  note := fun start message => tame.note start _ _ message
  opened := openings_pos
  find_error := by
    intro text e h
    obtain ⟨name, -, o, -, failed⟩ := Finder.exists_of_findAll_error h
    rcases ViewTag.exists_of_single?_error failed with ⟨fragment, fault, rfl⟩ | ⟨fault, rfl⟩
    · rfl
    · rfl
  resolve_error := by
    intro tags world e next h
    let quiet : Error → Prop := fun e => e.isRecursionLimit = false
    have fails : ∀ tag world e, (renderer.registry.resolve guarded tag world).1 = .error e →
        quiet e := fun _ _ _ => isRecursionLimit_of_resolve
    exact tame.error_of_resolve fails rfl rfl (congrArg Prod.fst h)

/-- Tags are resolved in no more passes than there are opening brackets in the interpolated template.
So a report counts no more passes, and a render that is allowed as many never fails for too many of
them, unless the interpolation of one of its texts says so. An interpolator of the library never
does. -/
theorem passes_le_openings (tame : renderer.Tame bindings guarded sound) {world : World τ σ}
    (start : sound world) {template text : String}
    (interpolated : (renderer.interpolate bindings template world).1 = .ok text) :
    ((renderer.composeCounting template bindings guarded world).1 =
        (renderer.compose template bindings guarded world).1 ∧
      renderer.resolutions template bindings guarded world ≤ openings text) ∧
    (∀ result report,
      (renderer.compose template bindings guarded world).1 = .ok (result, report) →
        report.passes ≤ openings text) ∧
    (openings text ≤ renderer.maxPasses → ∀ e,
      (renderer.compose template bindings guarded world).1 = .error e →
        e.isRecursionLimit = true → renderer.engine? ≠ none ∧
          ∃ passes last, (renderer.steps bindings guarded).Run ⟨{}, template, world⟩ passes last ∧
            (renderer.interpolate bindings last.text last.state).1 = .error e) := by
  have within : (renderer.steps bindings guarded).Within (openings text) ⟨{}, template, world⟩ := by
    intro text' tags next surveyed
    have same := congrArg Prod.fst (Steps.interpolate_of_survey surveyed)
    rw [Except.ok.inj (interpolated.symm.trans same)]
  refine ⟨⟨(composeCounting_eq renderer template bindings guarded world).1, ?begun⟩, ?told, ?limit⟩
  case begun =>
    have counted : (renderer.steps bindings guarded).counting.Within (openings text)
        ⟨{}, template, (world, 0)⟩ := by
      intro text' tags next surveyed
      have same := congrArg Prod.fst (Steps.interpolate_of_survey surveyed)
      rw [Except.ok.inj (interpolated.symm.trans same)]
    have bounded := tame.shrinks.counted_expandAt start counted renderer.maxPasses
      renderer.maxPasses
    rwa [Nat.zero_add] at bounded
  case told =>
    intro result report composed
    have expanded : (renderer.steps bindings guarded).expandAt renderer.maxPasses
        renderer.maxPasses ⟨{}, template, world⟩ = (.ok (result, report), _) := Prod.ext composed rfl
    obtain ⟨passes, last, -, run, -, rfl⟩ := Steps.exists_run_of_expandAt expanded
    rw [run.passes_report]
    have bounded := (tame.shrinks.run run start within).2.1
    exact (Nat.zero_add _).trans_le bounded
  case limit =>
    intro enough e composed told
    obtain ⟨passes, last, run, failed⟩ :=
      tame.shrinks.exists_of_expandAt start within enough (Prod.ext composed rfl) told
    have failed : (renderer.interpolate bindings last.text last.state).1 = .error e := failed
    refine ⟨fun own => ?_, passes, last, run, failed⟩
    rw [isRecursionLimit_of_interpolate own failed] at told
    cases told

/-- A renderer that keeps a tally, and fails when it gets too long. A tag that stands in pieces comes
together when the blank between them is resolved. -/
def tally : Renderer Nat Nat where
  registry :=
    ⟨[("strokes", .leaf fun _ _ scene =>
        if scene.state < 5 then
          (.ok (.content { text := String.ofList (List.replicate scene.state '|') }),
            { scene with state := scene.state + 1 })
        else (.error (.fault (.noSources "strokes")), scene)),
      ("blank", .static { text := "" })]⟩
  finder := ⟨["strokes", "blank"]⟩
  interpolator := .mustache false
  engine? := some fun text _ scene => (.ok text, scene)
  maxPasses := 2
  maxWorkers := 3
  course _ _ := backwards

theorem tally_tame : tally.Tame [] false fun _ => True where
  retrieve := by
    intro world _ tag retriever found
    refine ⟨trivial, ?_⟩
    intro content returned
    obtain ⟨entry, there, rfl⟩ := Option.map_eq_some_iff.mp found
    have among := List.mem_of_find?_eq_some there
    simp only [tally, List.mem_cons, List.not_mem_nil, or_false] at among
    rcases among with rfl | rfl
    · simp only [Retriever.retrieve] at returned
      split at returned
      · cases returned
        rw [openings, String.toList_ofList, List.count_replicate]
        rfl
      · cases returned
    · cases returned
      rfl
  note := fun _ _ _ _ => trivial
  delayed := fun _ _ => trivial
  ends := .inr fun _ _ begun => begun.reverse_perm.subperm
  interpolate := by
    rintro text _ world _ - ⟨⟩
    exact ⟨trivial, Nat.le_refl _⟩

/-- Two opening brackets take two passes, of which the second resolves what the first has joined. -/
theorem tally_passes : openings "<<blank/>strokes/>" = 2 ∧
    tally.resolutions "<<blank/>strokes/>" [] false morning ≤ 2 ∧
    (∀ result report,
      (tally.compose "<<blank/>strokes/>" [] false morning).1 = .ok (result, report) →
        report.passes ≤ 2) ∧
    ∀ e, (tally.compose "<<blank/>strokes/>" [] false morning).1 = .error e →
      e.isRecursionLimit = false := by
  have interpolated :
      (tally.interpolate [] "<<blank/>strokes/>" morning).1 = .ok "<<blank/>strokes/>" := rfl
  obtain ⟨⟨-, resolutions⟩, passes, limit⟩ := passes_le_openings tally_tame trivial interpolated
  refine ⟨rfl, resolutions, passes, ?_⟩
  intro e failed
  by_contra told
  obtain ⟨-, _, _, -, raised⟩ := limit (Nat.le_refl 2) e failed (Bool.not_eq_false _ ▸ told)
  cases raised

example : tally.resolutions "<<blank/>strokes/>" [] false morning = 2 := rfl

end Renderer

end TagWeave
