import TagWeave.Proofs.Render.Calls
import TagWeave.Proofs.Value.Entries

/-!
# How a render fails

A render with one worker fails in one of five ways: its interpolation fails, the
attributes of a tag cannot be read, a tag is not resolved, tags are left after the last
pass, or the render is given up. The error says where it stood then. It tells the pass in
which attributes could not be read, and the first tag of a pass, in their order, whose
retriever did not return content; the retrievers of the tags before have been asked once
each, and those of the tags behind have not been asked at all.

What the application's code raises to end the program is none of these, and passes as it
is. An exception that has no wording passes in the form of what asking for it fails with, and
a tag that cannot be encoded ends the search for tags.
-/

namespace TagWeave

/-! ### Expansions that fail -/

namespace Steps

variable {ω ω' : Type} {steps : Steps ω} {stage : Stage ω} {limit allowed : Nat}

/-- A survey fails because the render is given up, or interpolation or the search for tags fails. -/
theorem error_of_survey {pass : Nat} {text : String} {state state' : ω} {e : Error}
    (h : steps.survey pass text state = (.error e, state')) :
    (∃ why, e = .cancelled why) ∨ (∃ before, (steps.interpolate text before).1 = .error e) ∨
      ∃ interpolated cause, steps.find interpolated = .error cause ∧ e = cause.inPass pass := by
  unfold survey at h
  split at h
  · next why given =>
    cases h
    exact .inl ⟨why, rfl⟩
  · split at h
    · next failed =>
      cases h
      exact .inr (.inl ⟨state, congrArg Prod.fst failed⟩)
    · split at h
      · split at h
        · next cause unread =>
          cases h
          exact .inr (.inr ⟨_, cause, unread, rfl⟩)
        · cases h
      · cases h

/-- An expansion from where it ends has that end. -/
theorem Ends.expandAt {result : Outcome (String × Report) × ω}
    (ends : steps.Ends limit allowed stage result) :
    steps.expandAt limit allowed stage = result := by
  cases ends with
  | failed surveyed => exact expandAt_of_surveyAt_error surveyed
  | done surveyed => exact expandAt_of_surveyAt_nil surveyed
  | exceeded surveyed nonempty => exact expandAt_zero surveyed nonempty
  | unresolved surveyed nonempty unresolved => rw [expandAt_succ surveyed nonempty, unresolved]

/-- Steps that answer alike end alike. -/
theorem Similar.ends {related : ω → ω' → Prop} {steps' : Steps ω'}
    (similar : Similar related steps steps') {outcome : Outcome (String × Report)} {s : ω}
    (ends : steps.Ends limit allowed stage (outcome, s)) {s' : ω'} (h : related stage.state s') :
    ∃ t', related s t' ∧
      steps'.Ends limit allowed ⟨stage.report, stage.text, s'⟩ (outcome, t') := by
  obtain ⟨found, between, between', eq, eq', after⟩ :=
    (similar.survey h (stage.report.passes + 1) stage.text).exists_eq
  generalize hresult : (outcome, s) = result at ends
  cases ends with
  | failed surveyed =>
      obtain ⟨rfl, rfl⟩ := Prod.mk.inj hresult
      obtain ⟨rfl, rfl⟩ := Prod.mk.inj (eq.symm.trans surveyed)
      exact ⟨between', after, .failed eq'⟩
  | done surveyed =>
      obtain ⟨rfl, rfl⟩ := Prod.mk.inj hresult
      obtain ⟨rfl, rfl⟩ := Prod.mk.inj (eq.symm.trans surveyed)
      exact ⟨between', after, .done eq'⟩
  | exceeded surveyed nonempty =>
      obtain ⟨rfl, rfl⟩ := Prod.mk.inj hresult
      obtain ⟨rfl, rfl⟩ := Prod.mk.inj (eq.symm.trans surveyed)
      exact ⟨between', after, .exceeded eq' nonempty⟩
  | @unresolved _ _ text tags e _ state surveyed nonempty unresolved =>
      obtain ⟨rfl, rfl⟩ := Prod.mk.inj hresult
      obtain ⟨rfl, rfl⟩ := Prod.mk.inj (eq.symm.trans surveyed)
      have noted := similar.note after (passNote (stage.report.passes + 1) tags)
      obtain ⟨answer, state', t', left, right, resolved⟩ :=
        (similar.resolve noted tags).exists_eq
      obtain ⟨rfl, rfl⟩ := Prod.mk.inj (left.symm.trans unresolved)
      exact ⟨t', resolved, .unresolved eq' nonempty right⟩

end Steps

/-- Tags that are resolved in turn fail with the first one that fails. -/
theorem exists_of_resolveInTurn_error {ω : Type} {run : ViewTag → ω → Outcome Content × ω}
    {tags : List ViewTag} {s s' : ω} {e : Error} (h : resolveInTurn run tags s = (.error e, s')) :
    ∃ before tag behind resolved between, tags = before ++ tag :: behind ∧
      resolveInTurn run before s = (.ok resolved, between) ∧ run tag between = (.error e, s') := by
  induction tags generalizing s with
  | nil => cases h
  | cons tag tags ih =>
      rw [resolveInTurn] at h
      split at h
      · next failed =>
        cases h
        exact ⟨[], tag, tags, [], s, rfl, rfl, failed⟩
      · next content next returned =>
        split at h
        · next failed =>
          cases h
          obtain ⟨before, tag', behind, resolved, between, rfl, earlier, here⟩ := ih failed
          refine ⟨tag :: before, tag', behind, (tag, content) :: resolved, between, rfl, ?_, here⟩
          rw [resolveInTurn, returned]
          simp only [earlier]
        · cases h

/-! ### Errors -/

namespace Error

/-- An error after which nothing else is tried says that the render was given up, or is no error
of the library. -/
theorem kind_of_isFinal {e : Error} (final : e.isFinal = true) :
    e.kind = "Cancelled" ∨ e.isExit = true := by
  rcases Bool.or_eq_true_iff.mp final with cancelled | exit
  · left
    unfold isCancellation at cancelled
    split at cancelled
    · rfl
    · rfl
    · cases cancelled
  · exact .inr exit

/-- The kinds of the errors of a render that are about no tag. -/
def generalKinds : List String := ["InterpolationError", "RecursionLimitExceeded", "Cancelled"]

end Error

/-- A mustache template fails by the given fault, which is not yet an error of interpolation. -/
def Mustache.Fails (host : Mustache.Host) (text : String) (bindings : List Value) (cause : Fault) :
    Prop :=
  ∃ memory, ((Mustache.interpolate host text bindings).run.run memory).1 =
    .error (.mustacheFailed cause)

theorem Interpolator.error_of_mustache {warn : Bool} {host : Mustache.Host} {text : String}
    {bindings : List Value} {memory : Mustache.Memory} {e : Error}
    (h : ((mustache warn).interpolate host text bindings memory).1 = .error e) :
    e.kind = "InterpolationError" ∨ ∃ cause, Mustache.Fails host text bindings cause ∧
      (e = .fault cause ∧ cause.isExit = true ∨ ∃ failure, e = .fault failure ∧
        cause.told = .error failure) := by
  rw [interpolate_mustache] at h
  split at h
  · cases h
  · next fault _ failed =>
    cases h
    unfold mustacheError
    split
    · next cause =>
      have fails : Mustache.Fails host text bindings cause := ⟨memory, congrArg Prod.fst failed⟩
      split
      · next exit => exact .inr ⟨cause, fails, .inl ⟨rfl, exit⟩⟩
      · split
        · exact .inl rfl
        · next failure untold => exact .inr ⟨cause, fails, .inr ⟨failure, rfl, untold⟩⟩
    · exact .inl rfl

/-! ### Tags that are not resolved -/

/-- What becomes of the answer of a retriever that returns no content. -/
inductive Refused (tag : ViewTag) : Outcome Answer → Error → Prop
  /-- It failed with an error that has a wording. -/
  | failed {cause : Error} (ordinary : cause.isFinal = false) {text : String}
      (told : cause.told = .ok text) : Refused tag (.error cause) (.retrieval tag.site cause)
  /-- It returned something else. -/
  | noContent (v : Value) : Refused tag (.ok (.value v)) (.wrongResult tag.site v.typeName)

namespace Refused

variable {tag : ViewTag} {outcome : Outcome Answer} {e : Error}

theorem kind (refused : Refused tag outcome e) : e.kind = "RetrieverError" := by
  cases refused with
  | failed => rfl
  | noContent => rfl

/-- The error names the tag. -/
theorem details? (refused : Refused tag outcome e) :
    e.details? = some (.retrieval tag.name tag.exampleNeedle (some tag.fingerprint)) := by
  cases refused with
  | failed => rfl
  | noContent => rfl

end Refused

variable {τ σ : Type}

/-- A renderer with one worker, which interpolates by mustache and looks for the tags for which it
has retrievers. -/
structure Renderer.Plain (renderer : Renderer τ σ) : Prop where
  engine : renderer.engine? = none
  language : ∃ warn, renderer.interpolator = .mustache warn
  registered : ∃ retrievers, Registry.ofList retrievers = .ok renderer.registry
  derived : renderer.finder = ⟨renderer.registry.names⟩
  alone : renderer.maxWorkers = 1

/-- The application's code raises an exception: a retriever that was called, or a lambda in a text. -/
def Renderer.Raises (renderer : Renderer τ σ) (bindings : List Value) (calls : List Call)
    (cause : Error) : Prop :=
  (∃ call ∈ calls, call.outcome = .error cause) ∨ ∃ text files fault, cause = .fault fault ∧
    Mustache.Fails (Mustache.Host.ofFiles renderer.lambda? files) text (renderer.bindings ++ bindings)
      fault

/-- What a render lets pass that is no error of its own. -/
inductive Renderer.Leak (renderer : Renderer τ σ) (bindings : List Value) (calls : List Call) :
    Error → Prop
  /-- A request to end the program. -/
  | exit {cause : Error} (raised : renderer.Raises bindings calls cause)
      (exit : cause.isExit = true) : Leak renderer bindings calls cause
  /-- What asking an exception for its wording fails with. -/
  | untold {cause : Error} (raised : renderer.Raises bindings calls cause) {failure : Fault}
      (untold : cause.told = .error failure) : Leak renderer bindings calls (.fault failure)
  /-- A tag in a text cannot be encoded. -/
  | unencodable {text : String} {error : Text.EncodeError}
      (found : renderer.finder.find text = .error (.fault (.unencodable error))) :
      Leak renderer bindings calls (.fault (.unencodable error))

theorem Renderer.Plain.leak_of_interpolate {renderer : Renderer τ σ} (plain : renderer.Plain)
    {bindings : List Value} {text : String} {world : World τ σ} {e : Error}
    (h : (renderer.interpolate bindings text world).1 = .error e) (calls : List Call) :
    e.kind = "InterpolationError" ∨ renderer.Leak bindings calls e := by
  obtain ⟨warn, language⟩ := plain.language
  rw [interpolate, plain.engine] at h
  simp only [language] at h
  have raises : ∀ cause, Mustache.Fails
      (Mustache.Host.ofFiles renderer.lambda? world.scene.files) text (renderer.bindings ++ bindings)
      cause → renderer.Raises bindings calls (.fault cause) :=
    fun cause fails => .inr ⟨text, world.scene.files, cause, rfl, fails⟩
  refine (Interpolator.error_of_mustache h).imp_right ?_
  rintro ⟨cause, fails, ⟨rfl, exit⟩ | ⟨failure, rfl, untold⟩⟩
  · exact .exit (raises cause fails) exit
  · exact .untold (raises cause fails) untold

/-- A tag of such a renderer has a retriever. -/
theorem Renderer.Plain.exists_find? {renderer : Renderer τ σ} (plain : renderer.Plain) {text : String}
    {tags : List ViewTag} (found : renderer.finder.find text = .ok tags) {tag : ViewTag}
    (htag : tag ∈ tags) : ∃ retriever, renderer.registry.find? tag.name = some retriever := by
  obtain ⟨retrievers, made⟩ := plain.registered
  rw [plain.derived] at found
  exact Registry.exists_find?_of_mem_names made (Finder.exists_grouped_of_mem found htag).1

variable [Add τ] [LE τ] [DecidableLE τ]

/-- A tag of a registered name is not resolved because the render is given up, or because of what
its retriever answers. -/
theorem Registry.error_of_resolve {registry : Registry τ σ} {guarded : Bool} {tag : ViewTag}
    {world next : World τ σ} {e : Error}
    (registered : ∃ retriever, registry.find? tag.name = some retriever)
    (h : registry.resolve guarded tag world = (.error e, next)) :
    (∃ why, e = .cancelled why) ∨
      ∃ outcome, registry.call? guarded tag world = some ⟨tag, outcome⟩ ∧
        (outcome = .error e ∧ e.isFinal = true ∨
          (∃ cause failure, outcome = .error cause ∧ cause.told = .error failure ∧
            e = .fault failure) ∨ Refused tag outcome e) := by
  obtain ⟨retriever, found⟩ := registered
  rw [resolve] at h
  rw [call?]
  cases checked : world.scene.check guarded ("resolving <" ++ tag.name ++ ">") with
  | some why =>
    simp only [checked] at h
    cases h
    exact .inl ⟨why, rfl⟩
  | none =>
    simp only [checked, found] at h
    rw [found, Option.map_some]
    split at h
    · next cause _ failed =>
      cases h
      refine .inr ⟨_, rfl, ?_⟩
      rw [failed]
      unfold Error.ofRetrieval
      by_cases final : cause.isFinal = true
      · rw [if_pos final]
        exact .inl ⟨rfl, final⟩
      · rw [if_neg final]
        split
        · next told => exact .inr (.inr (.failed (Bool.not_eq_true _ ▸ final) told))
        · next failure untold => exact .inr (.inl ⟨cause, failure, rfl, untold, rfl⟩)
    · next v _ returned =>
      cases h
      rw [returned]
      exact .inr ⟨_, rfl, .inr (.inr (.noContent v))⟩
    · cases h

namespace Renderer

/-- A pass that fails at one of its tags: the tags before it have their contents, and its
retriever has answered. -/
structure FailedPass where
  resolved : List (ViewTag × Content)
  tag : ViewTag
  outcome : Outcome Answer
  behind : List ViewTag

/-- The tags of the pass, in the order in which they were found. -/
def FailedPass.tags (pass : FailedPass) : List ViewTag :=
  pass.resolved.map (·.1) ++ pass.tag :: pass.behind

/-- The calls of the pass: one for each tag up to the one that failed. -/
def FailedPass.calls (pass : FailedPass) : List Call :=
  pass.resolved.map Call.returned ++ [⟨pass.tag, pass.outcome⟩]

variable {renderer : Renderer τ σ} {bindings : List Value} {guarded : Bool}

/-- A pass that fails has called the retrievers up to the one that did not return content. -/
theorem Plain.failed_of_resolve (plain : renderer.Plain) {text : String} {tags : List ViewTag}
    (found : renderer.finder.find text = .ok tags) {state state' : World τ σ × List Call} {e : Error}
    (h : (renderer.recordingSteps bindings guarded).resolve tags state = (.error e, state')) :
    (∃ why, e = .cancelled why) ∨
      ∃ pass : FailedPass, pass.tags = tags ∧ state'.2 = state.2 ++ pass.calls ∧
        (pass.outcome = .error e ∧ e.isFinal = true ∨
          (∃ cause failure, pass.outcome = .error cause ∧ cause.told = .error failure ∧
            e = .fault failure) ∨ Refused pass.tag pass.outcome e) := by
  obtain ⟨before, tag, behind, resolved, between, rfl, earlier, here⟩ :=
    exists_of_resolveInTurn_error h
  have registered := plain.exists_find? found (List.mem_append_right before (List.mem_cons_self ..))
  rw [recording] at here
  cases answered : renderer.registry.resolve guarded tag between.1 with
  | mk outcome next =>
      rw [answered] at here
      obtain ⟨rfl, rfl⟩ := Prod.mk.inj here
      refine (Registry.error_of_resolve registered answered).imp_right ?_
      rintro ⟨outcome, called, refused⟩
      refine ⟨⟨resolved, tag, outcome, behind⟩, ?_, ?_, refused⟩
      · rw [FailedPass.tags, tags_of_resolveInTurn earlier]
      · have entered : ∀ tag world content next,
            renderer.registry.resolve guarded tag world = (.ok content, next) →
              renderer.registry.call? guarded tag world = some (.returned (tag, content)) :=
          fun _ _ _ _ => Registry.call?_of_resolve
        rw [called, recorded_inTurn entered earlier, FailedPass.calls, List.append_assoc]
        rfl

omit [Add τ] [LE τ] [DecidableLE τ] in
theorem Raises.of_pass {calls : List Call} {pass : FailedPass} {cause : Error}
    (raised : pass.outcome = .error cause) : renderer.Raises bindings (calls ++ pass.calls) cause :=
  .inl ⟨⟨pass.tag, pass.outcome⟩, by simp [FailedPass.calls], raised⟩

/-- With one worker, an expansion that fails at a stage does so in a way that the error tells. -/
theorem Plain.failed (plain : renderer.Plain) {stage : Stage (World τ σ × List Call)}
    {limit remaining : Nat} {e : Error} {state : World τ σ × List Call}
    (ends : (renderer.recordingSteps bindings guarded).Ends limit remaining stage (.error e, state)) :
    (renderer.Leak bindings state.2 e ∨ e.kind ∈ Error.generalKinds) ∨
      (∃ tag fragment fault, e = .parse tag fragment fault (some (stage.report.passes + 1))) ∨
      ∃ text, ∃ pass : FailedPass,
        ((renderer.recordingSteps bindings guarded).surveyAt stage).1 = .ok (text, pass.tags) ∧
          state.2 = stage.state.2 ++ pass.calls ∧ Refused pass.tag pass.outcome e := by
  have given_up : ∀ why, (Error.cancelled why).kind ∈ Error.generalKinds := by
    simp [Error.generalKinds, Error.kind, Error.details?, Details.kind]
  cases ends with
  | failed surveyed =>
      rcases Steps.error_of_survey surveyed with
        ⟨why, rfl⟩ | ⟨before, failed⟩ | ⟨text, cause, unread, rfl⟩
      · exact .inl (.inr (given_up why))
      · left
        rcases plain.leak_of_interpolate failed state.2 with kind | leak
        · exact .inr (by simp [kind, Error.generalKinds])
        · exact .inl leak
      · obtain ⟨name, -, o, -, spoilt⟩ := Finder.exists_of_findAll_error unread
        rcases ViewTag.exists_of_single?_error spoilt with ⟨fragment, fault, rfl⟩ | ⟨error, rfl⟩
        · exact .inr (.inl ⟨name, fragment, fault, rfl⟩)
        · exact .inl (.inl (.unencodable unread))
  | exceeded surveyed nonempty =>
      exact .inl (.inr (by simp [Error.generalKinds, Error.kind, Error.details?, Details.kind]))
  | @unresolved _ _ text tags _ between _ surveyed nonempty unresolved =>
      have found := Steps.find_of_survey surveyed (.inr nonempty)
      have kept : between.2 = stage.state.2 := by
        rw [← Steps.survey_beside (stage.report.passes + 1) stage.text stage.state]
        exact congrArg (·.2.2) surveyed.symm
      rcases plain.failed_of_resolve found unresolved with
        ⟨why, rfl⟩ | ⟨pass, rfl, recorded, ⟨raised, final⟩ | ⟨cause, failure, raised, untold, rfl⟩ |
          refused⟩
      · exact .inl (.inr (given_up why))
      · left
        rcases Error.kind_of_isFinal final with kind | exit
        · exact .inr (by simp [kind, Error.generalKinds])
        · rw [recorded]
          exact .inl (.exit (.of_pass raised) exit)
      · rw [recorded]
        exact .inl (.inl (.untold (.of_pass raised) untold))
      · refine .inr (.inr ⟨text, pass, congrArg Prod.fst surveyed, ?_, refused⟩)
        rw [recorded, ← kept]
        rfl

end Renderer

end TagWeave
