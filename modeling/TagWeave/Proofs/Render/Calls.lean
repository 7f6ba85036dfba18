import TagWeave.Proofs.Render.Report
import TagWeave.Proofs.Render.Resolution
import TagWeave.Proofs.Render.Result
import TagWeave.Proofs.ViewTag.Identity

/-!
# What a report tells of the calls of retrievers

Beside the steps of a renderer that resolves tags in turn stand steps that also record
each call of a retriever: the tag that it was asked for and what it answered. The
report of a render that succeeds counts these calls pass by pass, and has the names of
their tags and the labels of what they returned.
-/

namespace TagWeave

open TagWeave.ViewTag

/-- A call of a retriever: the tag that it is asked for, and its answer. -/
structure Call where
  tag : ViewTag
  outcome : Outcome Answer

/-- The call of a retriever that returned some content for a tag. -/
def Call.returned (pair : ViewTag × Content) : Call := ⟨pair.1, .ok (.content pair.2)⟩

section

variable {α ω ε : Type}

/-- Runs something for a tag, and records an entry about it, if there is one. -/
def recording (record? : ViewTag → ω → Option ε) (run : ViewTag → ω → α × ω) (tag : ViewTag)
    (state : ω × List ε) : α × (ω × List ε) :=
  match run tag state.1 with
  | (answer, next) => (answer, (next, state.2 ++ (record? tag state.1).toList))

variable {record? : ViewTag → ω → Option ε}

/-- Recording entries has no influence on what is run. -/
theorem recording_alike (record? : ViewTag → ω → Option ε) (run : ViewTag → ω → α × ω)
    (tag : ViewTag) (s : ω) (s' : ω × List ε) (h : s = s'.1) :
    Alike (fun s s' => s = s'.1) (run tag s) (recording record? run tag s') := by
  rw [h]
  exact ⟨rfl, rfl⟩

/-- Tags that are resolved in turn all get a content, in their order. -/
theorem tags_of_resolveInTurn {run : ViewTag → ω → Outcome Content × ω} {tags : List ViewTag}
    {s s' : ω} {resolved : List (ViewTag × Content)}
    (h : resolveInTurn run tags s = (.ok resolved, s')) : resolved.map (·.1) = tags := by
  induction tags generalizing s resolved with
  | nil =>
      cases h
      rfl
  | cons tag tags ih =>
      rw [resolveInTurn] at h
      split at h
      · cases h
      · split at h
        · cases h
        · next followed =>
          cases h
          rw [List.map_cons, ih followed]

/-- If each success records an entry, tags that are resolved in turn record one each. -/
theorem recorded_inTurn {run : ViewTag → ω → Outcome Content × ω} {entry : ViewTag × Content → ε}
    (entered : ∀ tag s content next, run tag s = (.ok content, next) →
      record? tag s = some (entry (tag, content)))
    {tags : List ViewTag} {s s' : ω × List ε} {resolved : List (ViewTag × Content)}
    (h : resolveInTurn (recording record? run) tags s = (.ok resolved, s')) :
    s'.2 = s.2 ++ resolved.map entry := by
  induction tags generalizing s resolved with
  | nil =>
      cases h
      exact (List.append_nil _).symm
  | cons tag tags ih =>
      rw [resolveInTurn, recording] at h
      cases first : run tag s.1 with
      | mk outcome next =>
          rw [first] at h
          cases outcome with
          | error e => cases h
          | ok content =>
              simp only [entered tag s.1 content next first, Option.toList_some] at h
              split at h
              · cases h
              · next rest state followed =>
                cases h
                rw [ih followed, List.append_assoc]
                rfl

end

variable {τ σ : Type} [Add τ] [LE τ] [DecidableLE τ]

/-- The call by which a tag is resolved, if it gets as far as asking a retriever. -/
def Registry.call? (registry : Registry τ σ) (guarded : Bool) (tag : ViewTag) (world : World τ σ) :
    Option Call :=
  match world.scene.check guarded ("resolving <" ++ tag.name ++ ">") with
  | some _ => none
  | none =>
    (registry.find? tag.name).map fun retriever =>
      ⟨tag, (retriever.retrieve tag guarded world).1⟩

/-- A tag that is resolved gets the content that the call returned. -/
theorem Registry.call?_of_resolve {registry : Registry τ σ} {guarded : Bool} {tag : ViewTag}
    {world next : World τ σ} {content : Content}
    (h : registry.resolve guarded tag world = (.ok content, next)) :
    registry.call? guarded tag world = some (.returned (tag, content)) := by
  rw [resolve] at h
  split at h
  · cases h
  · next unchecked =>
    split at h
    · cases h
    · next retriever found =>
      split at h
      · cases h
      · cases h
      · next retrieved =>
        cases h
        simp [call?, unchecked, found, retrieved, Call.returned]

namespace Renderer

/-- The steps of a renderer that resolves tags in turn, which also record its calls. -/
def recordingSteps (renderer : Renderer τ σ) (bindings : List Value) (guarded : Bool) :
    Steps (World τ σ × List Call) :=
  (renderer.steps bindings guarded).beside
    (resolveInTurn (recording (renderer.registry.call? guarded) (renderer.registry.resolve guarded)))

/-- Renders a template as `compose` does with one worker, and records the calls. -/
def composeRecording (renderer : Renderer τ σ) (template : String) (bindings : List Value)
    (guarded : Bool) (world : World τ σ) : Outcome (String × Report) × (World τ σ × List Call) :=
  (renderer.recordingSteps bindings guarded).expand renderer.maxPasses template (world, [])

/-- The calls of retrievers that a render makes, in their order. -/
def calls (renderer : Renderer τ σ) (template : String) (bindings : List Value) (guarded : Bool)
    (world : World τ σ) : List Call :=
  (renderer.composeRecording template bindings guarded world).2.2

variable {renderer : Renderer τ σ} {bindings : List Value} {guarded : Bool}

theorem similar_recordingSteps (alone : renderer.maxWorkers = 1) (bindings : List Value)
    (guarded : Bool) : Steps.Similar (fun world state => world = state.1)
      (renderer.steps bindings guarded) (renderer.recordingSteps bindings guarded) := by
  apply Steps.similar_beside
  intro tags state
  simp only [steps, resolve, alone, decide_true, Bool.true_or, if_true]
  exact resolveInTurn_alike (fun tag _ => recording_alike _ _ tag) rfl

/-- Recording has no influence on a render. -/
theorem composeRecording_eq (alone : renderer.maxWorkers = 1) (template : String)
    (bindings : List Value) (guarded : Bool) (world : World τ σ) :
    (renderer.composeRecording template bindings guarded world).1 =
        (renderer.compose template bindings guarded world).1 ∧
      (renderer.composeRecording template bindings guarded world).2.1 =
        (renderer.compose template bindings guarded world).2 := by
  have related : world = (world, ([] : List Call)).1 := rfl
  obtain ⟨same, after⟩ := (similar_recordingSteps alone bindings guarded).expandFrom related
    renderer.maxPasses renderer.maxPasses {} template
  exact ⟨same.symm, after.symm⟩

/-- A pass that succeeds has called a retriever for each of its tags, and got its content by it. -/
theorem recorded_of_performs {stage next : Stage (World τ σ × List Call)} {pass : Pass}
    (performs : (renderer.recordingSteps bindings guarded).Performs stage pass next) :
    pass.resolved.map (·.1) = pass.tags ∧
      next.state.2 = stage.state.2 ++ pass.resolved.map Call.returned := by
  obtain ⟨between, resolved⟩ := performs.resolved_beside
  have entered : ∀ tag world content next,
      renderer.registry.resolve guarded tag world = (.ok content, next) →
        renderer.registry.call? guarded tag world = some (.returned (tag, content)) :=
    fun _ _ _ _ => Registry.call?_of_resolve
  have recorded := recorded_inTurn entered resolved
  exact ⟨tags_of_resolveInTurn resolved, recorded⟩

theorem tags_of_run {stage last : Stage (World τ σ × List Call)} {passes : List Pass}
    (run : (renderer.recordingSteps bindings guarded).Run stage passes last) :
    ∀ pass ∈ passes, pass.resolved.map (·.1) = pass.tags := by
  induction run with
  | nil => simp
  | cons first _ ih => exact List.forall_mem_cons.mpr ⟨(recorded_of_performs first).1, ih⟩

/-- A run has made the calls of its passes. -/
theorem recorded_of_run {stage last : Stage (World τ σ × List Call)} {passes : List Pass}
    (run : (renderer.recordingSteps bindings guarded).Run stage passes last) :
    last.state.2 = stage.state.2 ++ (passes.flatMap (·.resolved)).map Call.returned := by
  induction run with
  | nil stage => exact (List.append_nil _).symm
  | cons first _ ih =>
      rw [ih, (recorded_of_performs first).2, List.flatMap_cons, List.map_append, List.append_assoc]

omit [Add τ] [LE τ] [DecidableLE τ] in
/-- The calls of a pass are for tags that differ. -/
theorem pairwise_calls {pass : Pass} (once : renderer.finder.names.Nodup)
    (found : renderer.finder.find pass.text = .ok pass.tags)
    (resolved : pass.resolved.map (·.1) = pass.tags) :
    (pass.resolved.map Call.returned).Pairwise fun call call' =>
      ¬ SameIdentity call.tag call'.tag := by
  rw [List.pairwise_map]
  have differ := Finder.pairwise_of_findAll found once
  rw [← resolved, List.pairwise_map] at differ
  refine differ.imp ?_
  intro pair pair' differ same
  exact differ ⟨same.name, same.fingerprint⟩

/-- A render that succeeds, with one worker, has made the calls of its passes. -/
theorem exists_run_of_calls (alone : renderer.maxWorkers = 1) {template text : String}
    {world : World τ σ} {report : Report}
    (h : (renderer.compose template bindings guarded world).1 = .ok (text, report)) :
    ∃ passes last, passes.length ≤ renderer.maxPasses ∧
      (renderer.recordingSteps bindings guarded).Run ⟨{}, template, (world, [])⟩ passes last ∧
      last.report = report ∧
      renderer.calls template bindings guarded world =
        (passes.flatMap (·.resolved)).map Call.returned := by
  have recorded : (renderer.recordingSteps bindings guarded).expandAt renderer.maxPasses
      renderer.maxPasses ⟨{}, template, (world, [])⟩ =
      (.ok (text, report), (renderer.composeRecording template bindings guarded world).2) :=
    Prod.ext ((composeRecording_eq alone template bindings guarded world).1.trans h) rfl
  obtain ⟨passes, last, within, run, ended, told⟩ := Steps.exists_run_of_expandAt recorded
  refine ⟨passes, last, within, run, told, ?_⟩
  have after : ((renderer.recordingSteps bindings guarded).surveyAt last).2.2 = last.state.2 :=
    Steps.survey_beside (last.report.passes + 1) last.text last.state
  rw [ended, recorded_of_run run, List.nil_append] at after
  exact after

/-- The calls of a render that succeeds, with one worker, fall into blocks, one for each pass that
its report counts, as long as the report says and never empty. In a block no two tags have the same
name, content and attributes. The report counts all calls; it has just the names of the tags that
were asked for, and just the labels of what was returned; and it has no more passes than allowed. -/
theorem report_tells_calls {renderer : Renderer τ σ} (alone : renderer.maxWorkers = 1)
    (once : renderer.finder.names.Nodup) {template text : String} {bindings : List Value}
    {guarded : Bool} {world : World τ σ} {report : Report}
    (h : (renderer.compose template bindings guarded world).1 = .ok (text, report)) :
    let calls := renderer.calls template bindings guarded world
    (∃ blocks : List (List Call), calls = blocks.flatten ∧ blocks.length = report.passes ∧
      blocks.map List.length = report.resolvedPerPass ∧ (∀ block ∈ blocks, block ≠ []) ∧
      ∀ block ∈ blocks, block.Pairwise fun call call' => ¬ SameIdentity call.tag call'.tag) ∧
    report.retrievals = calls.length ∧
    (report.tagNames.Nodup ∧ ∀ name, name ∈ report.tagNames ↔ ∃ call ∈ calls, name = call.tag.name) ∧
    (∀ call ∈ calls, ∃ content, call.outcome = .ok (.content content)) ∧
    (report.labels.Nodup ∧ ∀ label, label ∈ report.labels ↔
      ∃ call ∈ calls, ∃ content, call.outcome = .ok (.content content) ∧ label ∈ content.labels) ∧
    report.passes ≤ renderer.maxPasses := by
  intro calls
  obtain ⟨passes, last, within, run, rfl, made⟩ := exists_run_of_calls alone h
  change calls = _ at made
  have counted : last.report.resolvedPerPass = passes.map (·.resolved.length) :=
    run.resolvedPerPass
  have lengths : (passes.map fun pass => pass.resolved.map Call.returned).map List.length =
      last.report.resolvedPerPass := by
    rw [counted, List.map_map]
    exact List.map_congr_left fun pass _ => List.length_map ..
  have flat : calls = (passes.map fun pass => pass.resolved.map Call.returned).flatten := by
    rw [← List.flatMap_def, ← List.map_flatMap]
    exact made
  have tidy := run.tidy Report.tidy_empty
  refine ⟨⟨_, flat, ?_, lengths, ?_, ?_⟩, ?_, ⟨tidy.tagNames, ?_⟩, ?_, ⟨tidy.labels, ?_⟩, ?_⟩
  · rw [Report.passes, counted, List.length_map, List.length_map]
  · intro block hblock
    obtain ⟨pass, hpass, rfl⟩ := List.mem_map.mp hblock
    intro empty
    apply (run.find pass hpass).2
    rw [← tags_of_run run pass hpass, List.map_eq_nil_iff.mp empty]
    rfl
  · intro block hblock
    obtain ⟨pass, hpass, rfl⟩ := List.mem_map.mp hblock
    exact pairwise_calls once (run.find pass hpass).1 (tags_of_run run pass hpass)
  · rw [flat, List.length_flatten, lengths]
    rfl
  · intro name
    rw [run.mem_tagNames, made]
    simp [Call.returned]
  · intro call hcall
    rw [made] at hcall
    obtain ⟨pair, -, rfl⟩ := List.mem_map.mp hcall
    exact ⟨pair.2, rfl⟩
  · intro label
    rw [run.mem_labels, made]
    simp [Call.returned]
  · rw [Report.passes, counted, List.length_map]
    exact within

/-- A renderer with two tags whose contents are labelled, and of which one holds the other. -/
def gazette : Renderer Nat Unit where
  registry :=
    ⟨[("news", .static { text := "Rain in <town/>", labels := ["news", "rain"] }),
      ("town", .static { text := "Kent", labels := ["towns"] })]⟩
  finder := ⟨["news", "town"]⟩
  interpolator := .mustache false
  engine? := some fun text _ scene => (.ok text, scene)
  maxPasses := 2
  maxWorkers := 1

/-- The page takes two passes, of two tags and one. -/
theorem gazette_tells_calls :
    (gazette.compose "<town/>: <news/>" [] false quiet).1 =
        .ok ("Kent: Rain in Kent", ⟨[2, 1], ["news", "town"], ["news", "rain", "towns"]⟩) ∧
      let calls := gazette.calls "<town/>: <news/>" [] false quiet
      (∃ blocks : List (List Call), calls = blocks.flatten ∧ blocks.map List.length = [2, 1]) ∧
        calls.length = 3 ∧
        (∀ name, name ∈ ["news", "town"] ↔ ∃ call ∈ calls, name = call.tag.name) ∧
        ∃ call ∈ calls, ∃ content, call.outcome = .ok (.content content) ∧
          "rain" ∈ content.labels := by
  have composed : (gazette.compose "<town/>: <news/>" [] false quiet).1 =
      .ok ("Kent: Rain in Kent", ⟨[2, 1], ["news", "town"], ["news", "rain", "towns"]⟩) := rfl
  refine ⟨composed, ?_⟩
  obtain ⟨⟨blocks, flat, -, lengths, -⟩, counted, ⟨-, names⟩, -, ⟨-, labels⟩, -⟩ :=
    report_tells_calls (rfl : gazette.maxWorkers = 1) (by decide) composed
  exact ⟨⟨blocks, flat, lengths⟩, counted.symm, names, (labels "rain").mp (by simp)⟩

end Renderer

end TagWeave
