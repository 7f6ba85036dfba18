import TagWeave.Proofs.Render.Calls
import Mathlib.Data.List.Perm.Subperm
import TagWeave.Proofs.Render.Settlement

/-!
# Contents of tags

Whatever state retrievers keep, a pass that succeeds gives each of its tags a content
that some retriever has returned: what holds of all contents that are returned holds of
those that are put in place of the tags. A pool loses none of them if all tasks end. A pass that fails
does so by the failure of one of its tags, unless a pool abandons late tasks.
-/

namespace TagWeave

/-- The tags all got a content, in their order, and each content has a property. -/
structure Resolves (fine : Content → Prop) (tags : List ViewTag)
    (resolved : List (ViewTag × Content)) : Prop where
  whole : resolved.map (·.1) = tags
  fine : ∀ pair ∈ resolved, fine pair.2

section

variable {ω : Type} {sound : ω → Prop} {fine : Content → Prop} {tags : List ViewTag}

theorem resolves_inTurn {run : ViewTag → ω → Outcome Content × ω}
    (keeps : ∀ tag s, sound s →
      sound (run tag s).2 ∧ ∀ content, (run tag s).1 = .ok content → fine content)
    {s s' : ω} {resolved : List (ViewTag × Content)} (start : sound s)
    (h : resolveInTurn run tags s = (.ok resolved, s')) : sound s' ∧ Resolves fine tags resolved := by
  induction tags generalizing s resolved with
  | nil =>
      cases h
      exact ⟨start, rfl, by simp⟩
  | cons tag tags ih =>
      obtain ⟨after, given⟩ := keeps tag s start
      rw [resolveInTurn] at h
      generalize run tag s = a at after given h
      obtain ⟨outcome, next⟩ := a
      cases outcome with
      | error e => cases h
      | ok content =>
          simp only at h
          split at h
          · cases h
          · next rest state followed =>
            cases h
            obtain ⟨after, whole, contents⟩ := ih after followed
            refine ⟨after, by rw [List.map_cons, whole], ?_⟩
            exact List.forall_mem_cons.mpr ⟨given content rfl, contents⟩

theorem resolves_pooled {run : ViewTag → ω → (Outcome Content × Nat) × ω}
    (keeps : ∀ tag s, sound s →
      sound (run tag s).2 ∧ ∀ content, (run tag s).1.1 = .ok content → fine content)
    {course : Course} (ends : ∀ begun, (course.ended begun).Subperm begun)
    {s s' : ω} {resolved : List (ViewTag × Content)} (start : sound s)
    (h : resolvePooled run course tags s = (.ok resolved, s')) :
    sound s' ∧ Resolves fine tags resolved := by
  obtain ⟨begun, begins, after, -, came⟩ := resolvePooled_cases
    (fun _ outcome => ∀ content, outcome = .ok content → fine content)
    (fun tag _ s hs => (keeps tag s hs).symm) course start
  rw [h] at after came
  refine ⟨after, ?_⟩
  rcases came with ⟨e, -, ⟨⟩⟩ | ⟨-, -, ⟨⟩⟩ | ⟨contents, whole, waited, gathered, eq⟩
  cases eq
  have perm := (ends begun).perm_of_length_le waited
  obtain ⟨given, succeed⟩ := Task.gathered_of_perm perm begins.places (whole ▸ gathered)
  have length : tags.length = (begun.map Task.content).length := by rw [List.length_map, whole]
  rw [given, withContents_map_some length]
  refine ⟨List.map_fst_zip (Nat.le_of_eq length), ?_⟩
  rintro ⟨tag, c⟩ among
  obtain ⟨task, there, rfl⟩ := List.mem_map.mp (List.of_mem_zip among).2
  obtain ⟨_, -, ended⟩ := begins.exists_tag there
  exact ended _ (succeed task there)

end

/-! ### Failures -/

section

variable {ω : Type} {property : Error → Prop} {tags : List ViewTag} {e : Error}

theorem error_of_resolveInTurn {run : ViewTag → ω → Outcome Content × ω}
    (fails : ∀ tag s e, (run tag s).1 = .error e → property e) {s : ω}
    (h : (resolveInTurn run tags s).1 = .error e) : property e := by
  induction tags generalizing s with
  | nil => cases h
  | cons tag tags ih =>
      rw [resolveInTurn] at h
      rcases first : run tag s with ⟨_ | content, next⟩
      · rw [first] at h
        cases h
        exact fails tag s e (congrArg Prod.fst first)
      · simp only [first] at h
        split at h
        · next followed =>
          cases h
          exact ih (congrArg Prod.fst followed)
        · cases h

theorem error_of_resolvePooled {run : ViewTag → ω → (Outcome Content × Nat) × ω}
    {course : Course} (ends : ∀ begun, (course.ended begun).Subperm begun)
    (fails : ∀ tag s e, (run tag s).1.1 = .error e → property e)
    (abandoned : property (.cancelled .abandoned)) {s : ω}
    (h : (resolvePooled run course tags s).1 = .error e) : property e := by
  obtain ⟨begun, begins, -, -, came⟩ := resolvePooled_cases (P := fun _ => True)
    (fun _ outcome => ∀ e, outcome = .error e → property e)
    (fun tag _ s _ => ⟨fails tag s, trivial⟩) course (s := s) trivial
  rw [h] at came
  rcases came with ⟨e', gathered, ⟨⟩⟩ | ⟨-, -, ⟨⟩⟩ | ⟨_, -, -, -, ⟨⟩⟩
  · obtain ⟨task, among, failed⟩ := Task.exists_of_gather_error gathered
    obtain ⟨_, -, ended⟩ := begins.exists_tag ((ends begun).subset among)
    exact ended e failed
  · exact abandoned

end

/-! ### Renderers -/

namespace Renderer

variable {τ σ : Type} [Add τ] [LE τ] [DecidableLE τ]

/-- In sound worlds, which they keep, retrievers return only contents that are fine. What ends in a
pool are tasks that were begun. -/
structure Yields (renderer : Renderer τ σ) (guarded : Bool) (sound : World τ σ → Prop)
    (fine : Content → Prop) : Prop where
  retrieve : ∀ {world}, sound world → ∀ {tag retriever},
    renderer.registry.find? tag.name = some retriever →
      sound (retriever.retrieve tag guarded world).2 ∧
        ∀ content, (retriever.retrieve tag guarded world).1 = .ok (.content content) → fine content
  note : ∀ {world}, sound world → ∀ level origin message, sound (world.note level origin message)
  delayed : ∀ {world}, sound world → ∀ delay, sound (world.withDelay delay)
  ends : renderer.maxWorkers = 1 ∨ ∀ workers deadline begun,
    ((renderer.course workers deadline).ended begun).Subperm begun

variable {renderer : Renderer τ σ} {guarded : Bool} {sound : World τ σ → Prop}
variable {fine : Content → Prop}

theorem Yields.resolve (yields : renderer.Yields guarded sound fine) (tag : ViewTag)
    (world : World τ σ) (start : sound world) :
    sound (renderer.registry.resolve guarded tag world).2 ∧
      ∀ content, (renderer.registry.resolve guarded tag world).1 = .ok content → fine content := by
  rw [Registry.resolve]
  split
  · exact ⟨start, by simp⟩
  · split
    · exact ⟨start, by simp⟩
    · next retriever found =>
      obtain ⟨after, given⟩ := yields.retrieve start found
      generalize retriever.retrieve tag guarded world = a at after given
      rcases a with ⟨e | content | value, next⟩
      · exact ⟨after, by simp⟩
      · refine ⟨yields.note after .., ?_⟩
        rintro _ ⟨⟩
        exact given content rfl
      · exact ⟨after, by simp⟩

theorem Yields.timed (yields : renderer.Yields guarded sound fine) (tag : ViewTag)
    (world : World τ σ) (start : sound world) :
    sound (World.timed (renderer.registry.resolve guarded tag) world).2 ∧
      ∀ content, (World.timed (renderer.registry.resolve guarded tag) world).1.1 = .ok content →
        fine content :=
  let ⟨after, given⟩ := yields.resolve tag _ (yields.delayed start 0)
  ⟨yields.delayed after _, given⟩

/-- A pass fails as one of its tags does, because tasks are abandoned, or for want of workers. -/
theorem Yields.error_of_resolve (yields : renderer.Yields guarded sound fine)
    {property : Error → Prop}
    (fails : ∀ tag world e, (renderer.registry.resolve guarded tag world).1 = .error e → property e)
    (abandoned : property (.cancelled .abandoned)) (unstaffed : property (.fault .noWorkers))
    {tags : List ViewTag} {world : World τ σ} {e : Error}
    (h : (renderer.resolve guarded tags world).1 = .error e) : property e := by
  simp only [Renderer.resolve] at h
  split at h
  · exact error_of_resolveInTurn fails h
  · next several =>
    split at h
    · cases h
      exact unstaffed
    · have ends := yields.ends.resolve_left fun alone => several (by simp [alone])
      exact error_of_resolvePooled (ends _ _) (fun tag _ e => fails tag _ e) abandoned h

/-- A pass that succeeds gives its tags contents that are fine. -/
theorem Yields.resolves (yields : renderer.Yields guarded sound fine) {tags : List ViewTag}
    {world next : World τ σ} {resolved : List (ViewTag × Content)} (start : sound world)
    (h : renderer.resolve guarded tags world = (.ok resolved, next)) :
    sound next ∧ Resolves fine tags resolved := by
  simp only [Renderer.resolve] at h
  split at h
  · exact resolves_inTurn yields.resolve start h
  · next several =>
    split at h
    · cases h
    · have ends := yields.ends.resolve_left fun alone => several (by simp [alone])
      exact resolves_pooled yields.timed (ends _ _) start h

end Renderer

end TagWeave
