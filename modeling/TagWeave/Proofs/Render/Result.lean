import TagWeave.Proofs.Render.Passes
import TagWeave.Proofs.ViewTag.Finder
import TagWeave.Render.Renderer

/-!
# The text that a render returns

A render ends when its finder finds nothing. Then there is no tag of a registered name
in the text, whatever parts of it one looks at.
-/

namespace TagWeave

/-- No part of the text is a tag of one of the names. -/
def HoldsNoTag (names : List String) (text : String) : Prop :=
  ∀ name ∈ names, ∀ u, u <:+: text.toList →
    ¬ ViewTag.IsSelfClosed name.toList u ∧ ¬ ViewTag.IsPaired name.toList u

theorem Finder.holdsNoTag {names : List String} {text : String}
    (h : (Finder.mk names).find text = .ok []) : HoldsNoTag names text := by
  intro name hname u hu
  exact ViewTag.no_tag_of_occurrences_eq_nil (Finder.occurrences_eq_nil h name hname) hu

/-- The text that an expansion ends with is one in which nothing was found. -/
theorem Steps.find_of_expand {ω : Type} {steps : Steps ω} {limit : Nat} {template text : String}
    {report : Report} {state state' : ω} (expands : steps.expands = true)
    (h : steps.expand limit template state = (.ok (text, report), state')) :
    steps.find text = .ok [] := by
  have staged : steps.expandAt limit limit ⟨{}, template, state⟩ = (.ok (text, report), state') := h
  obtain ⟨passes, last, -, -, ended, -⟩ := Steps.exists_run_of_expandAt staged
  exact Steps.find_of_survey ended (.inl expands)

namespace Renderer

variable {τ σ : Type} [Add τ] [LE τ] [DecidableLE τ]

section

variable {renderer : Renderer τ σ} {bindings : List Value} {guarded : Bool} {world : World τ σ}

theorem holdsNoTag_of_compose (nonempty : renderer.registry.entries ≠ [])
    (derived : renderer.finder = ⟨renderer.registry.names⟩) {template text : String}
    {report : Report}
    (h : (renderer.compose template bindings guarded world).1 = .ok (text, report)) :
    HoldsNoTag renderer.registry.names text := by
  have expands : (renderer.steps bindings guarded).expands = true := by
    simpa [steps] using nonempty
  have found := Steps.find_of_expand expands (Prod.ext h rfl)
  apply Finder.holdsNoTag
  rw [← derived]
  exact found

theorem holdsNoTag_of_render (nonempty : renderer.registry.entries ≠ [])
    (derived : renderer.finder = ⟨renderer.registry.names⟩) {template text : String}
    (h : (renderer.render template bindings guarded world).1 = .ok text) :
    HoldsNoTag renderer.registry.names text := by
  rw [render] at h
  cases composed : (renderer.compose template bindings guarded world).1 with
  | error e => simp [composed, Except.map] at h
  | ok result =>
      obtain ⟨text', report⟩ := result
      simp only [composed, Except.map, Except.ok.injEq] at h
      rw [← h]
      exact holdsNoTag_of_compose nonempty derived composed

theorem exists_render_of_renderInLayout {content layout text : String}
    (h : (renderer.renderInLayout content layout bindings guarded world).1 = .ok text) :
    ∃ page world', (renderer.render page bindings guarded world').1 = .ok text := by
  unfold renderInLayout at h
  split at h
  · cases h
  · split at h
    · cases h
    · split at h
      · cases h
      · exact ⟨_, _, h⟩

end

/-- A text that is returned holds no tag of a registered name, however it was rendered. -/
theorem returned_text_holds_no_tag (renderer : Renderer τ σ)
    (nonempty : renderer.registry.entries ≠ [])
    (derived : renderer.finder = ⟨renderer.registry.names⟩) (bindings : List Value)
    (guarded : Bool) (world : World τ σ) (text : String)
    (returned : (∃ template report,
        (renderer.compose template bindings guarded world).1 = .ok (text, report)) ∨
      (∃ template, (renderer.render template bindings guarded world).1 = .ok text) ∨
      ∃ content layout,
        (renderer.renderInLayout content layout bindings guarded world).1 = .ok text) :
    HoldsNoTag renderer.registry.names text := by
  rcases returned with ⟨template, report, h⟩ | ⟨template, h⟩ | ⟨content, layout, h⟩
  · exact holdsNoTag_of_compose nonempty derived h
  · exact holdsNoTag_of_render nonempty derived h
  · obtain ⟨page, world', h⟩ := exists_render_of_renderInLayout h
    exact holdsNoTag_of_render nonempty derived h

/-- A renderer with one tag whose content holds another one. -/
def greeter : Renderer Nat Unit where
  registry :=
    ⟨[("greet", .static { text := "Hello <who/>!" }), ("who", .static { text := "world" })]⟩
  finder := ⟨["greet", "who"]⟩
  interpolator := .mustache false
  engine? := some fun text _ scene => (.ok text, scene)
  maxPasses := 2
  maxWorkers := 1

/-- A world in which nothing has happened. -/
def quiet : World Nat Unit where
  scene := { sessionTime := 0, systemTime := 0, state := () }

theorem greeting_holds_no_tag : HoldsNoTag ["greet", "who"] "Hello world!" :=
  returned_text_holds_no_tag greeter (List.cons_ne_nil _ _) rfl [] false quiet "Hello world!"
    (.inr (.inl ⟨"<greet/>", rfl⟩))

end Renderer

end TagWeave
