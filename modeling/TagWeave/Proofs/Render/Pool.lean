import TagWeave.Proofs.Render.Result
import TagWeave.Proofs.Render.Settlement

/-!
# Pools of workers

If what a retriever answers depends on the tag alone, the number of workers and the order
in which their tasks end do not matter. Each pass resolves the same tags to the same
contents, or fails, and so a render with several workers comes to what it comes to with
one. The order may be another one in each pass.

Worlds are related here if they differ only in what neither the interpolator nor the
retrievers answer by. The relation need not hold of every world with itself: a world that
is not related to itself is one that cannot be reached.

No pass resolves an empty list of tags. A pool that is asked to has no workers, and fails.
-/

namespace TagWeave

variable {τ σ : Type} [Add τ] [LE τ] [DecidableLE τ]

namespace Renderer

/-- What the retrievers answer depends on the tag alone: they answer the same in all worlds that are
`alike`, and leave such worlds. The interpolator does not tell these worlds apart either, and how long
tasks take does not matter. -/
structure TagDetermined (renderer : Renderer τ σ) (bindings : List Value)
    (alike : World τ σ → World τ σ → Prop) : Prop where
  symm : ∀ {w w'}, alike w w' → alike w' w
  trans : ∀ {w w' w''}, alike w w' → alike w' w'' → alike w w''
  interpolate : ∀ {w w'}, alike w w' → ∀ text, Alike alike
    (renderer.interpolate bindings text w) (renderer.interpolate bindings text w')
  retrieve : ∀ {w w'}, alike w w' → ∀ {name retriever},
    renderer.registry.find? name = some retriever → ∀ tag,
      (retriever.retrieve tag false w).1 = (retriever.retrieve tag false w').1 ∧
        alike w (retriever.retrieve tag false w').2
  note : ∀ {w w'}, alike w w' → ∀ level origin message, alike w (w'.note level origin message)
  delayed : ∀ {w w'}, alike w w' → ∀ delay, alike w (w'.withDelay delay)

variable {renderer : Renderer τ σ} {bindings : List Value} {alike : World τ σ → World τ σ → Prop}

theorem TagDetermined.refl_left (determined : renderer.TagDetermined bindings alike)
    {w w' : World τ σ} (h : alike w w') : alike w w := determined.trans h (determined.symm h)

/-- So what a tag is resolved to depends on it alone. -/
theorem TagDetermined.resolve (determined : renderer.TagDetermined bindings alike) {w w' : World τ σ}
    (h : alike w w') (tag : ViewTag) :
    (renderer.registry.resolve false tag w').1 = (renderer.registry.resolve false tag w).1 ∧
      alike w (renderer.registry.resolve false tag w').2 := by
  cases found : renderer.registry.find? tag.name with
  | none =>
      simp only [Registry.resolve, Scene.check, Bool.false_eq_true, if_false, found, true_and]
      exact h
  | some retriever =>
      obtain ⟨same, after⟩ := determined.retrieve h found tag
      exact Registry.resolve_eq found found (alike w) determined.note same.symm after

/-- Tags settle on the answers of their retrievers, whatever course a pool takes. -/
theorem TagDetermined.settled (determined : renderer.TagDetermined bindings alike)
    (complete : renderer.maxWorkers = 1 ∨ ∀ workers, (renderer.course workers false).Complete)
    {tags : List ViewTag} (staffed : ¬ renderer.Unstaffed tags) {w w' : World τ σ} (h : alike w w') :
    Settled (fun tag => (renderer.registry.resolve false tag w).1) tags
        (renderer.resolve false tags w').1 ∧
      alike w (renderer.resolve false tags w').2 :=
  Renderer.settled (alike w) determined.delayed (fun tag _ _ hs => determined.resolve hs tag) complete
    staffed h

/-- The number of workers and the course that they take change nothing about the retrievers. -/
theorem TagDetermined.staffed (determined : renderer.TagDetermined bindings alike) (workers : Nat)
    (course : Nat → Bool → Course) :
    ({ renderer with maxWorkers := workers, course } : Renderer τ σ).TagDetermined bindings alike :=
  ⟨determined.symm, determined.trans, determined.interpolate, determined.retrieve, determined.note,
    determined.delayed⟩

/-! ### Courses that change from pass to pass -/

/-- The steps of the renderer's passes, without a token, beside which the passes are counted. In
each pass the pool takes the course that a plan has for the pass and for so many workers. -/
def scheduledSteps (renderer : Renderer τ σ) (plan : Nat → Nat → Course) (bindings : List Value) :
    Steps (World τ σ × Nat) :=
  (renderer.steps bindings false).beside fun tags state =>
    match ({ renderer with course := fun workers _ => plan state.2 workers }).resolve false tags
        state.1 with
    | (outcome, world) => (outcome, (world, state.2 + 1))

/-- Passes concur, however many workers there are and whatever course they take. -/
theorem TagDetermined.concurrent (determined : renderer.TagDetermined bindings alike)
    {plan : Nat → Nat → Course} (complete : ∀ pass workers, (plan pass workers).Complete)
    {workers : Nat} (some : 0 < workers) :
    Steps.Concurrent (fun (state : World τ σ × Nat) w => alike state.1 w)
      (fun _ tags tags' => tags = tags') Eq
      (({ renderer with maxWorkers := workers } : Renderer τ σ).scheduledSteps plan bindings)
      (({ renderer with maxWorkers := 1 } : Renderer τ σ).steps bindings false) where
  expands := rfl
  unchecked _ _ := rfl
  unchecked' _ _ := rfl
  interpolate := by
    intro state w' h text
    exact determined.interpolate h text
  find := by
    intro text
    change (∃ e e', renderer.finder.find text = .error e ∧ renderer.finder.find text = .error e') ∨
      ∃ tags tags', renderer.finder.find text = .ok tags ∧ renderer.finder.find text = .ok tags' ∧
        tags = tags'
    cases renderer.finder.find text with
    | error e => exact .inl ⟨e, e, rfl, rfl⟩
    | ok tags => exact .inr ⟨tags, tags, rfl, rfl, rfl⟩
  nil_iff := by
    rintro _ tags _ rfl
    exact Iff.rfl
  resolve := by
    rintro state w' h text tags _ rfl nonempty
    obtain ⟨settled, after⟩ := (determined.staffed workers fun workers _ => plan state.2 workers).settled
      (.inr (complete state.2)) (not_unstaffed some nonempty) (determined.refl_left h)
    obtain ⟨settled', after'⟩ := (determined.staffed 1 renderer.course).settled (.inl rfl)
      (not_unstaffed Nat.one_pos nonempty) h
    refine Settled.concur (a := (scheduledSteps _ plan bindings).resolve tags state)
      settled settled' (.refl tags) ⟨rfl, fun told => by rw [told]⟩ ?_
    exact determined.trans (determined.symm after) after'
  note := by
    intro state w' h message message'
    exact determined.trans (determined.symm (determined.note (determined.refl_left h) _ _ message))
      (determined.note h _ _ message')

/-- A retriever that answers the same for all tags, and counts how often it is asked. -/
def stall (answer : Outcome Answer) : Retriever Nat Nat :=
  .leaf fun _ _ scene => (answer, { scene with state := scene.state + 1 })

/-- A renderer with two stalls that have something to offer, and one that is closed. -/
def market : Renderer Nat Nat where
  registry :=
    ⟨[("apples", stall (.ok (.content { text := "red apples", labels := ["fruit"] }))),
      ("pears", stall (.ok (.content { text := "pears and <apples/>", labels := ["fruit"] }))),
      ("plums", stall (.error (.fault (.noSources "plums"))))]⟩
  finder := ⟨["apples", "pears", "plums"]⟩
  interpolator := .mustache false
  engine? := some fun text _ scene => (.ok text, scene)
  maxPasses := 2
  maxWorkers := 1

/-- How often somebody was asked does not matter. -/
theorem market_determined : market.TagDetermined [] fun _ _ => True where
  symm := fun _ => trivial
  trans := fun _ _ => trivial
  interpolate := fun _ _ => ⟨rfl, trivial⟩
  retrieve := by
    intro w w' _ name retriever found tag
    obtain ⟨entry, there, rfl⟩ := Option.map_eq_some_iff.mp found
    have among := List.mem_of_find?_eq_some there
    simp only [market, List.mem_cons, List.not_mem_nil, or_false] at among
    rcases among with rfl | rfl | rfl
    · exact ⟨rfl, trivial⟩
    · exact ⟨rfl, trivial⟩
    · exact ⟨rfl, trivial⟩
  note := fun _ _ _ _ => trivial
  delayed := fun _ _ => trivial

/-- A tag that asks for what is on sale. -/
def wanted (name : String) : ViewTag := { name, needles := ["<" ++ name ++ "/>"] }

/-- The market before anybody is asked. -/
def morning : World Nat Nat where
  scene := { sessionTime := 0, systemTime := 0, state := 0 }

/-- The last task to be begun is the first to end. -/
def backwards : Course where
  cancels _ := false
  ended := List.reverse

end Renderer

end TagWeave
