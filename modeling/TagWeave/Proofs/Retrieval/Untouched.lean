import TagWeave.Proofs.Retrieval.Leaves

/-!
# What retrievals leave alone

Code of the application sees the scene only, and a retriever that keeps contents touches
its own cache only. So a retrieval leaves alone what neither the scene nor the log has to
do with, nor any cache in the tree: what interpolations remember, and the other caches.
-/

namespace TagWeave

variable {τ σ α : Type}

/-- A tree of retrievers that keeps contents in some caches only. -/
inductive Retriever.Uses (among : String → Prop) : Retriever τ σ → Prop
  | static (content : Content) : Uses among (.static content)
  | function (run : ViewTag → Scene τ σ → Outcome Answer × Scene τ σ) : Uses among (.function run)
  | stored (store : FragmentStore) : Uses among (.stored store)
  | fallback {sources : List (Retriever τ σ)} {otherwise : Option Content}
      (each : ∀ source ∈ sources, Uses among source) : Uses among (.fallback sources otherwise)
  | caching {inner : Retriever τ σ} {cache : String} {lifetime? : Option τ} (there : among cache)
      (within : Uses among inner) : Uses among (.caching inner cache lifetime?)
  | leaf (run : ViewTag → Bool → Scene τ σ → Outcome Answer × Scene τ σ) : Uses among (.leaf run)
  | before (act : ViewTag → Bool → Scene τ σ → Scene τ σ) {inner : Retriever τ σ}
      (within : Uses among inner) : Uses among (.before act inner)
  | foreign (typeName : String) : Uses among (.foreign typeName)

theorem Retriever.uses_any (retriever : Retriever τ σ) : retriever.Uses fun _ => True := by
  induction retriever using tree_induction with
  | fallback sources otherwise each => exact .fallback each
  | caching inner cache lifetime? within => exact .caching trivial within
  | leaf retriever h within =>
      cases retriever with
      | fallback => cases h
      | caching => cases h
      | static content => exact .static content
      | function run => exact .function run
      | stored store => exact .stored store
      | leaf run => exact .leaf run
      | before act inner => exact .before act (within act inner rfl)
      | foreign typeName => exact .foreign typeName

variable [Add τ] [LE τ] [DecidableLE τ]

/-- A part of the world that neither the scene nor the log has to do with, nor any of some caches.
-/
structure World.Aside (among : String → Prop) (part : World τ σ → α) : Prop where
  note : ∀ world level origin message, part (world.note level origin message) = part world
  scene : ∀ world scene, part { world with scene } = part world
  lookUp : ∀ {name}, among name → ∀ world key, part (world.lookUp name key).2 = part world
  keep : ∀ {name}, among name → ∀ world key content lifetime?,
    part (world.keep name key content lifetime?) = part world

namespace World.Aside

variable {among : String → Prop} {part : World τ σ → α} {tag : ViewTag} {guarded : Bool}

theorem noteFailure (aside : Aside among part) (world : World τ σ) (what : String) (e : Error) :
    part (world.noteFailure what e) = part world := by
  rcases world.noteFailure_eq_or what e with eq | ⟨message, eq⟩
  · rw [eq]
  · rw [eq, aside.note]

theorem tryEach (aside : Aside among part) {sources : List (Retriever τ σ)}
    (each : ∀ source ∈ sources, ∀ world, part (source.retrieve tag guarded world).2 = part world)
    (last? : Option Error) (world : World τ σ) :
    part (Retriever.tryEach sources tag guarded last? world).2 = part world := by
  induction sources generalizing last? world with
  | nil => rfl
  | cons source sources ih =>
      obtain ⟨first, others⟩ := List.forall_mem_cons.mp each
      have asked := first world
      rw [Retriever.tryEach]
      split
      · rfl
      · generalize source.retrieve tag guarded world = answered at asked
        obtain ⟨e | answer, next⟩ := answered
        · simp only
          split
          · exact asked
          · exact (ih others _ _).trans ((aside.noteFailure ..).trans asked)
        · exact asked

/-- A tree that uses these caches only leaves it alone. -/
theorem retrieve (aside : Aside among part) {retriever : Retriever τ σ}
    (uses : retriever.Uses among) (world : World τ σ) :
    part (retriever.retrieve tag guarded world).2 = part world := by
  induction uses generalizing world with
  | static => rfl
  | function run =>
      rw [Retriever.retrieve]
      exact aside.scene ..
  | stored store =>
      rw [Retriever.retrieve]
      split
      · rfl
      · rfl
  | @fallback sources otherwise each ih =>
      have tried : part (Retriever.tryEach sources tag guarded none world).2 = part world :=
        aside.tryEach ih none world
      rw [Retriever.retrieve]
      generalize Retriever.tryEach sources tag guarded none world = a at tried
      obtain ⟨outcome | last?, next⟩ := a
      · exact tried
      · cases otherwise with
        | some content => exact (aside.note ..).trans tried
        | none =>
            cases last? with
            | some e => exact tried
            | none => exact tried
  | @caching inner cache lifetime? there within ih =>
      have looked := aside.lookUp there world tag.cacheKey
      rw [Retriever.retrieve]
      generalize world.lookUp cache tag.cacheKey = found at looked
      obtain ⟨content | content, between⟩ := found
      · have asked := ih between
        simp only
        generalize inner.retrieve tag guarded between = answered at asked
        obtain ⟨e | answer, next⟩ := answered
        · exact asked.trans looked
        · simp only
          split
          · exact asked.trans looked
          · exact (aside.keep there ..).trans (asked.trans looked)
      · exact (aside.note ..).trans looked
  | leaf run =>
      rw [Retriever.retrieve]
      exact aside.scene ..
  | before act within ih => exact (ih _).trans (aside.scene ..)
  | foreign => rfl

end World.Aside

/-- No retrieval touches what interpolations remember. -/
theorem Retriever.memory_retrieve (retriever : Retriever τ σ) (tag : ViewTag) (guarded : Bool)
    (world : World τ σ) : (retriever.retrieve tag guarded world).2.memory = world.memory := by
  have aside : World.Aside (fun _ => True) (World.memory : World τ σ → Mustache.Memory) :=
    { note := fun _ _ _ _ => rfl
      scene := fun _ _ => rfl
      lookUp := fun _ world _ => by rw [World.lookUp_eq]
      keep := fun _ world _ _ _ => by rw [World.keep_eq] }
  exact aside.retrieve retriever.uses_any world

end TagWeave
