import TagWeave.Retrieval.Retriever

/-!
# Calls of leaves

A tree of retrievers tries sources and asks caches until it gets to its leaves, which do
the work. The calls of leaves that a retrieval makes are listed in their order, each with
the scene that the leaf meets and the one that it leaves.

If a render has a token, each leaf is called only while the token is live: sources are
checked before they are tried, and a cache is asked only by a retriever that has been
checked. So a call after which the token is no longer live is the last one.
-/

namespace TagWeave

variable {τ σ : Type}

/-- A call of a leaf: the tag it is asked for, the scene before, its answer, and the scene after. -/
structure LeafCall (τ σ : Type) where
  tag : ViewTag
  before : Scene τ σ
  outcome : Outcome Answer
  after : Scene τ σ

namespace Retriever

/-- Whether a retriever is a leaf, which neither tries sources nor asks a cache. -/
def isLeaf : Retriever τ σ → Bool
  | fallback _ _ | caching _ _ _ => false
  | _ => true

/-- What holds of trees whose parts it holds of, and of leaves, holds of all trees. A leaf may do
something and then ask a tree. -/
theorem tree_induction {motive : Retriever τ σ → Prop}
    (fallback : ∀ sources otherwise, (∀ source ∈ sources, motive source) →
      motive (.fallback sources otherwise))
    (caching : ∀ inner cache lifetime?, motive inner → motive (.caching inner cache lifetime?))
    (leaf : ∀ retriever : Retriever τ σ, retriever.isLeaf = true →
      (∀ act inner, retriever = .before act inner → motive inner) → motive retriever) :
    ∀ retriever : Retriever τ σ, motive retriever
  | .fallback sources otherwise =>
      fallback sources otherwise fun source _ => tree_induction fallback caching leaf source
  | .caching inner cache lifetime? =>
      caching inner cache lifetime? (tree_induction fallback caching leaf inner)
  | .before act inner =>
      leaf (.before act inner) rfl fun _ _ same =>
        (Retriever.before.inj same).2 ▸ tree_induction fallback caching leaf inner
  | .static content => leaf (.static content) rfl nofun
  | .function run => leaf (.function run) rfl nofun
  | .stored store => leaf (.stored store) rfl nofun
  | .leaf run => leaf (.leaf run) rfl nofun
  | .foreign typeName => leaf (.foreign typeName) rfl nofun

variable [Add τ] [LE τ] [DecidableLE τ]

mutual

/-- The calls of leaves by which a tag is resolved. -/
def leafCalls : Retriever τ σ → ViewTag → Bool → World τ σ → List (LeafCall τ σ)
  | fallback sources _, tag, guarded, world => triedCalls sources tag guarded world
  | caching inner cache _, tag, guarded, world =>
    match world.lookUp cache tag.cacheKey with
    | (some _, _) => []
    | (none, world) => leafCalls inner tag guarded world
  | retriever, tag, guarded, world =>
    match retriever.retrieve tag guarded world with
    | (outcome, next) => [⟨tag, world.scene, outcome, next.scene⟩]

/-- The calls of leaves by which sources are tried. -/
def triedCalls : List (Retriever τ σ) → ViewTag → Bool → World τ σ → List (LeafCall τ σ)
  | [], _, _, _ => []
  | source :: sources, tag, guarded, world =>
    match world.scene.check guarded ("fallback <" ++ tag.name ++ ">") with
    | some _ => []
    | none =>
      leafCalls source tag guarded world ++
        match tryEach [source] tag guarded none world with
        | (.ended _, _) => []
        | (.exhausted _, world) => triedCalls sources tag guarded world

end

theorem leafCalls_of_isLeaf {retriever : Retriever τ σ} (h : retriever.isLeaf = true) (tag : ViewTag)
    (guarded : Bool) (world : World τ σ) :
    retriever.leafCalls tag guarded world =
      [⟨tag, world.scene, (retriever.retrieve tag guarded world).1,
        (retriever.retrieve tag guarded world).2.scene⟩] := by
  cases retriever with
  | fallback => cases h
  | caching => cases h
  | _ => rfl

end Retriever

/-! ### Live scenes -/

variable [LE τ] [DecidableLE τ]

/-- Whether nobody has asked to give up and no deadline has passed. -/
def Scene.live (scene : Scene τ σ) : Bool :=
  scene.token?.all fun token => !token.cancelled (scene.now token.clock)

/-- This is what is checked at every place. -/
theorem Scene.check_eq_none_iff {scene : Scene τ σ} {place : String} :
    scene.check true place = none ↔ scene.live = true := by
  rw [check, live]
  cases scene.token? with
  | none => simp
  | some token =>
      rw [if_pos rfl, Option.bind_some, Option.all_some, CancelToken.check, CancelToken.cancelled]
      cases token.reason? with
      | some reason => simp
      | none => simp

/-- Calls that begin when the token is live or not, as given, are made only while it is live, and leave it
live or not. -/
inductive Heeded : Bool → List (LeafCall τ σ) → Bool → Prop
  | nil (live : Bool) : Heeded live [] live
  | cons {call : LeafCall τ σ} {calls : List (LeafCall τ σ)} {live : Bool}
      (first : call.before.live = true) (rest : Heeded call.after.live calls live) :
      Heeded true (call :: calls) live

namespace Heeded

variable {calls calls' : List (LeafCall τ σ)} {live live' live'' : Bool}

theorem append (h : Heeded live calls live') (h' : Heeded live' calls' live'') :
    Heeded live (calls ++ calls') live'' := by
  induction h with
  | nil => exact h'
  | cons first _ ih => exact .cons first (ih h')

theorem before (h : Heeded live calls live') : ∀ call ∈ calls, call.before.live = true := by
  induction h with
  | nil => simp
  | cons first _ ih => exact List.forall_mem_cons.mpr ⟨first, ih⟩

/-- A call that does not leave the token live is the last one. -/
theorem of_not_live {earlier later : List (LeafCall τ σ)} {call : LeafCall τ σ}
    (h : Heeded live (earlier ++ call :: later) live') (spent : call.after.live = false) :
    later = [] ∧ live' = false := by
  induction earlier generalizing live with
  | nil =>
      cases h with
      | cons _ rest =>
          rw [spent] at rest
          cases rest
          exact ⟨rfl, rfl⟩
  | cons _ _ ih =>
      cases h with
      | cons _ rest => exact ih rest

end Heeded

/-! ### Leaves are called while the token is live -/

variable [Add τ]

omit [Add τ] in
/-- Looking something up changes the caches only. -/
theorem World.lookUp_eq (world : World τ σ) (name key : String) :
    (world.lookUp name key).2 = { world with caches := (world.lookUp name key).2.caches } := by
  rw [lookUp]
  split
  · rfl
  · rfl

/-- So does keeping something. -/
theorem World.keep_eq (world : World τ σ) (name key : String) (content : Content)
    (lifetime? : Option τ) : world.keep name key content lifetime? =
      { world with caches := (world.keep name key content lifetime?).caches } := by
  rw [keep]
  split
  · rfl
  · rfl

namespace Retriever

variable {sources : List (Retriever τ σ)} {tag : ViewTag}

/-- A retrieval that begins while the token is live heeds it. -/
def Heeds (retriever : Retriever τ σ) (tag : ViewTag) : Prop :=
  ∀ world : World τ σ, world.scene.live = true →
    Heeded true (retriever.leafCalls tag true world) (retriever.retrieve tag true world).2.scene.live

/-- Sources are tried only while the token is live, so it need not be live at the beginning. -/
theorem heeded_tried (each : ∀ source ∈ sources, source.Heeds tag) (last? : Option Error)
    (world : World τ σ) :
    Heeded world.scene.live (triedCalls sources tag true world)
      (tryEach sources tag true last? world).2.scene.live := by
  induction sources generalizing last? world with
  | nil => exact .nil _
  | cons source sources ih =>
      obtain ⟨first, others⟩ := List.forall_mem_cons.mp each
      rw [triedCalls]
      cases checked : world.scene.check true ("fallback <" ++ tag.name ++ ">") with
      | some why =>
          simp only [tryEach, checked]
          exact .nil _
      | none =>
          have live := Scene.check_eq_none_iff.mp checked
          have heeded := first world live
          rw [live]
          simp only [tryEach, checked]
          generalize source.retrieve tag true world = answered at heeded
          obtain ⟨outcome, next⟩ := answered
          refine heeded.append ?_
          cases outcome with
          | ok answer => exact .nil _
          | error e =>
              cases given : e.isFinal with
              | true =>
                  simp only [given, if_true]
                  exact .nil _
              | false =>
                  simp only [given, Bool.false_eq_true, if_false]
                  rw [← World.noteFailure_scene next]
                  exact ih others _ _

/-- Every tree heeds the token. -/
theorem heeds (retriever : Retriever τ σ) (tag : ViewTag) : retriever.Heeds tag := by
  induction retriever using tree_induction with
  | leaf retriever h _ =>
      intro world live
      rw [leafCalls_of_isLeaf h]
      exact .cons live (.nil _)
  | fallback sources otherwise each =>
      intro world live
      have heeded := heeded_tried each none world
      rw [live] at heeded
      rw [leafCalls, retrieve]
      generalize tryEach sources tag true none world = tried at heeded
      obtain ⟨outcome | last?, next⟩ := tried
      · exact heeded
      · cases otherwise with
        | some content => exact heeded
        | none =>
            cases last? with
            | some e => exact heeded
            | none => exact heeded
  | caching inner cache lifetime? within =>
      intro world live
      have kept : (world.lookUp cache tag.cacheKey).2.scene = world.scene := by
        rw [World.lookUp_eq]
      rw [leafCalls, retrieve]
      generalize world.lookUp cache tag.cacheKey = found at kept
      obtain ⟨content | content, between⟩ := found
      · have heeded := within between (kept ▸ live)
        simp only
        generalize inner.retrieve tag true between = answered at heeded
        obtain ⟨e | answer, next⟩ := answered
        · exact heeded
        · simp only
          split
          · exact heeded
          · rw [World.keep_eq]
            exact heeded
      · rw [← live, ← kept]
        exact .nil _

end Retriever

end TagWeave
