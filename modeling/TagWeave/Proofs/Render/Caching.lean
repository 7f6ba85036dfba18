import TagWeave.Proofs.Render.Conformity
import TagWeave.Proofs.Retrieval.Uncached

/-!
# Renders with caches

A registry may keep what its retrievers answer in caches. If each entry in them is the
content with which a tag's retriever answers without caches, under the key of that tag,
a tag is resolved as it is without caches, and the entries go on to be so. It does not
matter which caches there are, what was dropped from them, or what has expired. What is
found in a cache takes less time, however: if several workers race, another failure may
come first.

Two tags share a key only if the digest collides or they have the same identity. What
must not collide are the tags that are resolved.
-/

namespace TagWeave

open TagWeave.ViewTag

variable {τ σ : Type}

/-- The registry with the inner retriever in place of each that keeps content. -/
def Registry.uncached (registry : Registry τ σ) : Registry τ σ :=
  ⟨registry.entries.map fun entry => (entry.1, entry.2.uncached)⟩

theorem Registry.find?_uncached (registry : Registry τ σ) (name : String) :
    registry.uncached.find? name = (registry.find? name).map Retriever.uncached := by
  simp only [find?, uncached, List.find?_map, Option.map_map]
  rfl

/-- Each retriever of the registry is a tree whose functions answer by the identity of a tag only. -/
def Registry.Determined (alike : Scene τ σ → Scene τ σ → Prop) (registry : Registry τ σ) : Prop :=
  ∀ {name retriever}, registry.find? name = some retriever → retriever.Determined alike

/-- The identities of some tags, as they are digested. -/
def digestedOf (tags : List ViewTag) : List (List UInt8) :=
  tags.map fun tag => digested tag.name tag.content tag.attributes

/-- Sets a clock forward. -/
def Scene.forward [Add τ] (scene : Scene τ σ) : Clock → τ → Scene τ σ
  | .session, time => scene.advance time
  | .system, time => { scene with systemTime := scene.systemTime + time }

/-- Scenes that are alike stay so when time passes, and whatever time a retrieval takes. -/
structure Scene.Indistinct [Add τ] (alike : Scene τ σ → Scene τ σ → Prop) : Prop where
  equivalence : Equivalence alike
  forward : ∀ {scene scene'}, alike scene scene' → ∀ clock time,
    alike (scene.forward clock time) (scene'.forward clock time)
  delayed : ∀ scene delay, alike scene { scene with delay }

variable [Add τ] [LE τ] [DecidableLE τ]

/-- What is worth keeping: under the key of one of the tags, the content with which its retriever
answers without caches. -/
def Registry.Worth (registry : Registry τ σ) (tags : List ViewTag) (key : String)
    (content : Content) : Prop :=
  ∃ tag ∈ tags, key = tag.cacheKey ∧ ∃ retriever w, registry.find? tag.name = some retriever ∧
    (retriever.uncached.retrieve tag false w).1 = .ok (.content content)

variable {registry : Registry τ σ} {alike : Scene τ σ → Scene τ σ → Prop} {tags : List ViewTag}

/-- Unless digests collide, this is one content for each tag, at any time. -/
theorem Registry.worth_iff (determined : registry.Determined alike)
    (distinct : NoCollision (digestedOf tags)) {tag : ViewTag} (among : tag ∈ tags)
    {retriever : Retriever τ σ} (found : registry.find? tag.name = some retriever) (w : World τ σ)
    (content : Content) : registry.Worth tags tag.cacheKey content ↔
      (retriever.uncached.retrieve tag false w).1 = .ok (.content content) := by
  constructor
  · rintro ⟨other, there, keys, retriever', w', found', answered⟩
    have same := sameIdentity_of_cacheKey distinct (List.mem_map_of_mem among)
      (List.mem_map_of_mem there) keys
    rw [← same.name, found] at found'
    cases found'
    rw [(determined found).answers same w w']
    exact answered
  · intro answered
    exact ⟨tag, among, rfl, retriever, w, found, answered⟩

/-- A world with caches looks like one without, and there is nothing in its caches that is not worth
keeping. -/
structure Registry.Caches (registry : Registry τ σ) (alike : Scene τ σ → Scene τ σ → Prop)
    (tags : List ViewTag) (w w' : World τ σ) : Prop where
  looks : w.LooksLike alike w'
  keeps : w.Keeps (registry.Worth tags)

/-- A tag is resolved with caches as without them, at any time. -/
theorem Registry.resolve_uncached (equivalence : Equivalence alike)
    (determined : registry.Determined alike) (distinct : NoCollision (digestedOf tags))
    {tag : ViewTag} (among : tag ∈ tags) {w w' : World τ σ} (h : registry.Caches alike tags w w')
    (start : World τ σ) :
    (registry.resolve false tag w).1 = (registry.uncached.resolve false tag start).1 ∧
      registry.Caches alike tags (registry.resolve false tag w).2 w' := by
  cases found : registry.find? tag.name with
  | none =>
      simp only [resolve, Scene.check, Bool.false_eq_true, if_false, find?_uncached, found,
        Option.map_none, true_and]
      exact h
  | some retriever =>
      have tree := determined found
      have found' : registry.uncached.find? tag.name = some retriever.uncached := by
        rw [find?_uncached, found, Option.map_some]
      obtain ⟨same, keeps⟩ := tree.retrieve_eq equivalence start h.keeps
        (worth_iff determined distinct among found start)
      have left := (tree.quiet equivalence tag w).2
      have looks : World.LooksLike alike (retriever.retrieve tag false w).2 w' :=
        ⟨equivalence.trans (equivalence.symm left.scene) h.looks.scene,
          left.memory.symm.trans h.looks.memory⟩
      exact resolve_eq found found' (registry.Caches alike tags · w')
        (fun after _ _ _ => ⟨⟨after.looks.scene, after.looks.memory⟩, after.keeps⟩) same
        ⟨looks, keeps⟩

/-- Without caches, it is resolved at any time as at any other. -/
theorem Registry.resolve_steady (equivalence : Equivalence alike)
    (determined : registry.Determined alike) (tag : ViewTag) {w w' : World τ σ}
    (h : registry.Caches alike tags w w') (start : World τ σ) :
    (registry.uncached.resolve false tag w').1 = (registry.uncached.resolve false tag start).1 ∧
      registry.Caches alike tags w (registry.uncached.resolve false tag w').2 := by
  cases found : registry.find? tag.name with
  | none =>
      simp only [resolve, Scene.check, Bool.false_eq_true, if_false, find?_uncached, found,
        Option.map_none, true_and]
      exact h
  | some retriever =>
      have tree := determined found
      have found' : registry.uncached.find? tag.name = some retriever.uncached := by
        rw [find?_uncached, found, Option.map_some]
      have left := (tree.uncached.quiet equivalence tag w').2
      have looks : World.LooksLike alike w (retriever.uncached.retrieve tag false w').2 :=
        ⟨equivalence.trans h.looks.scene left.scene, h.looks.memory.trans left.memory⟩
      exact resolve_eq found' found' (registry.Caches alike tags w)
        (fun after _ _ _ => ⟨⟨after.looks.scene, after.looks.memory⟩, after.keeps⟩)
        (tree.answers ⟨rfl, rfl, rfl⟩ w' start) ⟨looks, h.keeps⟩

/-- So a registry compares with the one without caches as with itself. -/
theorem Registry.compared_uncached (indistinct : Scene.Indistinct alike)
    (determined : registry.Determined alike) (distinct : NoCollision (digestedOf tags))
    (start : World τ σ) :
    Compared (fun _ => False) (fun _ _ => False) (registry.Caches alike tags)
      (fun tag => (registry.uncached.resolve false tag start).1)
      (fun tag => (registry.uncached.resolve false tag start).1) tags registry registry.uncached where
  left _ among _ _ h :=
    resolve_uncached indistinct.equivalence determined distinct among h start
  right tag _ _ _ h := resolve_steady indistinct.equivalence determined tag h start
  judged _ _ := .same _
  delayed := by
    intro w w' h delay
    have equivalence := indistinct.equivalence
    constructor
    · exact ⟨⟨equivalence.trans (equivalence.symm (indistinct.delayed w.scene delay)) h.looks.scene,
        h.looks.memory⟩, h.keeps⟩
    · exact ⟨⟨equivalence.trans h.looks.scene (indistinct.delayed w'.scene delay),
        h.looks.memory⟩, h.keeps⟩
  note h _ _ _ := ⟨⟨h.looks.scene, h.looks.memory⟩, h.keeps⟩
  empty := by simp [Registry.uncached]

/-- A tag fails with an error at any time. -/
def Registry.Fails (registry : Registry τ σ) (tag : ViewTag) (e : Error) : Prop :=
  ∀ w, (registry.resolve false tag w).1 = .error e

theorem Registry.fails_uncached (equivalence : Equivalence alike)
    (determined : registry.Determined alike) {tag : ViewTag} {e : Error} {start : World τ σ}
    (fails : (registry.uncached.resolve false tag start).1 = .error e) :
    registry.uncached.Fails tag e := by
  intro w
  have kept : registry.Caches alike [] { w with caches := [] } w :=
    ⟨⟨equivalence.refl _, rfl⟩, by simp [World.Keeps]⟩
  exact (resolve_steady equivalence determined tag kept start).1.trans fails

namespace Renderer

/-- The renderer's interpolations do not tell scenes apart that are alike. -/
def Overlooks (alike : Scene τ σ → Scene τ σ → Prop) (renderer : Renderer τ σ) : Prop :=
  ∀ {w w'}, w.LooksLike alike w' → ∀ bindings text,
    Alike (World.LooksLike alike) (renderer.interpolate bindings text w)
      (renderer.interpolate bindings text w')

variable {renderer : Renderer τ σ}

omit [Add τ] [LE τ] [DecidableLE τ] in
theorem caches_interpolate (renderer : Renderer τ σ) (bindings : List Value) (text : String)
    (w : World τ σ) : (renderer.interpolate bindings text w).2.caches = w.caches := by
  rw [interpolate]
  split
  · rfl
  · rfl

/-- Two renders come to the same, or several workers race: each render fails as a tag of some pass
does, perhaps as another tag of this pass. -/
inductive Agree (registry : Registry τ σ) (workers : Nat) (passes : List (List ViewTag)) :
    Outcome (String × Report) → Outcome (String × Report) → Prop
  | same (outcome : Outcome (String × Report)) : Agree registry workers passes outcome outcome
  | raced (several : workers ≠ 1) {tags : List ViewTag} (pass : tags ∈ passes) {tag tag' : ViewTag}
      (among : tag ∈ tags) (among' : tag' ∈ tags) {e e' : Error} (fails : registry.Fails tag e)
      (fails' : registry.Fails tag' e') : Agree registry workers passes (.error e) (.error e')

/-- A render comes to the same with caches and without, but for races, whatever courses the pools
take. -/
theorem compose_uncached (indistinct : Scene.Indistinct alike)
    (determined : registry.Determined alike) (distinct : NoCollision (digestedOf tags))
    (overlooks : renderer.Overlooks alike) {course course' : Nat → Bool → Course}
    (complete : ∀ workers, (course workers false).Complete)
    (complete' : ∀ workers, (course' workers false).Complete) {template : String}
    {bindings : List Value} {w w' : World τ σ} (h : registry.Caches alike tags w w')
    (covered : ∀ tag ∈ ({ renderer with registry := registry.uncached, course := course' }).tagsResolved
      template bindings w', tag ∈ tags) :
    let left : Renderer τ σ := { renderer with registry, course }
    let right : Renderer τ σ := { renderer with registry := registry.uncached, course := course' }
    Agree registry.uncached renderer.maxWorkers (right.passesOf template bindings w')
        (left.compose template bindings false w).1 (right.compose template bindings false w').1 ∧
      registry.Caches alike tags (left.compose template bindings false w).2
        (right.compose template bindings false w').2 := by
  intro left right
  have interpolate : ∀ {w w'}, registry.Caches alike tags w w' → ∀ text,
      Alike (registry.Caches alike tags) (renderer.interpolate bindings text w)
        (renderer.interpolate bindings text w') := by
    intro w w' h text
    obtain ⟨same, looks⟩ := overlooks h.looks bindings text
    refine ⟨same, looks, ?_⟩
    rw [World.Keeps, caches_interpolate]
    exact h.keeps
  obtain ⟨outcome, after⟩ := compose_conforming
    ((registry.compared_uncached indistinct determined distinct w).mono covered) (.inr complete)
    (.inr complete') interpolate h
  refine ⟨?_, after fun _ _ => id⟩
  change Conforms _ _ (left.compose template bindings false w).1
    (right.compose template bindings false w').1 at outcome
  generalize (left.compose template bindings false w).1 = o at outcome
  generalize (right.compose template bindings false w').1 = o' at outcome
  cases outcome with
  | same => exact .same _
  | besides _ excuse => exact excuse.elim
  | apart stands =>
      obtain ⟨tags, pass, stands⟩ := stands
      obtain ⟨several, ⟨tag, among, cause, fails, told⟩, tag', among', fails'⟩ :=
        stands.resolve_left id
      obtain rfl := told.resolve_right id
      exact .raced several pass among among'
        (Registry.fails_uncached indistinct.equivalence determined fails)
        (Registry.fails_uncached indistinct.equivalence determined fails')

end Renderer

end TagWeave
