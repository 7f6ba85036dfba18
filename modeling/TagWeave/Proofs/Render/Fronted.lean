import TagWeave.Proofs.Render.Building
import TagWeave.Proofs.Render.Caching
import TagWeave.Proofs.Render.Conformity
import TagWeave.Proofs.Render.Pool
import TagWeave.Proofs.Retrieval.Entries

/-!
# Renderers with a cache in front

A renderer that is built with caching asks a cache before each retriever of its table. If
what a retriever answers, be it a value of any type or a failure, depends on the identity
of a tag only, this answer is judged on either way. Without the cache the renderer takes
content and turns away anything else. In front of it, the cache takes a text as content,
too, and refuses the rest. So the two ways come to the same except for texts.

A table is checked at different places as well: with the cache, what is put into the
registry are retrievers, whatever stands in the table.
-/

namespace TagWeave

open TagWeave.ViewTag

variable {τ σ : Type}

/-- Each entry of one cache has a property, expired or not. -/
def World.KeepsIn (P : String → Content → Prop) (cache : String) (world : World τ σ) : Prop :=
  ∀ entry ∈ world.entriesIn cache, P entry.1 entry.2.content

/-- Two worlds differ at most in one cache and in the log. -/
structure World.SameBut (cache : String) (w w' : World τ σ) : Prop where
  scene : w'.scene = w.scene
  memory : w'.memory = w.memory
  others : ∀ other, other ≠ cache → w'.cache? other = w.cache? other

namespace World

variable {P : String → Content → Prop} {w w' : World τ σ} {cache key : String} {content : Content}

theorem sameBut_setCache (w : World τ σ) (name : String) (cache : Cache τ) :
    w.SameBut name (w.setCache name cache) where
  scene := rfl
  memory := rfl
  others := fun other differs => by rw [cache?_setCache, if_neg differs]

theorem SameBut.note (same : w.SameBut cache w') (level : Nat) (origin : Log.Origin)
    (message : String) : w.SameBut cache (w'.note level origin message) :=
  ⟨same.scene, same.memory, same.others⟩

variable [LE τ] [DecidableLE τ]

theorem sameBut_lookUp (w : World τ σ) (cache key : String) :
    w.SameBut cache (w.lookUp cache key).2 := by
  rw [lookUp]
  split
  · exact ⟨rfl, rfl, fun _ _ => rfl⟩
  · exact sameBut_setCache ..

/-- What is found has the property, and nothing else is left. -/
theorem KeepsIn.lookUp (keeps : w.KeepsIn P cache) (key : String) :
    (∀ content, (w.lookUp cache key).1 = some content → P key content) ∧
      (w.lookUp cache key).2.KeepsIn P cache := by
  constructor
  · intro content found
    obtain ⟨entry, among, rfl⟩ := exists_entry_of_lookUp found
    exact keeps _ among
  · intro entry among
    exact keeps entry ((entriesIn_lookUp w cache key).subset among)

variable [Add τ] {lifetime? : Option τ}

theorem sameBut_keep (w : World τ σ) (cache key : String) (content : Content)
    (lifetime? : Option τ) : w.SameBut cache (w.keep cache key content lifetime?) := by
  rw [keep]
  split
  · exact ⟨rfl, rfl, fun _ _ => rfl⟩
  · exact sameBut_setCache ..

theorem KeepsIn.keep (keeps : w.KeepsIn P cache) (h : P key content) :
    (w.keep cache key content lifetime?).KeepsIn P cache := by
  intro entry among
  rw [World.keep] at among
  split at among
  · exact keeps entry among
  · next held found =>
    rw [entriesIn_setCache found] at among
    rcases Cache.mem_put among with rfl | among
    · exact h
    · apply keeps
      rw [entriesIn_of_cache? found]
      exact (List.mem_filter.mp among).1

end World

/-! ### Steady tables -/

/-- The registry in which each retriever is asked only for what is not in a cache. -/
def Registry.fronted (registry : Registry τ σ) (cache : String) (lifetime? : Option τ) :
    Registry τ σ :=
  ⟨registry.entries.map fun entry => (entry.1, .caching entry.2 cache lifetime?)⟩

theorem Registry.find?_fronted (registry : Registry τ σ) (cache : String) (lifetime? : Option τ)
    (name : String) : (registry.fronted cache lifetime?).find? name =
      (registry.find? name).map (.caching · cache lifetime?) := by
  simp only [find?, fronted, List.find?_map, Option.map_map]
  rfl

variable [Add τ] [LE τ] [DecidableLE τ]

namespace Registry

/-- In worlds that are sound, the outcome of each retriever depends on the identity of a tag only. A
retriever leaves files as they are, and a sound world; it does not use one cache. This cache, the
log, what interpolations remember, and how long a task takes do not matter for a world to be sound. -/
structure Steady (registry : Registry τ σ) (cache : String) (sound : World τ σ → Prop) : Prop where
  answers : ∀ {name retriever}, registry.find? name = some retriever →
    ∀ {tag tag'}, SameIdentity tag tag' → ∀ {w w'}, sound w → sound w' →
      (retriever.retrieve tag false w).1 = (retriever.retrieve tag' false w').1
  leaves : ∀ {name retriever}, registry.find? name = some retriever → ∀ tag {w}, sound w →
    sound (retriever.retrieve tag false w).2 ∧
      (retriever.retrieve tag false w).2.scene.files = w.scene.files
  uses : ∀ {name retriever}, registry.find? name = some retriever → retriever.Uses (· ≠ cache)
  unseen : ∀ {w w'}, sound w → (w'.withDelay 0).scene = (w.withDelay 0).scene →
    (∀ other, other ≠ cache → w'.cache? other = w.cache? other) → sound w'

/-- Under the key of one of the tags, the content that its retriever's answer stands for. -/
def Admits (registry : Registry τ σ) (sound : World τ σ → Prop) (tags : List ViewTag) (key : String)
    (content : Content) : Prop :=
  ∃ tag ∈ tags, key = tag.cacheKey ∧ ∃ retriever w answer, registry.find? tag.name = some retriever ∧
    sound w ∧ (retriever.retrieve tag false w).1 = .ok answer ∧ answer.toContent = .ok content

/-- Both errors say that a tag cannot be resolved. -/
def Unresolved (e e' : Error) : Prop := e.kind = "RetrieverError" ∧ e'.kind = "RetrieverError"

/-- The error by which a text is turned away that a retriever answers in place of content. -/
def TurnsAway (registry : Registry τ σ) (sound : World τ σ → Prop) (e : Error) : Prop :=
  ∃ tag retriever w text, registry.find? tag.name = some retriever ∧ sound w ∧
    (retriever.retrieve tag false w).1 = .ok (.value (.str text)) ∧ e = .wrongResult tag.site "str"

/-- Two sound worlds, of which the first one has in the cache what the registry admits. To
interpolations they look the same. -/
structure Fronts (registry : Registry τ σ) (cache : String) (sound : World τ σ → Prop)
    (tags : List ViewTag) (w w' : World τ σ) : Prop where
  left : sound w
  right : sound w'
  files : w.scene.files = w'.scene.files
  memory : w.memory = w'.memory
  keeps : w.KeepsIn (registry.Admits sound tags) cache

variable {registry : Registry τ σ} {cache : String} {sound : World τ σ → Prop} {tags : List ViewTag}
variable {lifetime? : Option τ} {w w' : World τ σ} {tag : ViewTag} {retriever : Retriever τ σ}

theorem Steady.of_sameBut (steady : registry.Steady cache sound) (h : sound w)
    (same : w.SameBut cache w') : sound w' :=
  steady.unseen h (by simp only [World.withDelay, same.scene]) same.others

/-- It is enough that the outcomes are functions of the identity of a tag, and that retrievers leave
files as they are and use other caches only. Then all worlds are sound. -/
theorem steady_of_functions (answer : String → ViewTag → Outcome Answer)
    (identity : ∀ name {tag tag'}, SameIdentity tag tag' → answer name tag = answer name tag')
    (functions : ∀ {name retriever}, registry.find? name = some retriever →
      (∀ tag w, (retriever.retrieve tag false w).1 = answer name tag ∧
        (retriever.retrieve tag false w).2.scene.files = w.scene.files) ∧
      retriever.Uses (· ≠ cache)) : registry.Steady cache fun _ => True where
  answers := by
    intro name retriever found tag tag' same w w' _ _
    have asked := (functions found).1
    rw [(asked tag w).1, (asked tag' w').1, identity name same]
  leaves := fun found tag w _ => ⟨trivial, ((functions found).1 tag w).2⟩
  uses := fun found => (functions found).2
  unseen := fun _ _ _ => trivial

/-- Unless digests collide, one content is admitted for a tag. -/
theorem Steady.admits_iff (steady : registry.Steady cache sound)
    (distinct : NoCollision (digestedOf tags)) (among : tag ∈ tags)
    (found : registry.find? tag.name = some retriever) (h : sound w) (content : Content) :
    registry.Admits sound tags tag.cacheKey content ↔
      ∃ answer, (retriever.retrieve tag false w).1 = .ok answer ∧ answer.toContent = .ok content := by
  constructor
  · rintro ⟨other, there, keys, retriever', w', answer, found', h', answered, stands⟩
    have same := sameIdentity_of_cacheKey distinct (List.mem_map_of_mem among)
      (List.mem_map_of_mem there) keys
    rw [← same.name, found] at found'
    cases found'
    exact ⟨answer, (steady.answers found same h h').trans answered, stands⟩
  · rintro ⟨answer, answered, stands⟩
    exact ⟨tag, among, rfl, retriever, w, answer, found, h, answered, stands⟩

/-- Without a cache, a retriever answers at any time as at any other. -/
theorem Steady.retrieve_plain (steady : registry.Steady cache sound)
    (found : registry.find? tag.name = some retriever)
    (h : registry.Fronts cache sound tags w w') {start : World τ σ} (sound' : sound start) :
    (retriever.retrieve tag false w').1 = (retriever.retrieve tag false start).1 ∧
      registry.Fronts cache sound tags w (retriever.retrieve tag false w').2 := by
  obtain ⟨right, files⟩ := steady.leaves found tag h.right
  have memory := retriever.memory_retrieve tag false w'
  exact ⟨steady.answers found ⟨rfl, rfl, rfl⟩ h.right sound', h.left, right,
    by rw [files, h.files], by rw [memory, h.memory], h.keeps⟩

/-- With a cache in front, a retriever's answer is told as content, and so is a failure. -/
theorem Steady.retrieve_fronted (steady : registry.Steady cache sound) (lifetime? : Option τ)
    (distinct : NoCollision (digestedOf tags)) (among : tag ∈ tags)
    (found : registry.find? tag.name = some retriever)
    (h : registry.Fronts cache sound tags w w') {start : World τ σ} (sound' : sound start) :
    let a := (Retriever.caching retriever cache lifetime?).retrieve tag false w
    a.1 = Retriever.asContent (retriever.retrieve tag false start).1 ∧
      registry.Fronts cache sound tags a.2 w' := by
  intro a
  obtain ⟨hit, looked⟩ := h.keeps.lookUp tag.cacheKey
  have same := w.sameBut_lookUp cache tag.cacheKey
  have between := steady.of_sameBut h.left same
  simp only [a, Retriever.retrieve]
  generalize w.lookUp cache tag.cacheKey = b at hit looked same between
  obtain ⟨_ | content, next⟩ := b
  · -- the retriever is asked, and answers as it does without a cache
    have same' : SameIdentity tag tag := ⟨rfl, rfl, rfl⟩
    have answered := steady.answers found same' between sound'
    obtain ⟨left, files⟩ := steady.leaves found tag between
    have memory := retriever.memory_retrieve tag false next
    have kept := (steady.uses found).entriesIn_retrieve tag false next
    have worth := steady.admits_iff distinct among found between
    simp only
    generalize retriever.retrieve tag false next = b at answered left files memory kept worth
    obtain ⟨outcome, after⟩ := b
    have fronts : registry.Fronts cache sound tags after w' := by
      refine ⟨left, h.right, ?_, ?_, ?_⟩
      · rw [files, same.scene, h.files]
      · rw [memory, same.memory, h.memory]
      · intro entry there
        rw [kept] at there
        exact looked entry there
    rw [← answered]
    rcases outcome with e | answer
    · exact ⟨rfl, fronts⟩
    · simp only [Retriever.asContent]
      cases stands : answer.toContent with
      | error f => exact ⟨rfl, fronts⟩
      | ok content =>
          have admitted := (worth content).mpr ⟨answer, rfl, stands⟩
          have set := after.sameBut_keep cache tag.cacheKey content lifetime?
          refine ⟨rfl, steady.of_sameBut left set, h.right, ?_, ?_, fronts.keeps.keep admitted⟩
          · rw [set.scene, fronts.files]
          · rw [set.memory, fronts.memory]
  · obtain ⟨answer, answered, stands⟩ :=
      (steady.admits_iff distinct among found sound' content).mp (hit content rfl)
    have noted := same.note Log.debug .retrieval ("cache hit for " ++ tag.cacheKey)
    refine ⟨?_, steady.of_sameBut h.left noted, h.right, ?_, ?_, looked⟩
    · simp only [answered, Retriever.asContent, stands]
    · rw [noted.scene, h.files]
    · rw [noted.memory, h.memory]

/-- What is logged and how long it takes does not matter on the left, -/
theorem Fronts.aside (steady : registry.Steady cache sound)
    (h : registry.Fronts cache sound tags w w') (delay : Nat) (log : List Log.Record) :
    registry.Fronts cache sound tags { w with scene := { w.scene with delay }, log } w' :=
  ⟨steady.unseen h.left rfl fun _ _ => rfl, h.right, h.files, h.memory, h.keeps⟩

/-- and not on the right either. -/
theorem Fronts.aside' (steady : registry.Steady cache sound)
    (h : registry.Fronts cache sound tags w w') (delay : Nat) (log : List Log.Record) :
    registry.Fronts cache sound tags w { w' with scene := { w'.scene with delay }, log } :=
  ⟨h.left, steady.unseen h.right rfl fun _ _ => rfl, h.files, h.memory, h.keeps⟩

/-- What the renderer makes of an answer conforms: it turns away what is no content, and the cache has
refused it before unless it is a text. -/
theorem Steady.judged (steady : registry.Steady cache sound) (lifetime? : Option τ)
    (distinct : NoCollision (digestedOf tags)) (among : tag ∈ tags)
    (h : registry.Fronts cache sound tags w w') :
    Judged (registry.TurnsAway sound) Unresolved
      ((registry.fronted cache lifetime?).resolve false tag w).1
      (registry.resolve false tag w').1 := by
  cases found : registry.find? tag.name with
  | none =>
      simp only [resolve, Scene.check, Bool.false_eq_true, if_false, find?_fronted, found,
        Option.map_none]
      exact .same _
  | some retriever =>
      obtain ⟨answered, -⟩ := steady.retrieve_fronted lifetime? distinct among found h h.right
      have text : ∀ text, (retriever.retrieve tag false w').1 = .ok (.value (.str text)) →
          registry.TurnsAway sound (.wrongResult tag.site "str") :=
        fun text asked => ⟨tag, retriever, w', text, found, h.right, asked, rfl⟩
      simp only [resolve, Scene.check, Bool.false_eq_true, if_false, find?_fronted, found,
        Option.map_some]
      generalize (Retriever.caching retriever cache lifetime?).retrieve tag false w = a at answered
      generalize retriever.retrieve tag false w' = a' at answered text
      obtain ⟨outcome, after⟩ := a
      obtain ⟨outcome', after'⟩ := a'
      obtain rfl : outcome = Retriever.asContent outcome' := answered
      rcases outcome' with e | content | value
      · exact .same _
      · exact .same _
      · by_cases isText : ∃ text, value = .str text
        · obtain ⟨s, rfl⟩ := isText
          exact .accepted _ (text s rfl)
        · have refused : (Answer.value value).toContent = .error (.notContent value.typeName) := by
            cases value with
            | str s => exact absurd ⟨s, rfl⟩ isText
            | _ => rfl
          simp only [Retriever.asContent, refused]
          exact .apart ⟨rfl, rfl⟩

/-- So a registry with a cache in front compares with the one without. -/
theorem Steady.compared (steady : registry.Steady cache sound) (lifetime? : Option τ)
    (distinct : NoCollision (digestedOf tags)) (start : registry.Fronts cache sound tags w w') :
    Compared (registry.TurnsAway sound) Unresolved (registry.Fronts cache sound tags)
      (fun tag => ((registry.fronted cache lifetime?).resolve false tag w).1)
      (fun tag => (registry.resolve false tag w').1) tags (registry.fronted cache lifetime?)
      registry where
  left := by
    intro tag among v v' h
    cases found : registry.find? tag.name with
    | none =>
        simp only [resolve, Scene.check, Bool.false_eq_true, if_false, find?_fronted, found,
          Option.map_none, true_and]
        exact h
    | some retriever =>
        have found' : (registry.fronted cache lifetime?).find? tag.name =
            some (.caching retriever cache lifetime?) := by
          rw [find?_fronted, found, Option.map_some]
        obtain ⟨same, after⟩ := steady.retrieve_fronted lifetime? distinct among found h start.right
        obtain ⟨same', -⟩ := steady.retrieve_fronted lifetime? distinct among found start start.right
        exact resolve_eq found' found' (registry.Fronts cache sound tags · v')
          (fun h _ _ _ => h.aside steady _ _) (same.trans same'.symm) after
  right := by
    intro tag among v v' h
    cases found : registry.find? tag.name with
    | none =>
        simp only [resolve, Scene.check, Bool.false_eq_true, if_false, found, true_and]
        exact h
    | some retriever =>
        obtain ⟨same, after⟩ := steady.retrieve_plain found h start.right
        exact resolve_eq found found (registry.Fronts cache sound tags v)
          (fun h _ _ _ => h.aside' steady _ _) same after
  judged tag among := steady.judged lifetime? distinct among start
  delayed h delay := ⟨h.aside steady delay _, h.aside' steady delay _⟩
  note h _ _ _ := (h.aside steady _ _).aside' steady _ _
  empty := by simp [fronted]

/-- In sound worlds, a tag fails with an error. -/
def FailsIn (registry : Registry τ σ) (sound : World τ σ → Prop) (tag : ViewTag) (e : Error) : Prop :=
  ∀ w, sound w → (registry.resolve false tag w).1 = .error e

theorem Steady.failsIn (steady : registry.Steady cache sound) {tag : ViewTag} {e : Error}
    {start : World τ σ} (sound' : sound start)
    (fails : (registry.resolve false tag start).1 = .error e) : registry.FailsIn sound tag e := by
  intro w h
  rw [← fails]
  cases found : registry.find? tag.name with
  | none => simp only [resolve, Scene.check, Bool.false_eq_true, if_false, found]
  | some retriever =>
      exact (resolve_eq found found (fun _ => True) (fun _ _ _ _ => trivial)
        (steady.answers found ⟨rfl, rfl, rfl⟩ h sound') trivial).1

/-- Two errors may stand for each other in a render with these passes: they both say that a tag cannot be
resolved, or several workers race. -/
def MayStand (registry : Registry τ σ) (sound : World τ σ → Prop) (workers : Nat)
    (passes : List (List ViewTag)) (e e' : Error) : Prop :=
  Unresolved e e' ∨
    workers ≠ 1 ∧ ∃ tags ∈ passes, Raced Unresolved (registry.FailsIn sound) tags e e'

end Registry

namespace Renderer

variable {renderer : Renderer τ σ} {cache : String} {sound : World τ σ → Prop} {tags : List ViewTag}
variable {lifetime? : Option τ} {w w' : World τ σ}

/-- The renderer with a cache in front of its retrievers. -/
def fronted (renderer : Renderer τ σ) (cache : String) (lifetime? : Option τ) : Renderer τ σ :=
  { renderer with registry := renderer.registry.fronted cache lifetime? }

/-- Interpolations by the renderer's interpolator do not see a cache. -/
theorem interpolate_fronted (steady : renderer.registry.Steady cache sound)
    (own : renderer.engine? = none) (h : renderer.registry.Fronts cache sound tags w w')
    (bindings : List Value) (text : String) :
    Alike (renderer.registry.Fronts cache sound tags) (renderer.interpolate bindings text w)
      (renderer.interpolate bindings text w') := by
  simp only [interpolate, own, h.files, h.memory]
  refine ⟨rfl, steady.unseen h.left rfl fun _ _ => rfl, steady.unseen h.right rfl fun _ _ => rfl,
    h.files, rfl, ?_⟩
  exact h.keeps

/-- A render with a cache in front comes to what conforms to the render without, whatever courses the
pools take. -/
theorem compose_fronted (renderer : Renderer τ σ) (lifetime? : Option τ)
    (steady : renderer.registry.Steady cache sound) (own : renderer.engine? = none)
    {course course' : Nat → Bool → Course}
    (complete : ∀ workers, (course workers false).Complete)
    (complete' : ∀ workers, (course' workers false).Complete) {template : String}
    {bindings : List Value}
    (distinct : NoCollision
      (digestedOf (({ renderer with course := course' }).tagsResolved template bindings w')))
    (h : renderer.registry.Fronts cache sound
      (({ renderer with course := course' }).tagsResolved template bindings w') w w') :
    Conforms (renderer.registry.TurnsAway sound)
      (renderer.registry.MayStand sound renderer.maxWorkers
        (({ renderer with course := course' }).passesOf template bindings w'))
      (({ renderer.fronted cache lifetime? with course }).compose template bindings false w).1
      (({ renderer with course := course' }).compose template bindings false w').1 := by
  have conforming := compose_conforming (steady.compared lifetime? distinct h) (.inr complete)
    (.inr complete') (fun h text => interpolate_fronted steady own h bindings text) h
  refine conforming.outcome.mono ?_
  rintro e e' ⟨tags, pass, told | ⟨several, raced⟩⟩
  · exact .inl told
  · exact .inr ⟨several, tags, pass, raced.mono fun tag e fails => steady.failsIn h.right fails⟩

end Renderer

end TagWeave
