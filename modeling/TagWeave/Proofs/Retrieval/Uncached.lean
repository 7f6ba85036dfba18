import TagWeave.Proofs.Retrieval.Kept
import TagWeave.Proofs.ViewTag.Identity
import TagWeave.Retrieval.Retriever

/-!
# Retrievers without their caches

Without its caches a tree of retrievers asks its functions each time. If what these
answer depends on the identity of a tag only, so does what the tree answers.

In a tree an answer is handed on to the root unchanged, whatever gave it. So all caches
of a tree may hold the same content under the key of a tag: that with which the whole
tree answers. An inner retriever may then find it before it would have failed by
itself, but the tree as a whole answers as it does without caches, and sets nothing
else.
-/

namespace TagWeave

variable {τ σ : Type} {alike : Scene τ σ → Scene τ σ → Prop}

/-- Two worlds look the same to code that does not tell scenes apart that are alike. -/
structure World.LooksLike (alike : Scene τ σ → Scene τ σ → Prop) (w w' : World τ σ) : Prop where
  scene : alike w.scene w'.scene
  memory : w.memory = w'.memory

/-- An outcome that is content, if it is no failure. -/
def Answer.Delivers (outcome : Outcome Answer) : Prop :=
  ∀ answer, outcome = .ok answer → ∃ content, answer = .content content

namespace Retriever

mutual

/-- The retriever with the inner one in place of each that keeps content. -/
def uncached : Retriever τ σ → Retriever τ σ
  | static content => static content
  | function run => function run
  | stored store => stored store
  | fallback sources otherwise => fallback (uncachedEach sources) otherwise
  | caching inner _ _ => uncached inner
  | leaf run => leaf run
  | before act inner => before act (uncached inner)
  | foreign typeName => foreign typeName

/-- Retrievers without their caches. -/
def uncachedEach : List (Retriever τ σ) → List (Retriever τ σ)
  | [] => []
  | source :: sources => uncached source :: uncachedEach sources

end

/-- A tree of fixed contents, functions, fallbacks and caches. Its functions answer by the identity
of a tag only, and leave a scene that is alike. -/
inductive Determined (alike : Scene τ σ → Scene τ σ → Prop) : Retriever τ σ → Prop
  | static (content : Content) : Determined alike (static content)
  | function {run : ViewTag → Scene τ σ → Outcome Answer × Scene τ σ}
      (answers : ∀ {tag tag'}, ViewTag.SameIdentity tag tag' → ∀ scene scene',
        (run tag scene).1 = (run tag' scene').1)
      (leaves : ∀ tag scene, alike scene (run tag scene).2) : Determined alike (function run)
  | fallback {sources : List (Retriever τ σ)} {otherwise : Option Content}
      (each : ∀ source ∈ sources, Determined alike source) :
      Determined alike (fallback sources otherwise)
  | caching {inner : Retriever τ σ} {cache : String} {lifetime? : Option τ}
      (within : Determined alike inner) : Determined alike (caching inner cache lifetime?)

variable {retriever : Retriever τ σ} {sources : List (Retriever τ σ)} {tag tag' : ViewTag}
variable {w w' : World τ σ}

theorem mem_uncachedEach {source : Retriever τ σ} (h : source ∈ uncachedEach sources) :
    ∃ source' ∈ sources, source = source'.uncached := by
  induction sources with
  | nil => cases h
  | cons first sources ih =>
      rcases List.mem_cons.mp h with rfl | h
      · exact ⟨first, List.mem_cons_self .., rfl⟩
      · obtain ⟨source', there, same⟩ := ih h
        exact ⟨source', List.mem_cons_of_mem _ there, same⟩

theorem Determined.uncached (determined : retriever.Determined alike) :
    retriever.uncached.Determined alike := by
  induction determined with
  | static content => exact .static content
  | function answers leaves => exact .function answers leaves
  | fallback each ih =>
      refine .fallback fun source h => ?_
      obtain ⟨source', there, rfl⟩ := mem_uncachedEach h
      exact ih source' there
  | caching within ih => exact ih

theorem delivers_asContent (outcome : Outcome Answer) : Answer.Delivers (asContent outcome) := by
  intro answer h
  unfold asContent at h
  split at h
  · cases h
  · split at h
    · cases h
      exact ⟨_, rfl⟩
    · cases h

variable [Add τ] [LE τ] [DecidableLE τ]

/-- Without a token, trying sources goes on with the next one unless a source succeeds, gives up or
asks to end the program. -/
theorem tryEach_cons (source : Retriever τ σ) (sources : List (Retriever τ σ)) (tag : ViewTag)
    (last? : Option Error) (w : World τ σ) :
    tryEach (source :: sources) tag false last? w =
      match source.retrieve tag false w with
      | (.ok answer, w) => (.ended (.ok answer), w)
      | (.error e, w) =>
        if e.isFinal then (.ended (.error e), w)
        else tryEach sources tag false (some e)
          (w.noteFailure ("source " ++ source.typeName ++ " failed for " ++ tag.exampleNeedle) e) :=
  rfl

/-- What a fallback makes of a trial. -/
def Trial.settle (otherwise : Option Content) (name : String) : Trial → Outcome Answer
  | .ended outcome => outcome
  | .exhausted last? =>
    match otherwise, last? with
    | some content, _ => .ok (.content content)
    | none, some e => .error e
    | none, none => .error (.fault (.noSources name))

theorem retrieve_fallback (sources : List (Retriever τ σ)) (otherwise : Option Content)
    (tag : ViewTag) (w : World τ σ) :
    ((fallback sources otherwise).retrieve tag false w).1 =
        (tryEach sources tag false none w).1.settle otherwise tag.name ∧
      ∃ log, ((fallback sources otherwise).retrieve tag false w).2 =
        { (tryEach sources tag false none w).2 with log } := by
  rw [retrieve]
  generalize tryEach sources tag false none w = a
  obtain ⟨outcome | last?, after⟩ := a
  · exact ⟨rfl, after.log, rfl⟩
  · cases otherwise with
    | some content => exact ⟨rfl, _, rfl⟩
    | none =>
        cases last? with
        | some e => exact ⟨rfl, after.log, rfl⟩
        | none => exact ⟨rfl, after.log, rfl⟩

/-! ### What a retrieval leaves -/

/-- A retrieval delivers content, if anything, and leaves a world that looks the same. -/
def Quiet (alike : Scene τ σ → Scene τ σ → Prop) (tag : ViewTag) (retriever : Retriever τ σ) :
    Prop :=
  ∀ w, Answer.Delivers (retriever.retrieve tag false w).1 ∧
    w.LooksLike alike (retriever.retrieve tag false w).2

theorem delivers_settle (otherwise : Option Content) (name : String) {trial : Trial}
    (delivers : ∀ outcome, trial = .ended outcome → Answer.Delivers outcome) :
    Answer.Delivers (trial.settle otherwise name) := by
  rcases trial with outcome | last?
  · exact delivers outcome rfl
  · cases otherwise with
    | some content =>
        rintro _ ⟨⟩
        exact ⟨content, rfl⟩
    | none =>
        cases last? with
        | some e => rintro _ ⟨⟩
        | none => rintro _ ⟨⟩

theorem tryEach_quiet (equivalence : Equivalence alike)
    (each : ∀ source ∈ sources, source.Quiet alike tag) (last? : Option Error) (w : World τ σ) :
    (∀ outcome, (tryEach sources tag false last? w).1 = .ended outcome →
        Answer.Delivers outcome) ∧
      w.LooksLike alike (tryEach sources tag false last? w).2 := by
  induction sources generalizing last? w with
  | nil =>
      rw [tryEach]
      exact ⟨by rintro _ ⟨⟩, equivalence.refl _, rfl⟩
  | cons source sources ih =>
      obtain ⟨quiet, each⟩ := List.forall_mem_cons.mp each
      obtain ⟨delivers, scene, memory⟩ := quiet w
      rw [tryEach_cons]
      generalize source.retrieve tag false w = a at delivers scene memory
      obtain ⟨e | answer, after⟩ := a
      · simp only
        split
        · refine ⟨?_, scene, memory⟩
          rintro _ ⟨⟩
          exact delivers
        · obtain ⟨delivers, scene', memory'⟩ := ih each (some e) _
          rw [World.noteFailure_scene] at scene'
          rw [World.noteFailure_memory] at memory'
          exact ⟨delivers, equivalence.trans scene scene', memory.trans memory'⟩
      · refine ⟨?_, scene, memory⟩
        rintro _ ⟨⟩
        exact delivers

omit [Add τ] in
theorem lookUp_looksLike (equivalence : Equivalence alike) (w : World τ σ) (name key : String) :
    w.LooksLike alike (w.lookUp name key).2 := by
  rw [World.lookUp]
  split
  · exact ⟨equivalence.refl _, rfl⟩
  · exact ⟨equivalence.refl _, rfl⟩

theorem keep_looksLike (equivalence : Equivalence alike) (w : World τ σ) (name key : String)
    (content : Content) (lifetime? : Option τ) :
    w.LooksLike alike (w.keep name key content lifetime?) := by
  rw [World.keep]
  split
  · exact ⟨equivalence.refl _, rfl⟩
  · exact ⟨equivalence.refl _, rfl⟩

theorem Determined.quiet (determined : retriever.Determined alike)
    (equivalence : Equivalence alike) (tag : ViewTag) : retriever.Quiet alike tag := by
  induction determined with
  | static content =>
      intro w
      rw [retrieve]
      refine ⟨?_, equivalence.refl _, rfl⟩
      rintro _ ⟨⟩
      exact ⟨content, rfl⟩
  | function _ leaves =>
      intro w
      rw [retrieve]
      exact ⟨delivers_asContent _, leaves tag w.scene, rfl⟩
  | @fallback sources otherwise _ ih =>
      intro w
      obtain ⟨delivers, looks⟩ := tryEach_quiet equivalence ih none w
      obtain ⟨settled, log, left⟩ := retrieve_fallback sources otherwise tag w
      rw [settled, left]
      exact ⟨delivers_settle otherwise tag.name delivers, looks.scene, looks.memory⟩
  | @caching inner cache lifetime? _ ih =>
      intro w
      have looked := lookUp_looksLike equivalence w cache tag.cacheKey
      rw [retrieve]
      generalize w.lookUp cache tag.cacheKey = a at looked
      obtain ⟨_ | content, between⟩ := a
      · obtain ⟨delivers, scene, memory⟩ := ih between
        simp only
        generalize inner.retrieve tag false between = a at delivers scene memory
        have looks : w.LooksLike alike a.2 :=
          ⟨equivalence.trans looked.scene scene, looked.memory.trans memory⟩
        obtain ⟨e | answer, after⟩ := a
        · exact ⟨by rintro _ ⟨⟩, looks⟩
        · obtain ⟨content, rfl⟩ := delivers answer rfl
          have kept := keep_looksLike equivalence after cache tag.cacheKey content lifetime?
          refine ⟨?_, equivalence.trans looks.scene kept.scene, looks.memory.trans kept.memory⟩
          rintro _ ⟨⟩
          exact ⟨content, rfl⟩
      · refine ⟨?_, looked.scene, looked.memory⟩
        rintro _ ⟨⟩
        exact ⟨content, rfl⟩

/-! ### Answers without caches -/

/-- Sources whose answers are the same are tried alike. -/
theorem tryEach_answers
    (each : ∀ source ∈ sources, ∀ w w', (source.uncached.retrieve tag false w).1 =
      (source.uncached.retrieve tag' false w').1) (last? : Option Error) (w w' : World τ σ) :
    (tryEach (uncachedEach sources) tag false last? w).1 =
      (tryEach (uncachedEach sources) tag' false last? w').1 := by
  induction sources generalizing last? w w' with
  | nil => rfl
  | cons source sources ih =>
      obtain ⟨first, each⟩ := List.forall_mem_cons.mp each
      have first := first w w'
      rw [uncachedEach, tryEach_cons, tryEach_cons]
      generalize source.uncached.retrieve tag false w = a at first
      generalize source.uncached.retrieve tag' false w' = a' at first
      obtain ⟨outcome, after⟩ := a
      obtain ⟨outcome', after'⟩ := a'
      obtain rfl : outcome = outcome' := first
      cases outcome with
      | ok answer => rfl
      | error e =>
          simp only
          split
          · rfl
          · exact ih each (some e) _ _

/-- Without caches, the answer depends on the identity of the tag only. -/
theorem Determined.answers (determined : retriever.Determined alike)
    (same : ViewTag.SameIdentity tag tag') (w w' : World τ σ) :
    (retriever.uncached.retrieve tag false w).1 = (retriever.uncached.retrieve tag' false w').1 := by
  induction determined generalizing w w' with
  | static content => rfl
  | function answers _ =>
      rw [Retriever.uncached, retrieve, retrieve]
      exact congrArg asContent (answers same w.scene w'.scene)
  | fallback _ ih =>
      rw [Retriever.uncached, (retrieve_fallback _ _ tag w).1, (retrieve_fallback _ _ tag' w').1,
        tryEach_answers ih none w w', same.name]
  | caching _ ih => exact ih w w'

/-! ### Answers with caches -/

/-- What is in the caches being as it should, a retriever within a tree answers as it does without
caches, or already as the `whole` tree, and what it leaves in the caches is as it should be. This is
claimed only if its own answer, where it succeeds, is that of the whole tree. -/
def Faithful (P : String → Content → Prop) (whole : Outcome Answer) (tag : ViewTag)
    (retriever : Retriever τ σ) : Prop :=
  ∀ w w', w.Keeps P →
    (∀ answer, (retriever.uncached.retrieve tag false w').1 = .ok answer → whole = .ok answer) →
    ((retriever.retrieve tag false w).1 = (retriever.uncached.retrieve tag false w').1 ∨
      (retriever.retrieve tag false w).1 = whole ∧ ∃ content, whole = .ok (.content content)) ∧
    (retriever.retrieve tag false w).2.Keeps P

variable {P : String → Content → Prop} {whole : Outcome Answer}

theorem tryEach_faithful (each : ∀ source ∈ sources, source.Faithful P whole tag)
    (last? : Option Error) {w : World τ σ} (w' : World τ σ) (keeps : w.Keeps P)
    (reaches : ∀ answer, (tryEach (uncachedEach sources) tag false last? w').1 =
      .ended (.ok answer) → whole = .ok answer) :
    ((tryEach sources tag false last? w).1 = (tryEach (uncachedEach sources) tag false last? w').1 ∨
      (tryEach sources tag false last? w).1 = .ended whole ∧
        ∃ content, whole = .ok (.content content)) ∧
    (tryEach sources tag false last? w).2.Keeps P := by
  induction sources generalizing last? w w' with
  | nil => exact ⟨.inl rfl, keeps⟩
  | cons source sources ih =>
      obtain ⟨first, each⟩ := List.forall_mem_cons.mp each
      have first := first w w' keeps
      rw [uncachedEach, tryEach_cons] at reaches
      rw [uncachedEach, tryEach_cons, tryEach_cons]
      generalize source.retrieve tag false w = a at first
      generalize source.uncached.retrieve tag false w' = a' at first reaches
      obtain ⟨outcome, after⟩ := a
      obtain ⟨own, after'⟩ := a'
      cases own with
      | ok answer =>
          have reached : whole = .ok answer := reaches answer rfl
          obtain ⟨found, keeps⟩ := first fun _ same => reached.trans same
          have same : outcome = .ok answer := found.elim id fun h => h.1.trans reached
          rw [same]
          exact ⟨.inl rfl, keeps⟩
      | error e =>
          obtain ⟨rfl | ⟨rfl, content, rfl⟩, keeps⟩ := first (by rintro _ ⟨⟩)
          · by_cases final : e.isFinal = true
            · simp only [if_pos final, true_or, true_and]
              exact keeps
            · simp only [if_neg final] at reaches ⊢
              exact ih each (some e) _ (keeps.noteFailure _ e) reaches
          · exact ⟨.inr ⟨rfl, content, rfl⟩, keeps⟩

/-- All retrievers in such a tree do so. -/
theorem Determined.faithful (determined : retriever.Determined alike)
    (equivalence : Equivalence alike)
    (worth : ∀ content, P tag.cacheKey content ↔ whole = .ok (.content content)) :
    retriever.Faithful P whole tag := by
  induction determined with
  | static content =>
      intro w w' keeps _
      exact ⟨.inl rfl, keeps⟩
  | function answers _ =>
      intro w w' keeps _
      exact ⟨.inl (congrArg asContent (answers ⟨rfl, rfl, rfl⟩ w.scene w'.scene)), keeps⟩
  | @fallback sources otherwise _ ih =>
      intro w w' keeps reaches
      obtain ⟨settled, log, left⟩ := retrieve_fallback sources otherwise tag w
      rw [Retriever.uncached, (retrieve_fallback _ _ tag w').1] at reaches
      rw [Retriever.uncached, (retrieve_fallback _ _ tag w').1, settled, left]
      obtain ⟨tried, left⟩ := tryEach_faithful ih none w' keeps fun answer ended =>
        reaches answer (by rw [ended, Trial.settle])
      refine ⟨?_, left⟩
      rcases tried with same | ⟨ended, reached⟩
      · exact .inl (by rw [same])
      · exact .inr ⟨by rw [ended, Trial.settle], reached⟩
  | @caching inner cache lifetime? within ih =>
      intro w w' keeps reaches
      obtain ⟨hit, looked⟩ := keeps.lookUp cache tag.cacheKey
      rw [Retriever.uncached] at reaches ⊢
      rw [retrieve]
      generalize w.lookUp cache tag.cacheKey = a at hit looked
      obtain ⟨_ | content, between⟩ := a
      · have delivers := (within.quiet equivalence tag between).1
        obtain ⟨found, left⟩ := ih between w' looked reaches
        simp only
        generalize inner.retrieve tag false between = a at delivers found left
        obtain ⟨e | answer, after⟩ := a
        · exact ⟨found, left⟩
        · obtain ⟨content, rfl⟩ := delivers answer rfl
          have reached : whole = .ok (.content content) :=
            found.elim (fun same => reaches _ same.symm) fun same => same.1.symm
          exact ⟨found, left.keep cache ((worth content).mpr reached) lifetime?⟩
      · have reached : whole = .ok (.content content) := (worth content).mp (hit content rfl)
        exact ⟨.inr ⟨reached.symm, content, reached⟩, looked⟩

/-- The whole tree answers with the caches as without them. -/
theorem Determined.retrieve_eq (determined : retriever.Determined alike)
    (equivalence : Equivalence alike) {w : World τ σ} (w' : World τ σ) (keeps : w.Keeps P)
    (worth : ∀ content, P tag.cacheKey content ↔
      (retriever.uncached.retrieve tag false w').1 = .ok (.content content)) :
    (retriever.retrieve tag false w).1 = (retriever.uncached.retrieve tag false w').1 ∧
      (retriever.retrieve tag false w).2.Keeps P := by
  obtain ⟨same, left⟩ := determined.faithful equivalence worth w w' keeps fun _ answered => answered
  exact ⟨same.elim id fun h => h.1, left⟩

end Retriever

end TagWeave
