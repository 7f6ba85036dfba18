import TagWeave.Proofs.Retrieval.Leaves

/-!
# Visits of retrievers

A tree of retrievers is resolved by visits of retrievers in it. If a chain is opened, its
sources are visited in its place, and if a cache is opened, so is what stands behind it.
Each visit is listed with the world before, the answer, and the world after.

An error after which nothing else is tried ends all of this: its visit is the last one, and
the whole tree fails with it, in the world that the visit left.
-/

namespace TagWeave

/-- Something in a list that is put together stands in one of the parts. -/
theorem cases_of_append_eq {α : Type} {first rest earlier later : List α} {a : α}
    (h : first ++ rest = earlier ++ a :: later) :
    (∃ between, first = earlier ++ a :: between ∧ later = between ++ rest) ∨
      ∃ between, earlier = first ++ between ∧ rest = between ++ a :: later := by
  rcases List.append_eq_append_iff.mp h with behind | ⟨between, left, right⟩
  · exact .inr behind
  · cases between with
    | nil => exact .inr ⟨[], by simpa using left.symm, right.symm⟩
    | cons b between =>
        obtain ⟨rfl, rfl⟩ := List.cons.inj right
        exact .inl ⟨between, left, rfl⟩

variable {τ σ : Type}

/-- A visit of a retriever: the world before, its answer, and the world after. -/
structure Visit (τ σ : Type) where
  retriever : Retriever τ σ
  before : World τ σ
  outcome : Outcome Answer
  after : World τ σ

namespace Retriever

variable [Add τ] [LE τ] [DecidableLE τ]

/-- The visit of a retriever. -/
def visit (retriever : Retriever τ σ) (tag : ViewTag) (guarded : Bool) (world : World τ σ) :
    Visit τ σ :=
  match retriever.retrieve tag guarded world with
  | (outcome, after) => ⟨retriever, world, outcome, after⟩

mutual

/-- The visits by which a tag is resolved: those in the chains and behind the caches that are opened,
and those of other retrievers themselves. -/
def visits (opens : Retriever τ σ → Bool) : Retriever τ σ → ViewTag → Bool → World τ σ →
    List (Visit τ σ)
  | fallback sources otherwise, tag, guarded, world =>
    if opens (fallback sources otherwise) then triedVisits opens sources tag guarded world
    else [(fallback sources otherwise).visit tag guarded world]
  | caching inner cache lifetime?, tag, guarded, world =>
    if opens (caching inner cache lifetime?) then
      match world.lookUp cache tag.cacheKey with
      | (some _, _) => []
      | (none, world) => visits opens inner tag guarded world
    else [(caching inner cache lifetime?).visit tag guarded world]
  | retriever, tag, guarded, world => [retriever.visit tag guarded world]

/-- The visits by which sources are tried. -/
def triedVisits (opens : Retriever τ σ → Bool) : List (Retriever τ σ) → ViewTag → Bool →
    World τ σ → List (Visit τ σ)
  | [], _, _, _ => []
  | source :: sources, tag, guarded, world =>
    match world.scene.check guarded ("fallback <" ++ tag.name ++ ">") with
    | some _ => []
    | none =>
      visits opens source tag guarded world ++
        match tryEach [source] tag guarded none world with
        | (.ended _, _) => []
        | (.exhausted _, world) => triedVisits opens sources tag guarded world

end

/-- Whether every chain and every cache is opened. -/
def everywhere : Retriever τ σ → Bool := fun _ => true

theorem visits_of_isLeaf {retriever : Retriever τ σ} (h : retriever.isLeaf = true)
    (opens : Retriever τ σ → Bool) (tag : ViewTag) (guarded : Bool) (world : World τ σ) :
    retriever.visits opens tag guarded world = [retriever.visit tag guarded world] := by
  cases retriever with
  | fallback => cases h
  | caching => cases h
  | _ => rfl

theorem visits_of_closed {opens : Retriever τ σ → Bool} {retriever : Retriever τ σ}
    (h : opens retriever = false) (tag : ViewTag) (guarded : Bool) (world : World τ σ) :
    retriever.visits opens tag guarded world = [retriever.visit tag guarded world] := by
  cases retriever with
  | fallback sources otherwise => rw [visits, h, if_neg Bool.false_ne_true]
  | caching inner cache lifetime? => rw [visits, h, if_neg Bool.false_ne_true]
  | _ => rfl

/-! ### Trying sources -/

variable {sources : List (Retriever τ σ)} {tag : ViewTag} {guarded : Bool} {world : World τ σ}

/-- Sources are tried after others if those are exhausted. -/
theorem tryEach_append (before after : List (Retriever τ σ)) (tag : ViewTag) (guarded : Bool)
    (last? : Option Error) (world : World τ σ) :
    tryEach (before ++ after) tag guarded last? world =
      match tryEach before tag guarded last? world with
      | (.ended outcome, world) => (.ended outcome, world)
      | (.exhausted last?, world) => tryEach after tag guarded last? world := by
  induction before generalizing last? world with
  | nil => rfl
  | cons source before ih =>
      simp only [List.cons_append, tryEach]
      split
      · rfl
      · split
        · rfl
        · split
          · rfl
          · exact ih ..

/-- What is tried ends with content, or with an error after which nothing else is tried. -/
theorem isFinal_of_tryEach {last? : Option Error} {e : Error} {next : World τ σ}
    (h : tryEach sources tag guarded last? world = (.ended (.error e), next)) :
    e.isFinal = true := by
  induction sources generalizing last? world with
  | nil => cases h
  | cons source sources ih =>
      rw [tryEach] at h
      split at h
      · cases h
        rfl
      · split at h
        · cases h
        · split at h
          · next final =>
            cases h
            exact final
          · exact ih h

/-- Sources that are exhausted leave the last one's failure, after which something else may be
tried. -/
theorem exists_of_tryEach_exhausted (nonempty : sources ≠ []) {last? left? : Option Error}
    {next : World τ σ} (h : tryEach sources tag guarded last? world = (.exhausted left?, next)) :
    ∃ e, left? = some e ∧ e.isFinal = false := by
  induction sources generalizing last? world with
  | nil => exact absurd rfl nonempty
  | cons source sources ih =>
      rw [tryEach] at h
      split at h
      · cases h
      · split at h
        · cases h
        · next e _ _ =>
          split at h
          · cases h
          · next ordinary =>
            cases sources with
            | nil =>
                cases h
                exact ⟨e, rfl, Bool.not_eq_true _ ▸ ordinary⟩
            | cons next sources => exact ih (List.cons_ne_nil next sources) h

theorem triedVisits_append (opens : Retriever τ σ → Bool) (before after : List (Retriever τ σ))
    (tag : ViewTag) (guarded : Bool) (last? : Option Error) (world : World τ σ) :
    triedVisits opens (before ++ after) tag guarded world =
      triedVisits opens before tag guarded world ++
        match tryEach before tag guarded last? world with
        | (.ended _, _) => []
        | (.exhausted _, world) => triedVisits opens after tag guarded world := by
  induction before generalizing last? world with
  | nil => rfl
  | cons source before ih =>
      rw [List.cons_append, triedVisits, triedVisits]
      cases checked : world.scene.check guarded ("fallback <" ++ tag.name ++ ">") with
      | some why => simp [tryEach, checked]
      | none =>
          simp only [tryEach, checked]
          generalize source.retrieve tag guarded world = answered
          obtain ⟨e | answer, next⟩ := answered
          · cases final : e.isFinal with
            | true => simp [final]
            | false =>
                simp only [final, Bool.false_eq_true, if_false]
                rw [ih (some e), List.append_assoc]
          · simp

end Retriever

/-! ### The calls of leaves -/

/-- The visit of a leaf as a call. -/
def Visit.call (tag : ViewTag) (visit : Visit τ σ) : LeafCall τ σ :=
  ⟨tag, visit.before.scene, visit.outcome, visit.after.scene⟩

namespace Retriever

variable [Add τ] [LE τ] [DecidableLE τ] {sources : List (Retriever τ σ)} {tag : ViewTag}
variable {guarded : Bool}

theorem triedCalls_eq (each : ∀ source ∈ sources, ∀ world,
      source.leafCalls tag guarded world = (source.visits everywhere tag guarded world).map (·.call tag))
    (world : World τ σ) : triedCalls sources tag guarded world =
      (triedVisits everywhere sources tag guarded world).map (·.call tag) := by
  induction sources generalizing world with
  | nil => rfl
  | cons source sources ih =>
      obtain ⟨first, others⟩ := List.forall_mem_cons.mp each
      rw [triedCalls, triedVisits]
      cases world.scene.check guarded ("fallback <" ++ tag.name ++ ">") with
      | some why => rfl
      | none =>
          simp only [List.map_append, first]
          generalize tryEach [source] tag guarded none world = tried
          obtain ⟨outcome | last?, next⟩ := tried
          · rfl
          · exact congrArg _ (ih others next)

/-- Each of these visits is a call. -/
theorem leafCalls_eq (retriever : Retriever τ σ) (tag : ViewTag) (guarded : Bool)
    (world : World τ σ) : retriever.leafCalls tag guarded world =
      (retriever.visits everywhere tag guarded world).map (·.call tag) := by
  induction retriever using tree_induction generalizing world with
  | fallback sources otherwise each => exact triedCalls_eq each world
  | caching inner cache lifetime? within =>
      rw [leafCalls, visits, everywhere, if_pos rfl]
      generalize world.lookUp cache tag.cacheKey = found
      obtain ⟨content | content, between⟩ := found
      · exact within between
      · rfl
  | leaf retriever h _ =>
      rw [leafCalls_of_isLeaf h, visits_of_isLeaf h]
      rfl

/-! ### Errors that end everything -/

/-- A visit that ends with an error after which nothing else is tried is the last one, and the
retriever fails with this error, in the world that the visit left. -/
def PassesFinal (opens : Retriever τ σ → Bool) (retriever : Retriever τ σ) (tag : ViewTag) : Prop :=
  ∀ guarded world earlier visit later e,
    retriever.visits opens tag guarded world = earlier ++ visit :: later →
    visit.outcome = .error e → e.isFinal = true →
      later = [] ∧ retriever.retrieve tag guarded world = (.error e, visit.after)

theorem passesFinal_of_single {opens : Retriever τ σ → Bool} {retriever : Retriever τ σ}
    (single : ∀ guarded world, retriever.visits opens tag guarded world =
      [retriever.visit tag guarded world]) : retriever.PassesFinal opens tag := by
  intro guarded world earlier visit later e split raised _
  rw [single] at split
  cases earlier with
  | nil =>
      obtain ⟨rfl, rfl⟩ := List.cons.inj split
      exact ⟨rfl, Prod.ext raised rfl⟩
  | cons _ earlier => simp at split

theorem passesFinal_tried {opens : Retriever τ σ → Bool} (each : ∀ source ∈ sources, source.PassesFinal opens tag)
    {world : World τ σ} {earlier later : List (Visit τ σ)} {visit : Visit τ σ} {e : Error}
    (split : triedVisits opens sources tag guarded world = earlier ++ visit :: later)
    (raised : visit.outcome = .error e) (final : e.isFinal = true) (last? : Option Error) :
    later = [] ∧ tryEach sources tag guarded last? world = (.ended (.error e), visit.after) := by
  induction sources generalizing world earlier last? with
  | nil => simp [triedVisits] at split
  | cons source sources ih =>
      obtain ⟨first, others⟩ := List.forall_mem_cons.mp each
      rw [triedVisits] at split
      cases checked : world.scene.check guarded ("fallback <" ++ tag.name ++ ">") with
      | some why => simp [checked] at split
      | none =>
          simp only [checked] at split
          rcases cases_of_append_eq split with ⟨between, here, rest⟩ | ⟨between, -, behind⟩
          · obtain ⟨rfl, failed⟩ := first _ _ _ _ _ _ here raised final
            simp only [tryEach, checked, failed, final, if_true] at rest
            refine ⟨rest, ?_⟩
            simp only [tryEach, checked, failed, final, if_true]
          · simp only [tryEach, checked] at behind ⊢
            generalize source.retrieve tag guarded world = answered at behind ⊢
            obtain ⟨e' | answer, next⟩ := answered
            · cases final' : e'.isFinal with
              | true => simp [final'] at behind
              | false =>
                  simp only [final', Bool.false_eq_true, if_false] at behind ⊢
                  exact ih others behind _
            · simp at behind

/-- Every tree passes on the errors that end everything. -/
theorem passesFinal (opens : Retriever τ σ → Bool) (retriever : Retriever τ σ) (tag : ViewTag) :
    retriever.PassesFinal opens tag := by
  induction retriever using tree_induction with
  | fallback sources otherwise each =>
      cases opened : opens (fallback sources otherwise) with
      | false => exact passesFinal_of_single fun _ _ => visits_of_closed opened ..
      | true =>
          intro guarded world earlier visit later e split raised final
          rw [visits, if_pos opened] at split
          obtain ⟨none, ended⟩ := passesFinal_tried each split raised final Option.none
          refine ⟨none, ?_⟩
          rw [retrieve, ended]
  | caching inner cache lifetime? within =>
      cases opened : opens (caching inner cache lifetime?) with
      | false => exact passesFinal_of_single fun _ _ => visits_of_closed opened ..
      | true =>
          intro guarded world earlier visit later e split raised final
          rw [visits, if_pos opened] at split
          rw [retrieve]
          generalize world.lookUp cache tag.cacheKey = found at split
          obtain ⟨content | content, between⟩ := found
          · obtain ⟨none, failed⟩ := within guarded between _ _ _ _ split raised final
            exact ⟨none, by simp only [failed]⟩
          · simp at split
  | leaf retriever h _ => exact passesFinal_of_single fun _ _ => visits_of_isLeaf h ..

end Retriever

end TagWeave
