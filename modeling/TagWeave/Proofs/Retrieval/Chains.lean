import TagWeave.Proofs.Retrieval.Visits

/-!
# Chains in chains

A chain of sources that stands among the sources of another one may as well be written
out there. If it has no content of its own for the case that all its sources fail, the
answer is the same, and the same sources are asked in the same order, each in the world in
which it would be asked in the longer chain. Only the log tells of one failure more: that of
the chain as a whole.

What is in the log has no influence on any retrieval.
-/

namespace TagWeave

variable {τ σ : Type}

/-- A world without its log. -/
def World.unlogged (world : World τ σ) : World τ σ := { world with log := [] }

/-- A visit, whatever the logs are before and after it. -/
def Visit.unlogged (visit : Visit τ σ) : Visit τ σ :=
  { visit with before := visit.before.unlogged, after := visit.after.unlogged }

/-- Two results are the same, in worlds that differ at most in their logs. -/
def SameUnlogged {α : Type} (a a' : α × World τ σ) : Prop :=
  a.1 = a'.1 ∧ a.2.unlogged = a'.2.unlogged

theorem SameUnlogged.exists_eq {α : Type} {a a' : α × World τ σ} (h : SameUnlogged a a') :
    ∃ x w w', a = (x, w) ∧ a' = (x, w') ∧ w.unlogged = w'.unlogged :=
  ⟨a.1, a.2, a'.2, rfl, Prod.ext h.1.symm rfl, h.2⟩

namespace World

variable {w w' : World τ σ}

theorem unlogged_eq_iff : w.unlogged = w'.unlogged ↔ ∃ log, w' = { w with log } := by
  constructor
  · intro same
    refine ⟨w'.log, ?_⟩
    have restored := congrArg (fun world : World τ σ => { world with log := w'.log }) same
    exact restored.symm
  · rintro ⟨log, rfl⟩
    rfl

variable [LE τ] [DecidableLE τ]

theorem lookUp_unlogged (same : w.unlogged = w'.unlogged) (name key : String) :
    SameUnlogged (w.lookUp name key) (w'.lookUp name key) := by
  obtain ⟨log, rfl⟩ := unlogged_eq_iff.mp same
  rw [lookUp, lookUp]
  simp only [cache?]
  split
  · exact ⟨rfl, rfl⟩
  · exact ⟨rfl, rfl⟩

theorem keep_unlogged [Add τ] (same : w.unlogged = w'.unlogged) (name key : String)
    (content : Content) (lifetime? : Option τ) :
    (w.keep name key content lifetime?).unlogged = (w'.keep name key content lifetime?).unlogged := by
  obtain ⟨log, rfl⟩ := unlogged_eq_iff.mp same
  rw [keep, keep]
  simp only [cache?]
  split
  · rfl
  · rfl

omit [LE τ] [DecidableLE τ] in
theorem noteFailure_unlogged (w : World τ σ) (what : String) (e : Error) :
    (w.noteFailure what e).unlogged = w.unlogged := by
  rcases w.noteFailure_eq_or what e with eq | ⟨_, eq⟩
  · rw [eq]
  · rw [eq]
    rfl

end World

namespace Retriever

variable [Add τ] [LE τ] [DecidableLE τ] {sources : List (Retriever τ σ)} {tag : ViewTag}

/-- The log has no influence on a retrieval. -/
def IgnoresLog (retriever : Retriever τ σ) (tag : ViewTag) : Prop :=
  ∀ guarded w w', w.unlogged = w'.unlogged →
    SameUnlogged (retriever.retrieve tag guarded w) (retriever.retrieve tag guarded w')

theorem tryEach_unlogged (each : ∀ source ∈ sources, source.IgnoresLog tag) (guarded : Bool)
    (last? : Option Error) {w w' : World τ σ} (same : w.unlogged = w'.unlogged) :
    SameUnlogged (tryEach sources tag guarded last? w) (tryEach sources tag guarded last? w') := by
  induction sources generalizing last? w w' with
  | nil => exact ⟨rfl, same⟩
  | cons source sources ih =>
      obtain ⟨first, others⟩ := List.forall_mem_cons.mp each
      obtain ⟨outcome, next, next', asked, asked', after⟩ := (first guarded w w' same).exists_eq
      obtain ⟨log, rfl⟩ := World.unlogged_eq_iff.mp same
      simp only [tryEach, asked, asked']
      split
      · exact ⟨rfl, same⟩
      · cases outcome with
        | ok answer => exact ⟨rfl, after⟩
        | error e =>
            simp only
            split
            · exact ⟨rfl, after⟩
            · apply ih others
              rw [World.noteFailure_unlogged, World.noteFailure_unlogged, after]

/-- What a chain makes of trying its sources. -/
theorem fallback_unlogged {sources' : List (Retriever τ σ)} {guarded : Bool} {w w' : World τ σ}
    (tried : SameUnlogged (tryEach sources tag guarded none w) (tryEach sources' tag guarded none w'))
    (otherwise : Option Content) :
    SameUnlogged ((fallback sources otherwise).retrieve tag guarded w)
      ((fallback sources' otherwise).retrieve tag guarded w') := by
  obtain ⟨trial, next, next', left, right, after⟩ := tried.exists_eq
  rw [retrieve, retrieve, left, right]
  obtain outcome | last? := trial
  · exact ⟨rfl, after⟩
  · cases otherwise with
    | some content => exact ⟨rfl, after⟩
    | none =>
        cases last? with
        | some e => exact ⟨rfl, after⟩
        | none => exact ⟨rfl, after⟩

theorem ignoresLog (retriever : Retriever τ σ) (tag : ViewTag) : retriever.IgnoresLog tag := by
  induction retriever using tree_induction with
  | fallback sources otherwise each =>
      intro guarded w w' same
      exact fallback_unlogged (tryEach_unlogged each guarded none same) otherwise
  | caching inner cache lifetime? within =>
      intro guarded w w' same
      obtain ⟨content?, between, between', found, found', looked⟩ :=
        (World.lookUp_unlogged same cache tag.cacheKey).exists_eq
      rw [retrieve, retrieve, found, found']
      cases content? with
      | some content => exact ⟨rfl, looked⟩
      | none =>
          obtain ⟨outcome, next, next', asked, asked', after⟩ :=
            (within guarded between between' looked).exists_eq
          simp only [asked, asked']
          cases outcome with
          | error e => exact ⟨rfl, after⟩
          | ok answer =>
              simp only
              split
              · exact ⟨rfl, after⟩
              · exact ⟨rfl, World.keep_unlogged after ..⟩
  | leaf retriever h within =>
      intro guarded w w' same
      cases retriever with
      | fallback => cases h
      | caching => cases h
      | before act inner =>
          obtain ⟨log, rfl⟩ := World.unlogged_eq_iff.mp same
          exact within act inner rfl guarded _ _ (World.unlogged_eq_iff.mpr ⟨log, rfl⟩)
      | stored store =>
          obtain ⟨log, rfl⟩ := World.unlogged_eq_iff.mp same
          simp only [retrieve]
          split
          · exact ⟨rfl, rfl⟩
          · exact ⟨rfl, rfl⟩
      | _ =>
          obtain ⟨log, rfl⟩ := World.unlogged_eq_iff.mp same
          exact ⟨rfl, rfl⟩

/-- What is in the log has no influence on what is visited either. -/
theorem triedVisits_unlogged {opens : Retriever τ σ → Bool} {guarded : Bool}
    (each : ∀ source ∈ sources, ∀ {w w'}, w.unlogged = w'.unlogged →
      (source.visits opens tag guarded w).map Visit.unlogged =
        (source.visits opens tag guarded w').map Visit.unlogged)
    {w w' : World τ σ} (same : w.unlogged = w'.unlogged) :
    (triedVisits opens sources tag guarded w).map Visit.unlogged =
      (triedVisits opens sources tag guarded w').map Visit.unlogged := by
  induction sources generalizing w w' with
  | nil => rfl
  | cons source sources ih =>
      obtain ⟨first, others⟩ := List.forall_mem_cons.mp each
      obtain ⟨trial, next, next', left, right, after⟩ :=
        (tryEach_unlogged (List.forall_mem_singleton.mpr (source.ignoresLog tag)) guarded none
          same).exists_eq
      have here := first same
      obtain ⟨log, rfl⟩ := World.unlogged_eq_iff.mp same
      rw [triedVisits, triedVisits]
      simp only [left, right]
      split
      · rfl
      · rw [List.map_append, List.map_append, here]
        obtain outcome | last? := trial
        · rfl
        · exact congrArg _ (ih others after)

theorem visits_unlogged (opens : Retriever τ σ → Bool) (retriever : Retriever τ σ) (tag : ViewTag)
    (guarded : Bool) {w w' : World τ σ} (same : w.unlogged = w'.unlogged) :
    (retriever.visits opens tag guarded w).map Visit.unlogged =
      (retriever.visits opens tag guarded w').map Visit.unlogged := by
  have itself : ∀ retriever : Retriever τ σ, ∀ {w w'}, w.unlogged = w'.unlogged →
      [retriever.visit tag guarded w].map Visit.unlogged =
        [retriever.visit tag guarded w'].map Visit.unlogged := by
    intro retriever w w' same
    obtain ⟨outcome, next, next', asked, asked', after⟩ :=
      (retriever.ignoresLog tag guarded w w' same).exists_eq
    simp only [visit, asked, asked', List.map_cons, List.map_nil, Visit.unlogged, same, after]
  induction retriever using tree_induction generalizing w w' with
  | fallback sources otherwise each =>
      cases opened : opens (fallback sources otherwise) with
      | false =>
          rw [visits_of_closed opened, visits_of_closed opened]
          exact itself _ same
      | true =>
          rw [visits, visits, if_pos opened, if_pos opened]
          exact triedVisits_unlogged each same
  | caching inner cache lifetime? within =>
      cases opened : opens (caching inner cache lifetime?) with
      | false =>
          rw [visits_of_closed opened, visits_of_closed opened]
          exact itself _ same
      | true =>
          obtain ⟨content?, between, between', found, found', looked⟩ :=
            (World.lookUp_unlogged same cache tag.cacheKey).exists_eq
          rw [visits, visits, if_pos opened, if_pos opened, found, found']
          cases content? with
          | some content => rfl
          | none => exact within looked
  | leaf retriever h _ =>
      rw [visits_of_isLeaf h, visits_of_isLeaf h]
      exact itself retriever same

/-! ### A chain among the sources -/

/-- A chain that is tried before other sources comes to the same as its sources do. -/
theorem tryEach_chain (nonempty : sources ≠ []) (after : List (Retriever τ σ)) (tag : ViewTag)
    (guarded : Bool) (last? : Option Error) (world : World τ σ) :
    SameUnlogged (tryEach (fallback sources none :: after) tag guarded last? world)
      (tryEach (sources ++ after) tag guarded last? world) := by
  have forgets : tryEach sources tag guarded last? world =
      tryEach sources tag guarded none world := by
    cases sources with
    | nil => exact absurd rfl nonempty
    | cons => rfl
  rw [tryEach_append, forgets, tryEach, retrieve]
  cases checked : world.scene.check guarded ("fallback <" ++ tag.name ++ ">") with
  | some why =>
      -- the first source of the chain is checked at the same place
      obtain ⟨first, rest, rfl⟩ := List.exists_cons_of_ne_nil nonempty
      simp only [tryEach, checked]
      exact ⟨rfl, rfl⟩
  | none =>
      cases tried : tryEach sources tag guarded none world with
      | mk trial next =>
          obtain outcome | left? := trial
          · cases outcome with
            | ok answer => exact ⟨rfl, rfl⟩
            | error e =>
                simp only [isFinal_of_tryEach tried, if_true]
                exact ⟨rfl, rfl⟩
          · obtain ⟨e, rfl, ordinary⟩ := exists_of_tryEach_exhausted nonempty tried
            simp only [ordinary, Bool.false_eq_true, if_false]
            exact tryEach_unlogged (fun source _ => source.ignoresLog tag) guarded _
              (World.noteFailure_unlogged ..)

theorem triedVisits_chain {opens : Retriever τ σ → Bool}
    (opened : opens (fallback sources none) = true) (nonempty : sources ≠ [])
    (after : List (Retriever τ σ)) (tag : ViewTag) (guarded : Bool) (world : World τ σ) :
    (triedVisits opens (fallback sources none :: after) tag guarded world).map Visit.unlogged =
      (triedVisits opens (sources ++ after) tag guarded world).map Visit.unlogged := by
  have chained := tryEach_chain nonempty [] tag guarded none world
  rw [List.append_nil] at chained
  obtain ⟨trial, next, next', left, right, same⟩ := chained.exists_eq
  rw [triedVisits_append opens sources after tag guarded none, triedVisits, left, right]
  cases checked : world.scene.check guarded ("fallback <" ++ tag.name ++ ">") with
  | some why =>
      obtain ⟨first, rest, rfl⟩ := List.exists_cons_of_ne_nil nonempty
      simp only [tryEach, checked] at right
      obtain ⟨rfl, -⟩ := Prod.mk.inj right
      simp only [triedVisits, checked]
      rfl
  | none =>
      simp only [visits, if_pos opened, List.map_append]
      obtain outcome | last? := trial
      · rfl
      · apply congrArg
        exact triedVisits_unlogged (fun source _ => source.visits_unlogged opens tag guarded) same

/-- A chain among the sources of another one, without content of its own for the case that all its
sources fail, may as well be written out: the answer is the same, and if the chain is opened,
the same retrievers are visited in the same order, each with the same answer, whatever else
is opened. The worlds that they meet and leave differ at most in their logs. -/
theorem chain_written_out (before after : List (Retriever τ σ)) (nonempty : sources ≠ [])
    (otherwise : Option Content) (tag : ViewTag) (guarded : Bool) (world : World τ σ) :
    let nested := before ++ [fallback sources none] ++ after
    let flat := before ++ sources ++ after
    SameUnlogged ((fallback nested otherwise).retrieve tag guarded world)
        ((fallback flat otherwise).retrieve tag guarded world) ∧
      ∀ opens : Retriever τ σ → Bool, opens (fallback sources none) = true →
        (triedVisits opens nested tag guarded world).map Visit.unlogged =
          (triedVisits opens flat tag guarded world).map Visit.unlogged := by
  intro nested flat
  constructor
  · apply fallback_unlogged
    simp only [nested, flat]
    rw [List.append_assoc, List.append_assoc, tryEach_append before, tryEach_append before]
    split
    · exact ⟨rfl, rfl⟩
    · exact tryEach_chain nonempty after tag guarded _ _
  · intro opens opened
    simp only [nested, flat]
    rw [List.append_assoc, List.append_assoc, triedVisits_append opens before _ tag guarded none,
      triedVisits_append opens before _ tag guarded none, List.map_append, List.map_append]
    split
    · rfl
    · exact congrArg _ (triedVisits_chain opened nonempty after tag guarded _)

/-- A drawer, which may hold something. Looking into it takes a minute and is counted. -/
def drawer (held : Option String) : Retriever Nat Nat :=
  .leaf fun tag _ scene =>
    ((held.map fun text => .content { text }).elim (.error (.fault (.noSources tag.name))) .ok,
      { scene.advance 1 with state := scene.state + 1 })

/-- A room in which one has two minutes. -/
def room : World Nat Nat where
  scene := { sessionTime := 0, systemTime := 0, token? := some { deadline? := some 2 }, state := 0 }

/-- There is time for a drawer of its own and the first one of a chest. The search is given up at
the second one, as it would be if the drawers did not make a chest. -/
theorem drawers_written_out :
    [drawer none, drawer (some "key")] ≠ [] ∧
      let nested := [drawer none] ++ [fallback [drawer none, drawer (some "key")] none] ++
        [drawer (some "lock")]
      let flat := [drawer none] ++ [drawer none, drawer (some "key")] ++ [drawer (some "lock")]
      ((fallback flat (some { text := "bell" })).retrieve { name := "open" } true room).1 =
          .error (.cancelled (.deadline "fallback <open>")) ∧
        SameUnlogged
          ((fallback nested (some { text := "bell" })).retrieve { name := "open" } true room)
          ((fallback flat (some { text := "bell" })).retrieve { name := "open" } true room) ∧
        (triedVisits everywhere flat { name := "open" } true room).length = 2 ∧
        everywhere (fallback [drawer none, drawer (some "key")] none) = true ∧
        (triedVisits everywhere nested { name := "open" } true room).map Visit.unlogged =
          (triedVisits everywhere flat { name := "open" } true room).map Visit.unlogged := by
  have nonempty : [drawer none, drawer (some "key")] ≠ [] := by simp
  obtain ⟨same, visited⟩ := chain_written_out [drawer none] [drawer (some "lock")] nonempty
    (some { text := "bell" }) { name := "open" } true room
  exact ⟨nonempty, rfl, same, rfl, rfl, visited everywhere rfl⟩

end Retriever

end TagWeave
