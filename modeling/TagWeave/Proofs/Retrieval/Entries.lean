import TagWeave.Proofs.Retrieval.History
import TagWeave.Proofs.Retrieval.Untouched

/-!
# The entries of one cache

What the operations of a world do to the entries of the cache of a name: looking
something up leaves out what has expired, keeping something replaces the entry of its
key, and labels leave out what bears them. Retrievers that use other caches leave the
entries alone.
-/

namespace TagWeave

variable {τ σ : Type}

namespace World

/-- The entries of the cache of a name, expired or not. -/
def entriesIn (world : World τ σ) (name : String) : List (String × CacheEntry τ) :=
  ((world.cache? name).map (·.entries)).getD []

variable {world : World τ σ} {name key : String} {cache : Cache τ} {content : Content}

theorem cache?_setCache (world : World τ σ) (name other : String) (cache : Cache τ) :
    (world.setCache name cache).cache? other =
      if other = name then (world.cache? name).map fun _ => cache else world.cache? other := by
  have names : ((fun c : String × Cache τ => decide (c.1 = other)) ∘
      fun c => if c.1 = name then (name, cache) else c) = fun c => decide (c.1 = other) := by
    funext c
    by_cases named : c.1 = name <;> simp [named]
  rw [cache?, setCache, List.find?_map, names, cache?, cache?]
  by_cases same : other = name
  · subst same
    rw [if_pos rfl]
    cases found : world.caches.find? fun c => decide (c.1 = other) with
    | none => rfl
    | some c =>
        have named : c.1 = other := by simpa using List.find?_some found
        simp [named]
  · rw [if_neg same]
    cases found : world.caches.find? fun c => decide (c.1 = other) with
    | none => rfl
    | some c =>
        have named : c.1 = other := by simpa using List.find?_some found
        simp [named, same]

theorem entriesIn_of_cache? (found : world.cache? name = some cache) :
    world.entriesIn name = cache.entries := by
  rw [entriesIn, found]
  rfl

theorem entriesIn_setCache (found : world.cache? name = some cache) (other : Cache τ) :
    (world.setCache name other).entriesIn name = other.entries := by
  apply entriesIn_of_cache?
  rw [cache?_setCache, if_pos rfl, found]
  rfl

theorem entriesIn_setCache_of_ne {other : String} (differs : name ≠ other) (world : World τ σ)
    (cache : Cache τ) : (world.setCache other cache).entriesIn name = world.entriesIn name := by
  rw [entriesIn, cache?_setCache, if_neg differs, entriesIn]

/-- Labels leave out the entries that bear them. -/
theorem entriesIn_invalidate (world : World τ σ) (name : String) (labels : List String) :
    (world.change name fun cache => (cache.invalidate labels).2).entriesIn name =
      (world.entriesIn name).filter fun e => !Cache.labelled labels e.2.content := by
  rw [change]
  split
  · next absent =>
    rw [entriesIn, absent]
    rfl
  · next cache found =>
    rw [entriesIn_setCache found, entriesIn_of_cache? found]
    rfl

variable [LE τ] [DecidableLE τ]

/-- A lookup only leaves out entries. -/
theorem entriesIn_lookUp (world : World τ σ) (name key : String) :
    ((world.lookUp name key).2.entriesIn name).Sublist (world.entriesIn name) := by
  rw [lookUp]
  split
  · exact .refl _
  · next cache found =>
    rw [entriesIn_setCache found, entriesIn_of_cache? found, Cache.get]
    split
    · exact .refl _
    · split
      · exact List.filter_sublist
      · exact .refl _

/-- What is found is an entry of its key. -/
theorem exists_entry_of_lookUp (h : (world.lookUp name key).1 = some content) :
    ∃ entry, (key, entry) ∈ world.entriesIn name ∧ entry.content = content := by
  rw [lookUp] at h
  split at h
  · cases h
  · next cache found =>
    rw [entriesIn_of_cache? found]
    simp only [Cache.get] at h
    split at h
    · cases h
    · next entry kept =>
      split at h
      · cases h
      · exact ⟨entry, mem_of_find?_key kept, Option.some.inj h⟩

variable [Add τ] {lifetime? : Option τ}

/-- What is kept replaces the entry of its key. -/
theorem mem_entriesIn_keep (keyed : ((world.entriesIn name).map (·.1)).Nodup)
    {e : String × CacheEntry τ} (h : e ∈ (world.keep name key content lifetime?).entriesIn name) :
    (e.1 = key ∧ e.2.content = content) ∨ (e ∈ world.entriesIn name ∧ e.1 ≠ key) := by
  rw [keep] at h
  split at h
  · next absent =>
    rw [entriesIn, absent] at h
    cases h
  · next cache found =>
    rw [entriesIn_of_cache? found] at keyed ⊢
    rw [entriesIn_setCache found] at h
    have purged : (((cache.purge (world.scene.now cache.clock)).entries).map (·.1)).Nodup :=
      keyed.sublist (List.filter_sublist.map _)
    rcases (Cache.mem_put_iff purged).mp h with rfl | ⟨among, differs⟩
    · exact .inl ⟨rfl, rfl⟩
    · exact .inr ⟨(List.mem_filter.mp among).1, differs⟩

theorem nodup_entriesIn_keep (keyed : ((world.entriesIn name).map (·.1)).Nodup) :
    (((world.keep name key content lifetime?).entriesIn name).map (·.1)).Nodup := by
  rw [keep]
  split
  · exact keyed
  · next cache found =>
    rw [entriesIn_of_cache? found] at keyed
    rw [entriesIn_setCache found]
    exact Cache.nodup_put (keyed.sublist (List.filter_sublist.map _))

end World

/-- A retrieval that uses other caches only leaves the entries alone. -/
theorem Retriever.Uses.entriesIn_retrieve [Add τ] [LE τ] [DecidableLE τ] {retriever : Retriever τ σ}
    {name : String} (uses : retriever.Uses (· ≠ name)) (tag : ViewTag) (guarded : Bool)
    (world : World τ σ) :
    (retriever.retrieve tag guarded world).2.entriesIn name = world.entriesIn name := by
  have aside : World.Aside (· ≠ name) fun world : World τ σ => world.entriesIn name :=
    { note := fun _ _ _ _ => rfl
      scene := fun _ _ => rfl
      lookUp := by
        intro other differs world key
        rw [World.lookUp]
        split
        · rfl
        · exact World.entriesIn_setCache_of_ne (Ne.symm differs) ..
      keep := by
        intro other differs world key content lifetime?
        rw [World.keep]
        split
        · rfl
        · exact World.entriesIn_setCache_of_ne (Ne.symm differs) .. }
  exact aside.retrieve uses world

end TagWeave
