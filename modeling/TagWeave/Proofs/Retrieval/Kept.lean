import TagWeave.Proofs.Found
import TagWeave.Retrieval.World

/-!
# What caches keep

A property of entries that holds of everything in the caches goes on to do so, whatever
is looked up, dropped or expires, as long as nothing else is set than what has the
property too. What is found in a cache then has the property.
-/

namespace TagWeave

variable {τ σ : Type} {P : String → Content → Prop}

namespace Cache

/-- Each entry of the cache has the property, expired or not. -/
def Keeps (P : String → Content → Prop) (cache : Cache τ) : Prop :=
  ∀ entry ∈ cache.entries, P entry.1 entry.2.content

variable {cache : Cache τ}

theorem keeps_of_empty (h : cache.entries = []) : cache.Keeps P := by
  intro entry hentry
  rw [h] at hentry
  cases hentry

/-- Whatever is left of the entries has the property. -/
theorem Keeps.filter (keeps : cache.Keeps P) (left : String × CacheEntry τ → Bool) :
    Keeps P { cache with entries := cache.entries.filter left } :=
  fun entry hentry => keeps entry (List.mem_filter.mp hentry).1

theorem Keeps.delete (keeps : cache.Keeps P) (key : String) : (cache.delete key).Keeps P :=
  keeps.filter _

theorem keeps_clear (cache : Cache τ) : cache.clear.Keeps P := keeps_of_empty rfl

theorem Keeps.invalidate (keeps : cache.Keeps P) (labels : List String) :
    (cache.invalidate labels).2.Keeps P := keeps.filter _

theorem Keeps.entry? (keeps : cache.Keeps P) {key : String} {entry : CacheEntry τ}
    (found : cache.entry? key = some entry) : P key entry.content :=
  keeps (key, entry) (mem_of_find?_key found)

theorem mem_put {entries : List (String × CacheEntry τ)} {key : String} {entry : CacheEntry τ}
    {e : String × CacheEntry τ} (h : e ∈ put entries key entry) : e = (key, entry) ∨ e ∈ entries := by
  induction entries with
  | nil => exact .inl (List.mem_singleton.mp h)
  | cons first rest ih =>
      rw [put] at h
      split at h
      · rcases List.mem_cons.mp h with rfl | h
        · exact .inl rfl
        · exact .inr (List.mem_cons_of_mem _ h)
      · rcases List.mem_cons.mp h with rfl | h
        · exact .inr (List.mem_cons_self ..)
        · exact (ih h).imp_right (List.mem_cons_of_mem _)

variable [LE τ] [DecidableLE τ]

theorem Keeps.get (keeps : cache.Keeps P) (now : τ) (key : String) :
    (∀ content, (cache.get now key).1 = some content → P key content) ∧
      (cache.get now key).2.Keeps P := by
  rw [Cache.get]
  split
  · exact ⟨by simp, keeps⟩
  · next entry found =>
    split
    · exact ⟨by simp, keeps.delete key⟩
    · refine ⟨?_, keeps⟩
      rintro content ⟨⟩
      exact keeps.entry? found

theorem Keeps.set [Add τ] (keeps : cache.Keeps P) (now : τ) {key : String} {content : Content}
    (h : P key content) (lifetime? : Option τ) : (cache.set now key content lifetime?).Keeps P := by
  intro e he
  rcases mem_put he with rfl | he
  · exact h
  · exact keeps.filter _ e he

end Cache

namespace World

/-- Each entry of each cache has the property. -/
def Keeps (P : String → Content → Prop) (world : World τ σ) : Prop :=
  ∀ cache ∈ world.caches, cache.2.Keeps P

variable {world : World τ σ}

theorem Keeps.cache? (keeps : world.Keeps P) {name : String} {cache : Cache τ}
    (found : world.cache? name = some cache) : cache.Keeps P := by
  obtain ⟨named, there, rfl⟩ := Option.map_eq_some_iff.mp found
  exact keeps named (List.mem_of_find?_eq_some there)

theorem Keeps.setCache (keeps : world.Keeps P) (name : String) {cache : Cache τ}
    (h : cache.Keeps P) : (world.setCache name cache).Keeps P := by
  intro c hc
  obtain ⟨c', hc', rfl⟩ := List.mem_map.mp hc
  split
  · exact h
  · exact keeps c' hc'

theorem Keeps.noteFailure (keeps : world.Keeps P) (what : String) (e : Error) :
    (world.noteFailure what e).Keeps P := by
  rw [Keeps, noteFailure_caches]
  exact keeps

/-- Changes the cache of a name, if there is one. -/
def change (world : World τ σ) (name : String) (how : Cache τ → Cache τ) : World τ σ :=
  match world.cache? name with
  | none => world
  | some cache => world.setCache name (how cache)

theorem Keeps.change (keeps : world.Keeps P) (name : String) {how : Cache τ → Cache τ}
    (kept : ∀ cache, cache.Keeps P → (how cache).Keeps P) :
    (world.change name how).Keeps P := by
  rw [World.change]
  split
  · exact keeps
  · next cache found => exact keeps.setCache name (kept cache (keeps.cache? found))

theorem scene_change (world : World τ σ) (name : String) (how : Cache τ → Cache τ) :
    (world.change name how).scene = world.scene := by
  rw [change]
  split
  · rfl
  · rfl

theorem memory_change (world : World τ σ) (name : String) (how : Cache τ → Cache τ) :
    (world.change name how).memory = world.memory := by
  rw [change]
  split
  · rfl
  · rfl

variable [LE τ] [DecidableLE τ]

/-- What is looked up has the property. -/
theorem Keeps.lookUp (keeps : world.Keeps P) (name key : String) :
    (∀ content, (world.lookUp name key).1 = some content → P key content) ∧
      (world.lookUp name key).2.Keeps P := by
  rw [World.lookUp]
  split
  · exact ⟨by simp, keeps⟩
  · next cache found =>
    obtain ⟨hit, left⟩ := (keeps.cache? found).get (world.scene.now cache.clock) key
    exact ⟨hit, keeps.setCache name left⟩

/-- Only what has the property is kept. -/
theorem Keeps.keep [Add τ] (keeps : world.Keeps P) (name : String) {key : String} {content : Content}
    (h : P key content) (lifetime? : Option τ) :
    (world.keep name key content lifetime?).Keeps P := by
  rw [World.keep]
  split
  · exact keeps
  · next cache found => exact keeps.setCache name ((keeps.cache? found).set _ h lifetime?)

end World

end TagWeave
