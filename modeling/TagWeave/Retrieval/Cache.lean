import TagWeave.ViewTag.Basic

/-!
# Caches of content

A cache keeps content by key, each entry until its time of expiry. An entry whose time
has come no longer counts, but may stay in place until some operation removes it:
looking it up, setting any key, or counting. Labels, too, remove entries, and count
those that have expired but are still in place.

Times are of any type that can be added and compared. The operations are given the
present time.
-/

namespace TagWeave

/-- The clocks that times are read from: one that the application sets, and the system's. -/
inductive Clock where
  | session
  | system
  deriving DecidableEq, Repr

/-- An entry of a cache. -/
structure CacheEntry (τ : Type) where
  content : Content
  expiry? : Option τ
  deriving Repr

/-- Entries by key, the lifetime that entries have by default, and the clock that decides when they
expire. Each key occurs once. -/
structure Cache (τ : Type) where
  lifetime? : Option τ := none
  clock : Clock := .session
  entries : List (String × CacheEntry τ) := []
  deriving Repr

variable {τ : Type} [Add τ] [LE τ] [DecidableLE τ]

/-- Whether the time of an entry has come. -/
def CacheEntry.expired (entry : CacheEntry τ) (now : τ) : Bool :=
  match entry.expiry? with
  | some expiry => decide (expiry ≤ now)
  | none => false

namespace Cache

/-- What is kept under a key, expired or not. -/
def entry? (cache : Cache τ) (key : String) : Option (CacheEntry τ) :=
  (cache.entries.find? (·.1 = key)).map (·.2)

/-- Removes the entry of a key. -/
def delete (cache : Cache τ) (key : String) : Cache τ :=
  { cache with entries := cache.entries.filter (·.1 ≠ key) }

/-- Removes all entries. -/
def clear (cache : Cache τ) : Cache τ := { cache with entries := [] }

/-- Removes the entries whose time has come. -/
def purge (cache : Cache τ) (now : τ) : Cache τ :=
  { cache with entries := cache.entries.filter fun e => !e.2.expired now }

/-- Looks up the content of a key, and removes an entry that turns out to have expired. -/
def get (cache : Cache τ) (now : τ) (key : String) : Option Content × Cache τ :=
  match cache.entry? key with
  | none => (none, cache)
  | some entry => if entry.expired now then (none, cache.delete key) else (some entry.content, cache)

/-- When an entry that is set now expires. A lifetime given for it replaces the default one. -/
def expiryAt (cache : Cache τ) (now : τ) (lifetime? : Option τ) : Option τ :=
  (lifetime?.or cache.lifetime?).map (now + ·)

/-- Replaces the entry of a key, or adds one. -/
def put (entries : List (String × CacheEntry τ)) (key : String) (entry : CacheEntry τ) :
    List (String × CacheEntry τ) :=
  match entries with
  | [] => [(key, entry)]
  | e :: rest => if e.1 = key then (key, entry) :: rest else e :: put rest key entry

/-- Keeps content under a key. -/
def set (cache : Cache τ) (now : τ) (key : String) (content : Content) (lifetime? : Option τ := none) :
    Cache τ :=
  let purged := cache.purge now
  { purged with entries := put purged.entries key ⟨content, cache.expiryAt now lifetime?⟩ }

/-- Whether content has one of some labels. -/
def labelled (labels : List String) (content : Content) : Bool := content.labels.any labels.contains

/-- Removes the entries with one of some labels, and counts them. -/
def invalidate (cache : Cache τ) (labels : List String) : Nat × Cache τ :=
  ((cache.entries.filter fun e => labelled labels e.2.content).length,
    { cache with entries := cache.entries.filter fun e => !labelled labels e.2.content })

/-- Counts the entries, after removing those whose time has come. -/
def size (cache : Cache τ) (now : τ) : Nat × Cache τ :=
  let purged := cache.purge now
  (purged.entries.length, purged)

/-- The keys of the entries, expired or not. -/
def keys (cache : Cache τ) : List String := cache.entries.map (·.1)

end Cache

end TagWeave
