import TagWeave.Files.Tree
import TagWeave.Log
import TagWeave.Mustache.Render
import TagWeave.Retrieval.CancelToken

/-!
# The world of a render

What a render reads and changes. Code that the application supplies sees the scene:
the clocks, the token, the files and the application's own state. The caches, the log
and the memory of interpolations are the library's.

Times are of a type `τ`, and the application's state is of a type `σ`.
-/

namespace TagWeave

/-- What the application's code sees and may change. A retrieval that takes long adds to the delay, of
which a unit is longer than any deadline. -/
structure Scene (τ σ : Type) where
  sessionTime : τ
  systemTime : τ
  token? : Option (CancelToken τ) := none
  files : FileTree := {}
  delay : Nat := 0
  state : σ

namespace Scene

variable {τ σ : Type}

/-- The present time of a clock. -/
def now (scene : Scene τ σ) : Clock → τ
  | .session => scene.sessionTime
  | .system => scene.systemTime

/-- Sets the session's clock forward. -/
def advance [Add τ] (scene : Scene τ σ) (time : τ) : Scene τ σ :=
  { scene with sessionTime := scene.sessionTime + time }

/-- Asks to give up what the token stands for. -/
def cancel (scene : Scene τ σ) (reason : String) : Scene τ σ :=
  { scene with token? := scene.token?.map (·.cancel reason) }

/-- Why to give up, if so, as it is noticed at some place. Without a token nothing is given up. -/
def check [LE τ] [DecidableLE τ] (scene : Scene τ σ) (guarded : Bool) (place : String) :
    Option Cancellation :=
  if guarded then scene.token?.bind fun token => token.check (scene.now token.clock) place else none

end Scene

/-- The scene and what the library keeps. -/
structure World (τ σ : Type) where
  scene : Scene τ σ
  caches : List (String × Cache τ) := []
  log : List Log.Record := []
  memory : Mustache.Memory := {}

namespace World

variable {τ σ : Type}

/-- Sets the delay of the scene. -/
def withDelay (world : World τ σ) (delay : Nat) : World τ σ :=
  { world with scene := { world.scene with delay } }

/-- Writes a record to the log. -/
def note (world : World τ σ) (level : Nat) (origin : Log.Origin) (message : String) : World τ σ :=
  { world with log := world.log ++ [⟨level, origin, message⟩] }

/-- Writes to the log what has failed, and why. An error without a wording is not written. -/
def noteFailure (world : World τ σ) (what : String) (e : Error) : World τ σ :=
  match e.told with
  | .ok text => world.note Log.debug .retrieval (what ++ ": " ++ text)
  | .error _ => world

/-- Nothing is written, or something is written to the log. -/
theorem noteFailure_eq_or (world : World τ σ) (what : String) (e : Error) :
    world.noteFailure what e = world ∨
      ∃ message, world.noteFailure what e = world.note Log.debug .retrieval message := by
  rw [noteFailure]
  split
  · exact .inr ⟨_, rfl⟩
  · exact .inl rfl

@[simp] theorem noteFailure_scene (world : World τ σ) (what : String) (e : Error) :
    (world.noteFailure what e).scene = world.scene := by
  obtain same | ⟨_, noted⟩ := world.noteFailure_eq_or what e
  · rw [same]
  · rw [noted]
    rfl

@[simp] theorem noteFailure_caches (world : World τ σ) (what : String) (e : Error) :
    (world.noteFailure what e).caches = world.caches := by
  obtain same | ⟨_, noted⟩ := world.noteFailure_eq_or what e
  · rw [same]
  · rw [noted]
    rfl

@[simp] theorem noteFailure_memory (world : World τ σ) (what : String) (e : Error) :
    (world.noteFailure what e).memory = world.memory := by
  obtain same | ⟨_, noted⟩ := world.noteFailure_eq_or what e
  · rw [same]
  · rw [noted]
    rfl

/-- The cache of a name. -/
def cache? (world : World τ σ) (name : String) : Option (Cache τ) :=
  (world.caches.find? (·.1 = name)).map (·.2)

/-- Replaces the cache of a name, if there is one. -/
def setCache (world : World τ σ) (name : String) (cache : Cache τ) : World τ σ :=
  { world with caches := world.caches.map fun c => if c.1 = name then (name, cache) else c }

variable [Add τ] [LE τ] [DecidableLE τ]

/-- Looks up the content of a key in a cache. -/
def lookUp (world : World τ σ) (name key : String) : Option Content × World τ σ :=
  match world.cache? name with
  | none => (none, world)
  | some cache =>
    match cache.get (world.scene.now cache.clock) key with
    | (content?, cache) => (content?, world.setCache name cache)

/-- Keeps content under a key of a cache. -/
def keep (world : World τ σ) (name key : String) (content : Content) (lifetime? : Option τ) :
    World τ σ :=
  match world.cache? name with
  | none => world
  | some cache =>
    world.setCache name (cache.set (world.scene.now cache.clock) key content lifetime?)

end World

end TagWeave
