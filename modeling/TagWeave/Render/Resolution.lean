import TagWeave.Registry
import TagWeave.Render.Passes

/-!
# Resolving the tags of a pass

The tags of a pass are resolved one after the other, and the first failure ends the
pass. A pool of workers begins the tasks for them in the order of the tags. The tasks
end in some order; the first failure in this order is that of the pass, and tasks that
have not been begun by then are cancelled. The contents are put back at the places of
their tags.

If the render has a deadline, a pool waits for no task that ends after it.
-/

namespace TagWeave

variable {τ σ : Type}

/-- The tag that an error is about. -/
def ViewTag.site (tag : ViewTag) : Site := ⟨tag.name, tag.exampleNeedle, tag.fingerprint⟩

/-- What becomes of an error that a retriever ends with. What asking for its wording fails with takes
its place. -/
def Error.ofRetrieval (site : Site) (e : Error) : Error :=
  if e.isFinal then e
  else
    match e.told with
    | .ok _ => .retrieval site e
    | .error failure => .fault failure

section

variable [Add τ] [LE τ] [DecidableLE τ]

/-- Resolves a tag by the retriever that is registered for it. -/
def Registry.resolve (registry : Registry τ σ) (guarded : Bool) (tag : ViewTag) (world : World τ σ) :
    Outcome Content × World τ σ :=
  match world.scene.check guarded ("resolving <" ++ tag.name ++ ">") with
  | some why => (.error (.cancelled why), world)
  | none =>
    match registry.find? tag.name with
    | none => (.error (.unregistered tag.site), world)
    | some retriever =>
      match retriever.retrieve tag guarded world with
      | (.error e, world) => (.error (e.ofRetrieval tag.site), world)
      | (.ok (.value v), world) => (.error (.wrongResult tag.site v.typeName), world)
      | (.ok (.content content), world) =>
        (.ok content, world.note Log.debug .passes
          ("resolved " ++ tag.exampleNeedle ++ " (" ++ toString tag.needles.length ++ " needle(s))"))

end

/-- Resolves tags one after the other, until one fails. -/
def resolveInTurn {ω : Type} (resolve : ViewTag → ω → Outcome Content × ω) :
    List ViewTag → ω → Outcome (List (ViewTag × Content)) × ω
  | [], state => (.ok [], state)
  | tag :: tags, state =>
    match resolve tag state with
    | (.error e, state) => (.error e, state)
    | (.ok content, state) =>
      match resolveInTurn resolve tags state with
      | (.error e, state) => (.error e, state)
      | (.ok resolved, state) => (.ok ((tag, content) :: resolved), state)

/-- A task of a pool: the place of its tag, how it ended, and how long it took. -/
structure Task where
  place : Nat
  outcome : Outcome Content
  delay : Nat

namespace Task

/-- Whether a task has failed. -/
def failed (task : Task) : Bool := !task.outcome.isOk

/-- Puts the contents of tasks, as they end, at their places. The first failure counts. -/
def gather (contents : List (Option Content)) : List Task → Outcome (List (Option Content))
  | [] => .ok contents
  | task :: tasks =>
    match task.outcome with
    | .error e => .error e
    | .ok content => gather (contents.set task.place (some content)) tasks

end Task

/-- The course of a pool: whether the tasks that have not been begun are cancelled, given those that
have, and which tasks end in time, in the order in which they end. -/
structure Course where
  cancels : List Task → Bool
  ended : List Task → List Task

namespace Course

/-- Inserts something among others in the order of their times, after those of the same time. -/
def insertInTime {α : Type} (time : α → Nat) (x : α) : List α → List α
  | [] => [x]
  | first :: rest =>
    if time x < time first then x :: first :: rest else first :: insertInTime time x rest

/-- Tasks with the times at which they end, and the time at which the next one can be begun, given
when the workers are free. -/
def timetable : List Nat → List Task → List (Nat × Task) × Nat
  | [], tasks => (tasks.map fun task => (0, task), 0)
  | free :: _, [] => ([], free)
  | free :: others, task :: tasks =>
    match timetable (insertInTime id (free + task.delay) others) tasks with
    | (timed, next) => ((free + task.delay, task) :: timed, next)

/-- The course of a pool whose workers begin a task as soon as they are free. What ends at the same
time does so in the order of the tags. -/
def prompt (workers : Nat) (deadline : Bool) : Course where
  cancels begun :=
    match timetable (List.replicate workers 0) begun with
    | (timed, next) => (deadline && 0 < next) || timed.any fun (time, task) => time < next && task.failed
  ended begun :=
    let inTime := (timetable (List.replicate workers 0) begun).1.foldl
      (fun inTime timed => insertInTime (·.1) timed inTime) []
    inTime.filterMap fun (time, task) => if deadline && 0 < time then none else some task

end Course

/-- Tags with their contents, where there are any. -/
def withContents : List ViewTag → List (Option Content) → List (ViewTag × Content)
  | tag :: tags, some content :: contents => (tag, content) :: withContents tags contents
  | _ :: tags, none :: contents => withContents tags contents
  | _, _ => []

/-- Runs the tasks for some tags, after those that have been begun, until the others are cancelled. -/
def runTasks {ω : Type} (run : ViewTag → ω → (Outcome Content × Nat) × ω)
    (cancels : List Task → Bool) : List Task → List ViewTag → ω → List Task × ω
  | begun, [], state => (begun, state)
  | begun, tag :: tags, state =>
    if cancels begun then (begun, state)
    else
      match run tag state with
      | ((outcome, delay), state) =>
        runTasks run cancels (begun ++ [⟨begun.length, outcome, delay⟩]) tags state

/-- Resolves tags by a pool that takes a course. Where no task has failed, but some have been cancelled
or have not ended in time, the render is given up. -/
def resolvePooled {ω : Type} (run : ViewTag → ω → (Outcome Content × Nat) × ω) (course : Course)
    (tags : List ViewTag) (state : ω) : Outcome (List (ViewTag × Content)) × ω :=
  match runTasks run course.cancels [] tags state with
  | (begun, state) =>
    let ended := course.ended begun
    match Task.gather (List.replicate tags.length none) ended with
    | .error e => (.error e, state)
    | .ok contents =>
      if begun.length < tags.length || ended.length < begun.length then
        (.error (.cancelled .abandoned), state)
      else (.ok (withContents tags contents), state)

/-- Runs a retrieval as a task, and tells how long it took. The delay of the world is not that of a
task. -/
def World.timed (run : World τ σ → Outcome Content × World τ σ) (world : World τ σ) :
    (Outcome Content × Nat) × World τ σ :=
  match run (world.withDelay 0) with
  | (outcome, after) => ((outcome, after.scene.delay), after.withDelay world.scene.delay)

end TagWeave
