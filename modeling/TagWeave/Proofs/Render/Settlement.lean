import TagWeave.Proofs.Render.Concurrence
import TagWeave.Proofs.Render.Courses
import TagWeave.Proofs.Render.Resolution

/-!
# What resolving tags settles on

If each tag has an answer of its own, whatever the state is, resolving some tags settles
on all of their contents in the order of the tags, or on the failure of one of them. This
holds of resolving them in turn, and of a pool whose tasks end in any order. So two ways
to resolve the same tags concur.
-/

namespace TagWeave

/-- What resolving some tags may come to, each of which has an answer: all of the contents at their
tags, or one of the failures. -/
inductive Settled (answer : ViewTag → Outcome Content) (tags : List ViewTag) :
    Outcome (List (ViewTag × Content)) → Prop
  | all {resolved : List (ViewTag × Content)} (whole : resolved.map (·.1) = tags)
      (succeed : ∀ pair ∈ resolved, answer pair.1 = .ok pair.2) : Settled answer tags (.ok resolved)
  | one {tag : ViewTag} {e : Error} (among : tag ∈ tags) (fails : answer tag = .error e) :
      Settled answer tags (.error e)

namespace Settled

variable {answer : ViewTag → Outcome Content} {tags tags' : List ViewTag}
variable {outcome : Outcome (List (ViewTag × Content))} {resolved : List (ViewTag × Content)}

/-- The contents of the tags, as far as they have one. -/
def contents (answer : ViewTag → Outcome Content) (tags : List ViewTag) :
    List (ViewTag × Content) :=
  tags.map fun tag => (tag, (answer tag).toOption.getD default)

/-- Success leaves no choice. -/
theorem eq_contents (h : Settled answer tags (.ok resolved)) : resolved = contents answer tags := by
  cases h with
  | all whole succeed =>
      rw [contents, ← whole, List.map_map]
      refine (List.map_id _).symm.trans (List.map_congr_left fun pair hpair => ?_)
      simp [succeed pair hpair, Except.toOption]

/-- If no tag fails, all of them succeed. -/
theorem exists_ok (h : Settled answer tags outcome)
    (succeed : ∀ tag ∈ tags, ∃ content, answer tag = .ok content) :
    ∃ resolved, outcome = .ok resolved ∧ resolved.map (·.1) = tags ∧
      ∀ pair ∈ resolved, answer pair.1 = .ok pair.2 := by
  cases h with
  | all whole contents => exact ⟨_, rfl, whole, contents⟩
  | one among fails =>
      obtain ⟨content, succeeds⟩ := succeed _ among
      rw [succeeds] at fails
      cases fails

/-- If a tag fails, the failure of one is that of all. -/
theorem exists_error (h : Settled answer tags outcome) {tag : ViewTag} {e : Error}
    (among : tag ∈ tags) (fails : answer tag = .error e) :
    ∃ tag ∈ tags, ∃ e, answer tag = .error e ∧ outcome = .error e := by
  cases h with
  | all whole succeed =>
      rw [← whole] at among
      obtain ⟨pair, hpair, rfl⟩ := List.mem_map.mp among
      rw [succeed pair hpair] at fails
      cases fails
  | one among fails => exact ⟨_, among, _, fails, rfl⟩

/-- Whatever the order of the tags is, they fail or succeed together. -/
theorem concur {ω ω' : Type} {related : ω → ω' → Prop}
    {same : List (ViewTag × Content) → List (ViewTag × Content) → Prop}
    {a : Outcome (List (ViewTag × Content)) × ω} {a' : Outcome (List (ViewTag × Content)) × ω'}
    (h : Settled answer tags a.1) (h' : Settled answer tags' a'.1) (perm : tags.Perm tags')
    (results : same (contents answer tags) (contents answer tags')) (after : related a.2 a'.2) :
    Concur same related a a' := by
  obtain ⟨outcome, s⟩ := a
  obtain ⟨outcome', s'⟩ := a'
  cases h with
  | one among fails =>
      obtain ⟨tag, -, e', -, failed⟩ := h'.exists_error (perm.mem_iff.mp among) fails
      obtain rfl : outcome' = .error e' := failed
      exact .fails ..
  | all whole succeed =>
      cases h' with
      | one among fails =>
          rw [← perm.mem_iff, ← whole] at among
          obtain ⟨pair, hpair, rfl⟩ := List.mem_map.mp among
          rw [succeed pair hpair] at fails
          cases fails
      | all whole' succeed' =>
          rw [eq_contents (.all whole succeed), eq_contents (.all whole' succeed')]
          exact .succeeds results after

end Settled

variable {ω : Type} {answer : ViewTag → Outcome Content} {tags : List ViewTag}

/-- The first failure among the answers to some tags, or else the contents of all. -/
def inTurn (answer : ViewTag → Outcome Content) (tags : List ViewTag) :
    Outcome (List (ViewTag × Content)) :=
  tags.mapM fun tag => (answer tag).map (tag, ·)

theorem inTurn_cons_error {tag : ViewTag} {e : Error} (fails : answer tag = .error e)
    (tags : List ViewTag) : inTurn answer (tag :: tags) = .error e := by
  rw [inTurn, List.mapM_cons, fails]
  rfl

theorem inTurn_cons_ok {tag : ViewTag} {content : Content} (succeeds : answer tag = .ok content)
    (tags : List ViewTag) :
    inTurn answer (tag :: tags) = (inTurn answer tags).map ((tag, content) :: ·) := by
  rw [inTurn, List.mapM_cons, succeeds, ← inTurn]
  cases inTurn answer tags <;> rfl

theorem settled_inTurn (answer : ViewTag → Outcome Content) (tags : List ViewTag) :
    Settled answer tags (inTurn answer tags) := by
  induction tags with
  | nil => exact .all rfl (by simp)
  | cons tag tags ih =>
      cases answered : answer tag with
      | error e =>
          rw [inTurn_cons_error answered]
          exact .one (List.mem_cons_self ..) answered
      | ok content =>
          rw [inTurn_cons_ok answered]
          generalize inTurn answer tags = outcome at ih
          cases ih with
          | one among fails => exact .one (List.mem_cons_of_mem _ among) fails
          | all whole succeed =>
              refine .all ?_ (List.forall_mem_cons.mpr ⟨answered, succeed⟩)
              rw [List.map_cons, whole]

/-- This is what resolving them in turn comes to, in a state that is as before. -/
theorem resolveInTurn_eq (P : ω → Prop) {run : ViewTag → ω → Outcome Content × ω}
    (answers : ∀ tag ∈ tags, ∀ s, P s → (run tag s).1 = answer tag ∧ P (run tag s).2) {s : ω}
    (h : P s) :
    (resolveInTurn run tags s).1 = inTurn answer tags ∧ P (resolveInTurn run tags s).2 := by
  induction tags generalizing s with
  | nil => exact ⟨rfl, h⟩
  | cons tag tags ih =>
      obtain ⟨first, others⟩ := List.forall_mem_cons.mp answers
      obtain ⟨answered, after⟩ := first s h
      rw [resolveInTurn]
      generalize run tag s = a at answered after
      obtain ⟨outcome, next⟩ := a
      cases outcome with
      | error e =>
          rw [inTurn_cons_error answered.symm]
          exact ⟨rfl, after⟩
      | ok content =>
          obtain ⟨same, after⟩ := ih others after
          rw [inTurn_cons_ok answered.symm, ← same]
          simp only
          generalize resolveInTurn run tags next = a at after
          obtain ⟨outcome, last⟩ := a
          cases outcome with
          | error e => exact ⟨rfl, after⟩
          | ok resolved => exact ⟨rfl, after⟩

/-! ### Pools -/

namespace Task

/-- Tasks that succeed with the contents that belong to their places leave them there. -/
theorem gather_of_ok {tasks : List Task} {cs : List Content}
    (succeed : ∀ task ∈ tasks, ∃ c, cs[task.place]? = some c ∧ task.outcome = .ok c)
    {contents : List (Option Content)} (length : contents.length = cs.length) :
    ∃ final, gather contents tasks = .ok final ∧ final.length = cs.length ∧
      ∀ i < cs.length, (contents[i]? = some cs[i]? ∨ ∃ task ∈ tasks, task.place = i) →
        final[i]? = some cs[i]? := by
  induction tasks generalizing contents with
  | nil => exact ⟨contents, rfl, length, by simp⟩
  | cons task tasks ih =>
      obtain ⟨⟨c, hc, ended⟩, rest⟩ := List.forall_mem_cons.mp succeed
      obtain ⟨final, gathered, hfinal, placed⟩ :=
        @ih rest (contents.set task.place (some c)) (by rw [List.length_set, length])
      refine ⟨final, by rw [gather, ended]; exact gathered, hfinal, ?_⟩
      intro i hi there
      apply placed i hi
      by_cases here : task.place = i
      · left
        rw [← here, List.getElem?_set_self (by omega), hc]
      · rw [List.getElem?_set_ne here]
        refine there.imp_right ?_
        rintro ⟨task', htask', hplace⟩
        rcases List.mem_cons.mp htask' with rfl | htask'
        · exact absurd hplace here
        · exact ⟨task', htask', hplace⟩

/-- If there is such a task for every place, all contents are gathered. -/
theorem gather_of_full {tasks : List Task} {cs : List Content}
    (succeed : ∀ task ∈ tasks, ∃ c, cs[task.place]? = some c ∧ task.outcome = .ok c)
    (full : ∀ i < cs.length, ∃ task ∈ tasks, task.place = i) :
    gather (List.replicate cs.length none) tasks = .ok (cs.map some) := by
  obtain ⟨final, gathered, length, placed⟩ :=
    gather_of_ok succeed (List.length_replicate : (List.replicate cs.length none).length = _)
  rw [gathered]
  refine congrArg Except.ok (List.ext_getElem? fun i => ?_)
  by_cases hi : i < cs.length
  · rw [placed i hi (.inr (full i hi)), List.getElem?_map, List.getElem?_eq_getElem hi]
    rfl
  · rw [List.getElem?_eq_none (by omega), List.getElem?_eq_none (by rw [List.length_map]; omega)]

/-- If there is a failure among the tasks, one of the failures is the outcome. -/
theorem gather_of_error {tasks : List Task} {task : Task} (among : task ∈ tasks) {e : Error}
    (fails : task.outcome = .error e) (contents : List (Option Content)) :
    ∃ task ∈ tasks, ∃ e, task.outcome = .error e ∧ gather contents tasks = .error e := by
  induction tasks generalizing contents with
  | nil => simp at among
  | cons first tasks ih =>
      rw [gather]
      cases outcome : first.outcome with
      | error e => exact ⟨first, List.mem_cons_self .., e, outcome, rfl⟩
      | ok content =>
          rcases List.mem_cons.mp among with rfl | among
          · rw [fails] at outcome
            cases outcome
          · obtain ⟨task, htask, failed⟩ := ih among (contents.set first.place (some content))
            exact ⟨task, List.mem_cons_of_mem _ htask, failed⟩

theorem exists_of_gather_error {tasks : List Task} {contents : List (Option Content)} {e : Error}
    (h : gather contents tasks = .error e) : ∃ task ∈ tasks, task.outcome = .error e := by
  induction tasks generalizing contents with
  | nil => cases h
  | cons task tasks ih =>
      rw [gather] at h
      split at h
      · next outcome =>
        cases h
        exact ⟨task, List.mem_cons_self .., outcome⟩
      · obtain ⟨later, among, outcome⟩ := ih h
        exact ⟨later, List.mem_cons_of_mem _ among, outcome⟩

theorem failed_iff {task : Task} : task.failed = true ↔ ∃ e, task.outcome = .error e := by
  rw [failed]
  cases task.outcome <;> simp [Except.isOk, Except.toBool]

/-- The content that a task has ended with, if it has one. -/
def content (task : Task) : Content := task.outcome.toOption.getD default

theorem outcome_eq_content {task : Task} (h : ∀ e, task.outcome ≠ .error e) :
    task.outcome = .ok task.content := by
  rw [content]
  cases outcome : task.outcome with
  | error e => exact absurd outcome (h e)
  | ok content => rfl

/-- In whatever order tasks end that have the places in turn, they leave their contents in turn. -/
theorem gather_of_perm {begun ended : List Task} (perm : ended.Perm begun)
    (places : begun.map (·.place) = List.range begun.length)
    (succeed : ∀ task ∈ begun, task.outcome = .ok task.content) :
    gather (List.replicate begun.length none) ended =
      .ok (begun.map fun task => some task.content) := by
  have placeAt : ∀ i (hi : i < begun.length), begun[i].place = i := by
    intro i hi
    have there := congrArg (·[i]?) places
    simpa [hi] using there
  have full : gather (List.replicate (begun.map content).length none) ended =
      .ok ((begun.map content).map some) := by
    apply gather_of_full
    · intro task htask
      obtain ⟨i, hi, rfl⟩ := List.mem_iff_getElem.mp (perm.mem_iff.mp htask)
      refine ⟨begun[i].content, ?_, succeed _ (List.getElem_mem hi)⟩
      rw [placeAt i hi, List.getElem?_map, List.getElem?_eq_getElem hi]
      rfl
    · intro i hi
      rw [List.length_map] at hi
      exact ⟨begun[i], perm.mem_iff.mpr (List.getElem_mem hi), placeAt i hi⟩
  rw [List.length_map] at full
  rw [full, List.map_map]
  rfl

/-- If nothing fails as tasks end that have the places in turn, all have succeeded, and their contents
are there in turn. -/
theorem gathered_of_perm {begun ended : List Task} (perm : ended.Perm begun)
    (places : begun.map (·.place) = List.range begun.length) {contents : List (Option Content)}
    (gathered : gather (List.replicate begun.length none) ended = .ok contents) :
    contents = (begun.map content).map some ∧ ∀ task ∈ begun, task.outcome = .ok task.content := by
  have succeed : ∀ task ∈ begun, task.outcome = .ok task.content := by
    intro task among
    apply outcome_eq_content
    intro e fails
    obtain ⟨_, -, _, -, failed⟩ := gather_of_error (perm.mem_iff.mpr among) fails
      (List.replicate begun.length none)
    rw [failed] at gathered
    cases gathered
  rw [gather_of_perm perm places succeed] at gathered
  cases gathered
  exact ⟨(List.map_map ..).symm, succeed⟩

/-- Tasks have been begun for tags in their order, and each ends as it may for its tag. -/
structure Begun (may : ViewTag → Outcome Content → Prop) (tags : List ViewTag) (begun : List Task) :
    Prop where
  atMost : begun.length ≤ tags.length
  places : begun.map (·.place) = List.range begun.length
  outcomes : List.Forall₂ (fun tag task => may tag task.outcome) (tags.take begun.length) begun

/-- So does the next one. -/
theorem Begun.concat {may : ViewTag → Outcome Content → Prop} {tags : List ViewTag}
    {begun : List Task} (h : Begun may tags begun) (length : begun.length = tags.length)
    {tag : ViewTag} {outcome : Outcome Content} (ends : may tag outcome) (delay : Nat) :
    Begun may (tags ++ [tag]) (begun ++ [⟨begun.length, outcome, delay⟩]) := by
  obtain ⟨-, places, outcomes⟩ := h
  refine ⟨by simp [length], ?_, ?_⟩
  · rw [List.map_append, places, List.length_append, List.length_singleton, List.range_succ]
    rfl
  · rw [length, List.take_length] at outcomes
    rw [List.take_of_length_le (by simp [length])]
    exact List.rel_append outcomes (.cons ends .nil)

theorem Begun.exists_tag {may : ViewTag → Outcome Content → Prop} {tags : List ViewTag}
    {begun : List Task} (h : Begun may tags begun) {task : Task} (among : task ∈ begun) :
    ∃ tag ∈ tags, may tag task.outcome := by
  obtain ⟨i, hi, rfl⟩ := List.mem_iff_getElem.mp among
  have taken : i < (tags.take begun.length).length := hi.trans_eq h.outcomes.length_eq.symm
  exact ⟨_, List.mem_of_mem_take (List.getElem_mem taken), h.outcomes.get taken hi⟩

end Task

/-- Contents that are all there belong to the tags in their order. -/
theorem withContents_map_some {tags : List ViewTag} {cs : List Content}
    (length : tags.length = cs.length) : withContents tags (cs.map some) = tags.zip cs := by
  induction tags generalizing cs with
  | nil => rfl
  | cons tag tags ih =>
      obtain ⟨c, cs, rfl⟩ := List.exists_cons_of_length_eq_add_one length.symm
      rw [List.map_cons, withContents, ih (Nat.succ.inj length), List.zip_cons_cons]

section

variable {run : ViewTag → ω → (Outcome Content × Nat) × ω} {P : ω → Prop}
variable {may : ViewTag → Outcome Content → Prop} {tags : List ViewTag}

/-- Tasks are begun for all tags, unless some are cancelled. -/
theorem begun_runTasks (each : ∀ tag ∈ tags, ∀ s, P s → may tag (run tag s).1.1 ∧ P (run tag s).2)
    (cancels : List Task → Bool) {done : List ViewTag} {begun : List Task}
    (sofar : Task.Begun may done begun) (length : begun.length = done.length) {s : ω} (start : P s) :
    Task.Begun may (done ++ tags) (runTasks run cancels begun tags s).1 ∧
      P (runTasks run cancels begun tags s).2 ∧
      ((runTasks run cancels begun tags s).1.length < (done ++ tags).length →
        cancels (runTasks run cancels begun tags s).1 = true) := by
  induction tags generalizing done begun s with
  | nil =>
      rw [List.append_nil]
      exact ⟨sofar, start, fun less => absurd length (Nat.ne_of_lt less)⟩
  | cons tag tags ih =>
      obtain ⟨first, others⟩ := List.forall_mem_cons.mp each
      rw [runTasks]
      split
      · next cancelled =>
        obtain ⟨atMost, places, outcomes⟩ := sofar
        refine ⟨⟨?_, places, ?_⟩, start, fun _ => cancelled⟩
        · exact atMost.trans (by simp)
        · rwa [List.take_append_of_le_length atMost]
      · obtain ⟨ends, after⟩ := first s start
        have further := ih others (sofar.concat length ends (run tag s).1.2) (by simp [length]) after
        rw [List.append_assoc] at further
        exact further

/-- What a pool comes to: the first failure as its tasks end, nothing if tasks were not waited for, or
all contents. -/
theorem resolvePooled_cases (may : ViewTag → Outcome Content → Prop)
    (each : ∀ tag ∈ tags, ∀ s, P s → may tag (run tag s).1.1 ∧ P (run tag s).2) (course : Course)
    {s : ω} (start : P s) :
    ∃ begun, Task.Begun may tags begun ∧ P (resolvePooled run course tags s).2 ∧
      ((begun.length < tags.length → course.cancels begun = true) ∧
      ((∃ e, Task.gather (List.replicate tags.length none) (course.ended begun) = .error e ∧
          (resolvePooled run course tags s).1 = .error e) ∨
        ((begun.length < tags.length ∨ (course.ended begun).length < begun.length) ∧
          (∀ task ∈ course.ended begun, task.failed = false) ∧
          (resolvePooled run course tags s).1 = .error (.cancelled .abandoned)) ∨
        ∃ contents, begun.length = tags.length ∧ begun.length ≤ (course.ended begun).length ∧
          Task.gather (List.replicate tags.length none) (course.ended begun) = .ok contents ∧
          (resolvePooled run course tags s).1 = .ok (withContents tags contents))) := by
  have none : Task.Begun may [] [] := ⟨Nat.le_refl _, rfl, .nil⟩
  obtain ⟨begins, after, cancelled⟩ := begun_runTasks each course.cancels none rfl start
  simp only [List.nil_append] at begins cancelled
  rw [resolvePooled]
  generalize runTasks run course.cancels [] tags s = a at begins after cancelled
  obtain ⟨begun, last⟩ := a
  refine ⟨begun, begins, ?_, cancelled, ?_⟩
  · simp only
    split
    · exact after
    · split <;> exact after
  · simp only
    cases gathered : Task.gather (List.replicate tags.length Option.none) (course.ended begun) with
    | error e => exact .inl ⟨e, rfl, rfl⟩
    | ok contents =>
        simp only [Bool.or_eq_true, decide_eq_true_eq]
        split
        · next short =>
          refine .inr (.inl ⟨short, fun task among => ?_, rfl⟩)
          rw [← Bool.not_eq_true, Task.failed_iff]
          rintro ⟨e, fails⟩
          obtain ⟨_, -, _, -, failed⟩ := Task.gather_of_error among fails
            (List.replicate tags.length Option.none)
          rw [failed] at gathered
          cases gathered
        · next whole =>
          simp only [not_or, not_lt] at whole
          exact .inr (.inr ⟨contents, Nat.le_antisymm begins.atMost whole.1, whole.2, rfl, rfl⟩)

end

/-- Tags that are resolved by a pool settle, in whatever order their tasks end. -/
theorem settled_pooled (P : ω → Prop) {run : ViewTag → ω → (Outcome Content × Nat) × ω}
    {tags : List ViewTag}
    (answers : ∀ tag ∈ tags, ∀ s, P s → (run tag s).1.1 = answer tag ∧ P (run tag s).2)
    {course : Course} (complete : course.Complete) {s : ω} (h : P s) :
    Settled answer tags (resolvePooled run course tags s).1 ∧
      P (resolvePooled run course tags s).2 := by
  obtain ⟨begun, begins, after, cancelled, ends⟩ :=
    resolvePooled_cases (fun tag outcome => outcome = answer tag) answers course h
  refine ⟨?_, after⟩
  have ended := complete.ended begun
  rcases ends with ⟨e, gathered, eq⟩ | ⟨short, unfailed, eq⟩ | ⟨contents, whole, -, gathered, eq⟩
  · obtain ⟨task, among, failed⟩ := Task.exists_of_gather_error gathered
    obtain ⟨tag, there, outcome⟩ := begins.exists_tag (ended.mem_iff.mp among)
    rw [eq]
    exact .one there (outcome.symm.trans failed)
  · -- without a failure nothing is cancelled, and all tasks are waited for
    have fewer := short.resolve_right (Nat.not_lt.mpr (Nat.le_of_eq ended.length_eq.symm))
    obtain ⟨task, among, failed⟩ := complete.cancels begun (cancelled fewer)
    rw [unfailed task (ended.mem_iff.mpr among)] at failed
    cases failed
  · obtain ⟨given, succeed⟩ := Task.gathered_of_perm ended begins.places (whole ▸ gathered)
    have outcomes := begins.outcomes
    rw [whole, List.take_length] at outcomes
    have length : tags.length = (begun.map Task.content).length := by rw [List.length_map, whole]
    rw [eq, given, withContents_map_some length]
    refine .all (List.map_fst_zip (Nat.le_of_eq length)) ?_
    rintro ⟨tag, c⟩ among
    rw [List.zip_map_right] at among
    obtain ⟨⟨_, task⟩, paired, same⟩ := List.mem_map.mp among
    cases same
    exact (List.forall₂_zip outcomes paired).symm.trans (succeed task (List.of_mem_zip paired).2)

/-! ### Renderers -/

namespace Renderer

variable {τ σ : Type} {renderer : Renderer τ σ} {tags : List ViewTag}

/-- A pool for the tags has no workers. -/
def Unstaffed (renderer : Renderer τ σ) (tags : List ViewTag) : Prop :=
  renderer.maxWorkers ≠ 1 ∧ tags.length ≠ 1 ∧ min renderer.maxWorkers tags.length = 0

theorem not_unstaffed (workers : 0 < renderer.maxWorkers) (nonempty : tags ≠ []) :
    ¬ renderer.Unstaffed tags := by
  rintro ⟨-, -, none⟩
  have some := List.length_pos_iff.mpr nonempty
  omega

/-- Run as a task of a pool, a tag has the same answer. -/
theorem timed_answers {run : World τ σ → Outcome Content × World τ σ} {outcome : Outcome Content}
    {P : World τ σ → Prop} (delayed : ∀ {w}, P w → ∀ delay, P (w.withDelay delay))
    (answers : ∀ w, P w → (run w).1 = outcome ∧ P (run w).2) (w : World τ σ) (h : P w) :
    (World.timed run w).1.1 = outcome ∧ P (World.timed run w).2 :=
  have ⟨same, after⟩ := answers _ (delayed h 0)
  ⟨same, delayed after _⟩

variable [Add τ] [LE τ] [DecidableLE τ]

theorem resolve_of_unstaffed (unstaffed : renderer.Unstaffed tags) (guarded : Bool)
    (world : World τ σ) :
    renderer.resolve guarded tags world = (.error (.fault .noWorkers), world) := by
  obtain ⟨several, others, none⟩ := unstaffed
  simp [resolve, several, others, none]

theorem resolve_of_staffed (several : renderer.maxWorkers ≠ 1) (others : tags.length ≠ 1)
    (staffed : ¬ renderer.Unstaffed tags) (guarded : Bool) (world : World τ σ) :
    renderer.resolve guarded tags world =
      resolvePooled (fun tag => World.timed (renderer.registry.resolve guarded tag))
        (renderer.course (min renderer.maxWorkers tags.length) (hasDeadline guarded world)) tags
        world := by
  have some : min renderer.maxWorkers tags.length ≠ 0 := fun none => staffed ⟨several, others, none⟩
  simp only [resolve, several, others, some, decide_false, Bool.or_self, Bool.false_eq_true, if_false]

/-- Tags that have answers of their own settle without a token, unless a pool has no workers. How long
tasks take must not matter. -/
theorem settled (P : World τ σ → Prop) (delayed : ∀ {w}, P w → ∀ delay, P (w.withDelay delay))
    (answers : ∀ tag ∈ tags, ∀ w, P w → (renderer.registry.resolve false tag w).1 = answer tag ∧
      P (renderer.registry.resolve false tag w).2)
    (complete : renderer.maxWorkers = 1 ∨ ∀ workers, (renderer.course workers false).Complete)
    (staffed : ¬ renderer.Unstaffed tags) {w : World τ σ} (h : P w) :
    Settled answer tags (renderer.resolve false tags w).1 ∧
      P (renderer.resolve false tags w).2 := by
  by_cases single : renderer.maxWorkers = 1 ∨ tags.length = 1
  · rw [resolve, if_pos (by simpa using single)]
    obtain ⟨same, after⟩ := resolveInTurn_eq P answers h
    rw [same]
    exact ⟨settled_inTurn answer tags, after⟩
  · obtain ⟨several, others⟩ := not_or.mp single
    rw [resolve_of_staffed several others staffed]
    exact settled_pooled P (fun tag among => timed_answers delayed (answers tag among))
      (complete.resolve_left several _) h

end Renderer

end TagWeave
