import TagWeave.Proofs.Render.Settlement

/-!
# Expansions that conform

Of two ways to resolve tags one may accept more than the other, or tell a failure in
other words. An outcome conforms to another one if they are the same, if both are errors
that may stand for each other, or if the other one is an error that is excused. What an
excused error ends may go on on the other side, so nothing is said then about the states.

If several tags fail that a pool resolves, their failures race: the first one to come ends
the pass, and on the other side this may be the failure of another tag. One worker takes
the tags in their order, and there is no race.
-/

namespace TagWeave

variable {excused : Error → Prop} {apart : Error → Error → Prop} {α ω ω' : Type}
variable {related : ω → ω' → Prop}

/-- An outcome is the same as another one, or they are errors that may stand for each other, or the
other one is an error that is excused. -/
inductive Conforms (excused : Error → Prop) (apart : Error → Error → Prop) :
    Outcome α → Outcome α → Prop
  | same (outcome : Outcome α) : Conforms excused apart outcome outcome
  | apart {e e' : Error} (stands : apart e e') : Conforms excused apart (.error e) (.error e')
  | besides (outcome : Outcome α) {e' : Error} (excuse : excused e') :
      Conforms excused apart outcome (.error e')

namespace Conforms

variable {o o' : Outcome α}

theorem map {β : Type} (conforms : Conforms excused apart o o') (f : α → β) :
    Conforms excused apart (o.map f) (o'.map f) := by
  cases conforms with
  | same => exact .same _
  | apart stands => exact .apart stands
  | besides _ excuse => exact .besides _ excuse

theorem mono {apart' : Error → Error → Prop} (conforms : Conforms excused apart o o')
    (weaker : ∀ e e', apart e e' → apart' e e') : Conforms excused apart' o o' := by
  cases conforms with
  | same => exact .same _
  | apart stands => exact .apart (weaker _ _ stands)
  | besides _ excuse => exact .besides _ excuse

end Conforms

/-! ### Tags -/

/-- Two answers about a tag are the same, or they are failures that may stand for each other, or there
is content in place of an error that is excused. -/
inductive Judged (excused : Error → Prop) (apart : Error → Error → Prop) :
    Outcome Content → Outcome Content → Prop
  | same (answer : Outcome Content) : Judged excused apart answer answer
  | apart {e e' : Error} (stands : apart e e') : Judged excused apart (.error e) (.error e')
  | accepted (content : Content) {e' : Error} (excuse : excused e') :
      Judged excused apart (.ok content) (.error e')

/-- Two errors race if each is the failure of some tag, the first one perhaps told apart. -/
structure Raced (apart : Error → Error → Prop) (fails : ViewTag → Error → Prop) (tags : List ViewTag)
    (e e' : Error) : Prop where
  left : ∃ tag ∈ tags, ∃ cause, fails tag cause ∧ (e = cause ∨ apart e cause)
  right : ∃ tag ∈ tags, fails tag e'

theorem Raced.mono {fails fails' : ViewTag → Error → Prop} {tags : List ViewTag} {e e' : Error}
    (raced : Raced apart fails tags e e') (weaker : ∀ tag e, fails tag e → fails' tag e) :
    Raced apart fails' tags e e' := by
  obtain ⟨⟨tag, among, cause, failed, told⟩, tag', among', failed'⟩ := raced
  exact ⟨⟨tag, among, cause, weaker _ _ failed, told⟩, tag', among', weaker _ _ failed'⟩

/-- Errors of tags that are resolved together may stand for each other if they are told apart, or if
several workers race. -/
def Stands (apart : Error → Error → Prop) (workers : Nat) (fails : ViewTag → Error → Prop)
    (tags : List ViewTag) (e e' : Error) : Prop :=
  apart e e' ∨ workers ≠ 1 ∧ Raced apart fails tags e e'

section

variable {answer answer' : ViewTag → Outcome Content} {tags : List ViewTag}
variable {o o' : Outcome (List (ViewTag × Content))}

/-- What tags come to in turn conforms if the answer to each of them does. -/
theorem inTurn_conforms (each : ∀ tag ∈ tags, Judged excused apart (answer tag) (answer' tag)) :
    Conforms excused apart (inTurn answer tags) (inTurn answer' tags) := by
  induction tags with
  | nil => exact .same _
  | cons tag tags ih =>
      obtain ⟨first, others⟩ := List.forall_mem_cons.mp each
      cases answered : answer tag with
      | error e =>
          rw [inTurn_cons_error answered]
          cases answered' : answer' tag with
          | error e' =>
              rw [inTurn_cons_error answered']
              rw [answered, answered'] at first
              cases first with
              | same => exact .same _
              | apart stands => exact .apart stands
          | ok content =>
              rw [answered, answered'] at first
              cases first
      | ok content =>
          cases answered' : answer' tag with
          | error e' =>
              rw [inTurn_cons_error answered']
              rw [answered, answered'] at first
              cases first with
              | accepted _ excuse => exact .besides _ excuse
          | ok content' =>
              rw [answered, answered'] at first
              cases first
              rw [inTurn_cons_ok answered, inTurn_cons_ok answered']
              exact (ih others).map _

/-- What tags settle on conforms, too, but for races. -/
theorem Settled.conforms (each : ∀ tag ∈ tags, Judged excused apart (answer tag) (answer' tag))
    (settled : Settled answer tags o) (settled' : Settled answer' tags o') :
    Conforms excused (Raced apart (fun tag e => answer' tag = .error e) tags) o o' := by
  cases settled' with
  | @one _ failure among' fails' =>
      have judged := each _ among'
      rw [fails'] at judged
      generalize answered : answer _ = left at judged
      -- unless the failure is excused, a tag fails on either side
      have raced : ∀ e, left = .error e → Conforms excused
          (Raced apart (fun tag e => answer' tag = .error e) tags) o (.error failure) := by
        rintro e rfl
        obtain ⟨tag, among, e, fails, rfl⟩ := settled.exists_error among' answered
        have judged := each tag among
        rw [fails] at judged
        generalize answered' : answer' tag = right at judged
        cases judged with
        | same => exact .apart ⟨⟨tag, among, e, answered', .inl rfl⟩, _, among', fails'⟩
        | apart stands => exact .apart ⟨⟨tag, among, _, answered', .inr stands⟩, _, among', fails'⟩
      cases judged with
      | same => exact raced _ rfl
      | apart => exact raced _ rfl
      | accepted _ excuse => exact .besides _ excuse
  | @all resolved whole succeed' =>
      have same : ∀ pair ∈ resolved, answer pair.1 = .ok pair.2 := by
        intro pair among
        have judged := each pair.1 (whole ▸ List.mem_map_of_mem among)
        rw [succeed' pair among] at judged
        generalize answer pair.1 = left at judged ⊢
        cases judged
        rfl
      have succeed : ∀ tag ∈ tags, ∃ content, answer tag = .ok content := by
        intro tag among
        rw [← whole] at among
        obtain ⟨pair, there, rfl⟩ := List.mem_map.mp among
        exact ⟨pair.2, same pair there⟩
      obtain ⟨resolved', rfl, -, -⟩ := settled.exists_ok succeed
      have given : Settled answer tags (.ok resolved) := .all whole same
      rw [settled.eq_contents, given.eq_contents]
      exact .same _

end

/-! ### Passes -/

/-- Answers that conform leave related states, unless the second one is an error that is excused. -/
structure Conforming (excused : Error → Prop) (apart : Error → Error → Prop)
    (related : ω → ω' → Prop) (a : Outcome α × ω) (a' : Outcome α × ω') : Prop where
  outcome : Conforms excused apart a.1 a'.1
  after : (∀ e, a'.1 = .error e → ¬ excused e) → related a.2 a'.2

theorem Alike.conforming {a : Outcome α × ω} {a' : Outcome α × ω'} (alike : Alike related a a') :
    Conforming excused apart related a a' := by
  obtain ⟨outcome, state, state', rfl, rfl, after⟩ := alike.exists_eq
  exact ⟨.same _, fun _ => after⟩

namespace Steps

/-- The tags of the passes that an expansion begins to resolve. -/
def passesFrom (steps : Steps ω) : Nat → Report → String → ω → List (List ViewTag)
  | 0, _, _, _ => []
  | allowed + 1, report, text, state =>
    match steps.survey (report.passes + 1) text state with
    | (.error _, _) => []
    | (.ok (_, []), _) => []
    | (.ok (interpolated, tags), state) =>
      tags ::
        match steps.resolve tags (steps.note (passNote (report.passes + 1) tags) state) with
        | (.error _, _) => []
        | (.ok resolved, state) =>
          steps.passesFrom allowed (report.recordResolved resolved) (substitute interpolated resolved)
            state

/-- In related states the steps survey texts alike, and resolve tags conformingly as far as these are
those of some pass. -/
structure ConformAmong (excused : Error → Prop) (apart : List ViewTag → Error → Error → Prop)
    (passes : List (List ViewTag)) (related : ω → ω' → Prop) (steps : Steps ω) (steps' : Steps ω') :
    Prop where
  expands : steps.expands = steps'.expands
  find : steps.find = steps'.find
  check : ∀ {s s'}, related s s' → ∀ place, steps.check place s = steps'.check place s'
  interpolate : ∀ {s s'}, related s s' → ∀ text,
    Alike related (steps.interpolate text s) (steps'.interpolate text s')
  resolve : ∀ {s s'}, related s s' → ∀ tags ∈ passes,
    Conforming excused (apart tags) related (steps.resolve tags s) (steps'.resolve tags s')
  note : ∀ {s s'}, related s s' → ∀ message, related (steps.note message s) (steps'.note message s')

variable {apart : List ViewTag → Error → Error → Prop} {passes : List (List ViewTag)}
variable {steps : Steps ω} {steps' : Steps ω'} {s : ω} {s' : ω'}

theorem ConformAmong.survey (conform : ConformAmong excused apart passes related steps steps')
    (h : related s s') (pass : Nat) (text : String) :
    Alike related (steps.survey pass text s) (steps'.survey pass text s') := by
  -- a survey resolves nothing
  have surveying : Similar related { steps with resolve := fun _ s => (.ok [], s) }
      { steps' with resolve := fun _ s => (.ok [], s) } :=
    ⟨conform.expands, conform.find, conform.check, conform.interpolate, fun h _ => ⟨rfl, h⟩,
      conform.note⟩
  exact surveying.survey h pass text

/-- Such steps expand a text conformingly, if the passes that the second ones begin are among those. -/
theorem ConformAmong.expandFrom (conform : ConformAmong excused apart passes related steps steps')
    (h : related s s') (limit : Nat) {allowed : Nat} {report : Report} {text : String}
    (covered : ∀ tags ∈ steps'.passesFrom allowed report text s', tags ∈ passes) :
    Conforming excused (fun e e' => ∃ tags ∈ passes, apart tags e e') related
      (steps.expandFrom limit allowed report text s)
      (steps'.expandFrom limit allowed report text s') := by
  induction allowed generalizing report text s s' with
  | zero =>
      obtain ⟨outcome, state, state', eq, eq', after⟩ :=
        (conform.survey h (report.passes + 1) text).exists_eq
      rw [Steps.expandFrom, Steps.expandFrom, eq, eq']
      rcases outcome with e | ⟨interpolated, _ | ⟨tag, tags⟩⟩
      · exact Alike.conforming ⟨rfl, after⟩
      · exact Alike.conforming ⟨rfl, after⟩
      · exact Alike.conforming ⟨rfl, after⟩
  | succ allowed ih =>
      obtain ⟨outcome, state, state', eq, eq', after⟩ :=
        (conform.survey h (report.passes + 1) text).exists_eq
      rw [passesFrom, eq'] at covered
      rw [Steps.expandFrom, Steps.expandFrom, eq, eq']
      rcases outcome with e | ⟨interpolated, _ | ⟨tag, tags⟩⟩
      · exact Alike.conforming ⟨rfl, after⟩
      · exact Alike.conforming ⟨rfl, after⟩
      · obtain ⟨covered, further⟩ := List.forall_mem_cons.mp covered
        have noted := conform.note after (passNote (report.passes + 1) (tag :: tags))
        obtain ⟨outcome, resolved⟩ := conform.resolve noted (tag :: tags) covered
        simp only
        generalize steps.resolve (tag :: tags) _ = a at outcome resolved
        generalize steps'.resolve (tag :: tags) _ = a' at outcome resolved further
        obtain ⟨o, last⟩ := a
        obtain ⟨o', last'⟩ := a'
        cases outcome with
        | besides _ excuse => exact ⟨.besides _ excuse, fun candid => absurd excuse (candid _ rfl)⟩
        | apart stands =>
            refine ⟨.apart ⟨_, covered, stands⟩, fun candid => resolved ?_⟩
            rintro e ⟨⟩
            exact candid _ rfl
        | same =>
            cases o with
            | error e =>
                refine ⟨.same _, fun candid => resolved ?_⟩
                rintro e ⟨⟩
                exact candid _ rfl
            | ok contents => exact ih (resolved (by rintro e ⟨⟩)) further

end Steps

/-! ### Renderers -/

variable {τ σ : Type} [Add τ] [LE τ] [DecidableLE τ] {related : World τ σ → World τ σ → Prop}

/-- In related worlds two registries have answers of their own for some tags, which are judged on
alike. Resolving a tag on either side leaves related worlds. -/
structure Registry.Compared (excused : Error → Prop) (apart : Error → Error → Prop)
    (related : World τ σ → World τ σ → Prop) (answer answer' : ViewTag → Outcome Content)
    (tags : List ViewTag) (registry registry' : Registry τ σ) : Prop where
  left : ∀ tag ∈ tags, ∀ {w w'}, related w w' →
    (registry.resolve false tag w).1 = answer tag ∧ related (registry.resolve false tag w).2 w'
  right : ∀ tag ∈ tags, ∀ {w w'}, related w w' →
    (registry'.resolve false tag w').1 = answer' tag ∧ related w (registry'.resolve false tag w').2
  judged : ∀ tag ∈ tags, Judged excused apart (answer tag) (answer' tag)
  delayed : ∀ {w w'}, related w w' → ∀ delay,
    related (w.withDelay delay) w' ∧ related w (w'.withDelay delay)
  note : ∀ {w w'}, related w w' → ∀ level origin message,
    related (w.note level origin message) (w'.note level origin message)
  empty : registry.entries.isEmpty = registry'.entries.isEmpty

variable {answer answer' : ViewTag → Outcome Content} {tags : List ViewTag}
variable {registry registry' : Registry τ σ}

theorem Registry.Compared.mono {tags' : List ViewTag}
    (compared : Compared excused apart related answer answer' tags registry registry')
    (fewer : ∀ tag ∈ tags', tag ∈ tags) :
    Compared excused apart related answer answer' tags' registry registry' :=
  ⟨fun tag h => compared.left tag (fewer tag h), fun tag h => compared.right tag (fewer tag h),
    fun tag h => compared.judged tag (fewer tag h), compared.delayed, compared.note, compared.empty⟩

namespace Renderer

variable {renderer : Renderer τ σ} {course course' : Nat → Bool → Course}

theorem resolve_of_alone (renderer : Renderer τ σ) (alone : renderer.maxWorkers = 1) (guarded : Bool)
    (tags : List ViewTag) (w : World τ σ) :
    renderer.resolve guarded tags w = resolveInTurn (renderer.registry.resolve guarded) tags w := by
  rw [resolve, if_pos (by simp [alone])]

/-- Renderers with these registries resolve the tags conformingly, whatever course each of them
takes. -/
theorem resolve_conforming
    (compared : Registry.Compared excused apart related answer answer' tags registry registry')
    (complete : renderer.maxWorkers = 1 ∨ ∀ workers, (course workers false).Complete)
    (complete' : renderer.maxWorkers = 1 ∨ ∀ workers, (course' workers false).Complete)
    {w w' : World τ σ} (h : related w w') :
    Conforming excused
      (Stands apart renderer.maxWorkers (fun tag e => answer' tag = .error e) tags) related
      (({ renderer with registry, course }).resolve false tags w)
      (({ renderer with registry := registry', course := course' }).resolve false tags w') := by
  let left : Renderer τ σ := { renderer with registry, course }
  let right : Renderer τ σ := { renderer with registry := registry', course := course' }
  change Conforming _ _ _ (left.resolve false tags w) (right.resolve false tags w')
  by_cases alone : renderer.maxWorkers = 1
  · rw [left.resolve_of_alone alone, right.resolve_of_alone alone]
    obtain ⟨same, after⟩ :=
      resolveInTurn_eq (related · w') (fun tag among _ h => compared.left tag among h) h
    obtain ⟨same', after'⟩ := resolveInTurn_eq (related _)
      (fun tag among _ h => compared.right tag among h) after
    refine ⟨?_, fun _ => after'⟩
    rw [same, same']
    exact (inTurn_conforms compared.judged).mono fun _ _ => .inl
  · by_cases unstaffed : renderer.Unstaffed tags
    · have unstaffed' : right.Unstaffed tags := unstaffed
      have unstaffed : left.Unstaffed tags := unstaffed
      rw [resolve_of_unstaffed unstaffed, resolve_of_unstaffed unstaffed']
      exact ⟨.same _, fun _ => h⟩
    · have staffed : ¬ left.Unstaffed tags := unstaffed
      have staffed' : ¬ right.Unstaffed tags := unstaffed
      obtain ⟨settled, after⟩ := settled (related · w') (fun h delay => (compared.delayed h delay).1)
        (fun tag among _ h => compared.left tag among h) complete staffed h
      obtain ⟨settled', after'⟩ := Renderer.settled (related _) (fun h delay => (compared.delayed h delay).2)
        (fun tag among _ h => compared.right tag among h) complete' staffed' after
      exact ⟨(settled.conforms compared.judged settled').mono fun _ _ raced => .inr ⟨alone, raced⟩,
        fun _ => after'⟩

/-- The passes of a render without a token that begin to resolve tags. -/
def passesOf (renderer : Renderer τ σ) (template : String) (bindings : List Value) (w : World τ σ) :
    List (List ViewTag) :=
  (renderer.steps bindings false).passesFrom renderer.maxPasses {} template w

/-- The tags that a render without a token resolves, pass by pass. -/
def tagsResolved (renderer : Renderer τ σ) (template : String) (bindings : List Value)
    (w : World τ σ) : List ViewTag :=
  (renderer.passesOf template bindings w).flatten

/-- Renders with such registries conform, if they interpolate alike. -/
theorem compose_conforming {template : String} {bindings : List Value} {w w' : World τ σ}
    (compared : Registry.Compared excused apart related answer answer'
      (({ renderer with registry := registry', course := course' }).tagsResolved template bindings w')
      registry registry')
    (complete : renderer.maxWorkers = 1 ∨ ∀ workers, (course workers false).Complete)
    (complete' : renderer.maxWorkers = 1 ∨ ∀ workers, (course' workers false).Complete)
    (interpolate : ∀ {w w'}, related w w' → ∀ text, Alike related
      (renderer.interpolate bindings text w) (renderer.interpolate bindings text w'))
    (h : related w w') :
    Conforming excused
      (fun e e' => ∃ tags ∈ ({ renderer with registry := registry', course := course' }).passesOf
        template bindings w',
          Stands apart renderer.maxWorkers (fun tag e => answer' tag = .error e) tags e e') related
      (({ renderer with registry, course }).compose template bindings false w)
      (({ renderer with registry := registry', course := course' }).compose template bindings false
        w') := by
  let right : Renderer τ σ := { renderer with registry := registry', course := course' }
  have conform : Steps.ConformAmong excused
      (Stands apart renderer.maxWorkers fun tag e => answer' tag = .error e)
      (right.passesOf template bindings w') related
      (({ renderer with registry, course }).steps bindings false) (right.steps bindings false) :=
    { expands := congrArg (!·) compared.empty
      find := rfl
      check := fun _ _ => rfl
      interpolate
      resolve := fun h tags among => resolve_conforming
        (compared.mono fun tag there => List.mem_flatten_of_mem among there) complete complete' h
      note := fun h message => compared.note h _ _ message }
  exact conform.expandFrom h renderer.maxPasses fun _ taken => taken

end Renderer

end TagWeave
