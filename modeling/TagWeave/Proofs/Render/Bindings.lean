import TagWeave.Proofs.Mustache.Values
import TagWeave.Proofs.Render.Contents
import TagWeave.Proofs.Render.Pool
import TagWeave.Proofs.Retrieval.Untouched

/-!
# Bindings that do not matter

A pass interpolates the whole text again, with the values that earlier passes have put
in. If a value opens a tag, or two values together do, a later pass fills it in: so a
value can show the binding of a name that the template does not have. As long as no
later text opens a tag, only the bindings of the names in the template matter. This is
so if no value opens a tag, no two of them do together, and the contents of view tags
have no braces.
-/

namespace TagWeave

open TagWeave.Mustache

/-! ### Resolving tags leaves the memory of interpolations alone -/

section

variable {τ σ : Type} [Add τ] [LE τ] [DecidableLE τ]

theorem Registry.memory_resolve (registry : Registry τ σ) (guarded : Bool) (tag : ViewTag)
    (world : World τ σ) : (registry.resolve guarded tag world).2.memory = world.memory := by
  rw [resolve]
  split
  · rfl
  · split
    · rfl
    · next retriever _ =>
      have asked := retriever.memory_retrieve tag guarded world
      generalize retriever.retrieve tag guarded world = answered at asked
      obtain ⟨e | content | value, next⟩ := answered
      · exact asked
      · exact asked
      · exact asked

theorem Renderer.memory_resolve (renderer : Renderer τ σ) (guarded : Bool) (tags : List ViewTag)
    (world : World τ σ) : (renderer.resolve guarded tags world).2.memory = world.memory := by
  let kept : World τ σ → Prop := fun next => next.memory = world.memory
  have start : kept world := rfl
  have each : ∀ tag next, kept next → kept (renderer.registry.resolve guarded tag next).2 :=
    fun tag next h => (renderer.registry.memory_resolve guarded tag next).trans h
  simp only [resolve]
  split
  · exact resolveInTurn_keeps each tags start
  · split
    · rfl
    · have timed : ∀ tag next, kept next →
          kept (World.timed (renderer.registry.resolve guarded tag) next).2 :=
        fun tag next h => each tag _ h
      exact resolvePooled_keeps timed _ tags start

end

/-! ### Interpolating stencils -/

namespace Renderer

variable {τ σ : Type} {renderer : Renderer τ σ}

/-- The renderer interpolates by mustache, and has no bindings of its own. -/
structure Mustaches (renderer : Renderer τ σ) : Prop where
  engine : renderer.engine? = none
  language : ∃ warn, renderer.interpolator = .mustache warn
  bindings : renderer.bindings = []

/-- A stencil is filled in with the texts of the mapping. -/
theorem Mustaches.interpolate (mustaches : renderer.Mustaches) {slots : List Slot}
    (plain : ∀ slot ∈ slots, slot.Plain) {rest : List Char} (unopened : ¬ opener <:+: rest)
    (fields : List (String × String)) {world : World τ σ} (fresh : world.memory.known = []) :
    renderer.interpolate [.ofTexts fields] (String.ofList (sourceOf slots rest)) world =
      (.ok (String.ofList (fillOf (fun name => (fields.lookup name).getD "") slots rest)),
        { world with
          memory := slots.foldl (Memory.afterSlot fun name => fields.lookup name)
            { world.memory with lines := {} } }) := by
  obtain ⟨absent, ⟨warn, language⟩, none⟩ := mustaches
  rw [Renderer.interpolate, absent, language, none]
  simp only [Interpolator.interpolate_mustache, List.nil_append,
    interpolate_sourceOf plain unopened _ fields fresh]

/-- A text is a stencil, in the names of which two mappings agree. -/
def AgreeIn (fields fields' : List (String × String)) (text : String) : Prop :=
  ∃ slots rest, (∀ slot ∈ slots, slot.Plain) ∧ ¬ opener <:+: rest ∧
    (∀ slot ∈ slots, fields.lookup slot.name = fields'.lookup slot.name) ∧
    text = String.ofList (sourceOf slots rest)

/-- They agree in a text without tags. -/
theorem agreeIn_of_unopened {text : String} (unopened : ¬ opener <:+: text.toList)
    (fields fields' : List (String × String)) : AgreeIn fields fields' text :=
  ⟨[], text.toList, by simp, unopened, by simp, String.ofList_toList.symm⟩

variable {fields fields' : List (String × String)} {guarded : Bool}

/-- Mappings that agree in a text are the same to its interpolation. -/
theorem Mustaches.interpolate_congr (mustaches : renderer.Mustaches) {text : String}
    (agree : AgreeIn fields fields' text) {world : World τ σ} (fresh : world.memory.known = []) :
    renderer.interpolate [.ofTexts fields'] text world =
        renderer.interpolate [.ofTexts fields] text world ∧
      (renderer.interpolate [.ofTexts fields] text world).2.memory.known = [] := by
  obtain ⟨slots, rest, plain, unopened, agree, rfl⟩ := agree
  have filled : fillOf (fun name => (fields.lookup name).getD "") slots rest =
      fillOf (fun name => (fields'.lookup name).getD "") slots rest :=
    fillOf_congr (fun slot hslot => congrArg (Option.getD · "") (agree slot hslot)) rest
  have noted : slots.foldl (Memory.afterSlot fun name => fields.lookup name)
      { world.memory with lines := {} } =
        slots.foldl (Memory.afterSlot fun name => fields'.lookup name)
          { world.memory with lines := {} } := foldl_afterSlot_congr agree _
  rw [mustaches.interpolate plain unopened fields fresh,
    mustaches.interpolate plain unopened fields' fresh, filled, noted]
  exact ⟨rfl, (known_foldl_afterSlot _ _ _).trans fresh⟩

variable [Add τ] [LE τ] [DecidableLE τ]

/-- No text that comes about within so many passes opens a tag of the template language. -/
def OpensNoMore (renderer : Renderer τ σ) (bindings : List Value) (guarded : Bool) (allowed : Nat)
    (stage : Stage (World τ σ)) : Prop :=
  ∀ passes last, (renderer.steps bindings guarded).Run stage passes last → passes ≠ [] →
    passes.length ≤ allowed → ¬ opener <:+: last.text.toList

/-- A pass changes the memory of interpolations only when it interpolates. -/
theorem memory_of_performs {bindings : List Value} {stage next : Stage (World τ σ)} {pass : Pass}
    (performs : (renderer.steps bindings guarded).Performs stage pass next) :
    next.state.memory = (renderer.interpolate bindings stage.text stage.state).2.memory := by
  obtain ⟨between, surveyed, resolved⟩ := performs.surveys
  have interpolated : renderer.interpolate bindings stage.text stage.state = (.ok pass.text, between) :=
    Steps.interpolate_of_survey surveyed
  have kept := renderer.memory_resolve guarded pass.tags
    (between.note Log.debug .passes (Steps.passNote (stage.report.passes + 1) pass.tags))
  have resolved : renderer.resolve guarded pass.tags (between.note Log.debug .passes
    (Steps.passNote (stage.report.passes + 1) pass.tags)) = (.ok pass.resolved, next.state) := resolved
  rw [resolved] at kept
  rw [interpolated]
  exact kept

/-- A run goes on from texts that mappings agree in to such texts, if it opens no more tags. -/
theorem Mustaches.agreeIn_of_run (mustaches : renderer.Mustaches) {stage last : Stage (World τ σ)}
    {passes : List Pass} (run : (renderer.steps [.ofTexts fields] guarded).Run stage passes last)
    (fresh : stage.state.memory.known = []) (agree : AgreeIn fields fields' stage.text)
    (unopened : renderer.OpensNoMore [.ofTexts fields] guarded passes.length stage) :
    last.state.memory.known = [] ∧ AgreeIn fields fields' last.text := by
  induction run with
  | nil stage => exact ⟨fresh, agree⟩
  | @cons stage mid last pass passes first rest ih =>
      have closed := unopened [pass] mid (.cons first (.nil mid)) (List.cons_ne_nil _ _)
        (Nat.succ_le_succ (Nat.zero_le _))
      refine ih ?_ (agreeIn_of_unopened closed fields fields') ?_
      · rw [memory_of_performs first]
        exact (mustaches.interpolate_congr agree fresh).2
      · intro passes last run nonempty short
        exact unopened _ last (.cons first run) (List.cons_ne_nil _ _) (Nat.succ_le_succ short)

/-- If mappings agree in a text, and no later text opens a tag, then they are the same to the whole
expansion. -/
theorem Mustaches.expandAt_congr (mustaches : renderer.Mustaches) {allowed : Nat}
    {stage : Stage (World τ σ)} (fresh : stage.state.memory.known = [])
    (agree : AgreeIn fields fields' stage.text)
    (unopened : renderer.OpensNoMore [.ofTexts fields] guarded allowed stage) (limit : Nat) :
    (renderer.steps [.ofTexts fields'] guarded).expandAt limit allowed stage =
      (renderer.steps [.ofTexts fields] guarded).expandAt limit allowed stage := by
  have same : ∀ passes last, (renderer.steps [.ofTexts fields] guarded).Run stage passes last →
      passes.length ≤ allowed → renderer.interpolate [.ofTexts fields'] last.text last.state =
        renderer.interpolate [.ofTexts fields] last.text last.state := by
    intro passes last run short
    have within : renderer.OpensNoMore [.ofTexts fields] guarded passes.length stage :=
      fun others last run nonempty shorter =>
        unopened others last run nonempty (shorter.trans short)
    obtain ⟨fresh, agree⟩ := mustaches.agreeIn_of_run run fresh agree within
    exact (mustaches.interpolate_congr agree fresh).1
  exact Steps.expandAt_congr same limit

/-! ### Values that open no tags -/

/-- In sound worlds, which interpolation keeps, retrievers return only contents without opening
braces. -/
structure Braceless (renderer : Renderer τ σ) (guarded : Bool) (sound : World τ σ → Prop) : Prop
    extends Yields renderer guarded sound fun content => '\x7b' ∉ content.text.toList where
  remember : ∀ {world}, sound world → ∀ memory, sound { world with memory }

variable {sound : World τ σ → Prop} {R : Char → Char → Prop}

/-- If the opening braces are kept apart in a stencil that is filled in, they are so in the next
text. -/
theorem Braceless.chain_of_performs (braceless : renderer.Braceless guarded sound)
    (mustaches : renderer.Mustaches) (seals : Seals R) {stage next : Stage (World τ σ)} {pass : Pass}
    (performs : (renderer.steps [.ofTexts fields] guarded).Performs stage pass next)
    (start : sound stage.state) (fresh : stage.state.memory.known = []) {slots : List Slot}
    (plain : ∀ slot ∈ slots, slot.Plain) {rest : List Char} (unopened : ¬ opener <:+: rest)
    (source : stage.text = String.ofList (sourceOf slots rest))
    (apart : List.IsChain R (fillOf (fun name => (fields.lookup name).getD "") slots rest)) :
    sound next.state ∧ next.state.memory.known = [] ∧ List.IsChain R next.text.toList := by
  have interpolated := mustaches.interpolate plain unopened fields fresh
  have known := memory_of_performs performs
  rw [source, interpolated] at known
  obtain ⟨between, surveyed, resolved⟩ := performs.surveys
  have filled : renderer.interpolate [.ofTexts fields] stage.text stage.state =
      (.ok pass.text, between) := Steps.interpolate_of_survey surveyed
  rw [source, interpolated] at filled
  obtain ⟨same, rfl⟩ := Prod.mk.inj filled
  obtain ⟨after, whole, free⟩ := braceless.resolves
    (braceless.note (braceless.remember start _) _ _ _) resolved
  refine ⟨after, ?_, ?_⟩
  · rw [known]
    exact (known_foldl_afterSlot _ _ _).trans fresh
  · have found := Steps.find_of_survey surveyed (.inr performs.tags_ne_nil)
    rw [performs.text]
    apply seals.substitute found whole free
    rw [← Except.ok.inj same, String.toList_ofList]
    exact apart

/-- They stay so in all texts that passes lead to. -/
theorem Braceless.chain_of_run (braceless : renderer.Braceless guarded sound)
    (mustaches : renderer.Mustaches) (seals : Seals R) {stage last : Stage (World τ σ)}
    {passes : List Pass} (run : (renderer.steps [.ofTexts fields] guarded).Run stage passes last)
    (start : sound stage.state) (fresh : stage.state.memory.known = [])
    (apart : List.IsChain R stage.text.toList) : List.IsChain R last.text.toList := by
  induction run with
  | nil stage => exact apart
  | @cons stage mid last pass passes first rest ih =>
      -- a text without tags is a stencil without variables
      have source : stage.text = String.ofList (sourceOf [] stage.text.toList) :=
        String.ofList_toList.symm
      obtain ⟨after, fresh, apart⟩ := braceless.chain_of_performs mustaches seals first start fresh
        (by simp) (seals.not_infix apart) source apart
      exact ih after fresh apart

/-- If no value of a stencil opens a tag, and no two of them do together, then no later text does. -/
theorem Braceless.opensNoMore (braceless : renderer.Braceless guarded sound)
    (mustaches : renderer.Mustaches) {world : World τ σ} (start : sound world)
    (fresh : world.memory.known = []) {slots : List Slot} (plain : ∀ slot ∈ slots, slot.Plain)
    {rest : List Char} (last : '\x7b' ∉ rest)
    (harmless : Harmless (fun name => (fields.lookup name).getD "") slots) (allowed : Nat) :
    renderer.OpensNoMore [.ofTexts fields] guarded allowed
      ⟨{}, String.ofList (sourceOf slots rest), world⟩ := by
  obtain ⟨R, seals, apart⟩ := harmless.exists_seals plain last
  have unopened : ¬ opener <:+: rest := fun within => last (within.subset (List.mem_cons_self ..))
  intro passes stage run nonempty _
  cases run with
  | nil => exact absurd rfl nonempty
  | cons first others =>
      obtain ⟨after, fresh, apart⟩ := braceless.chain_of_performs mustaches seals first start fresh
        plain unopened rfl apart
      exact seals.not_infix (braceless.chain_of_run mustaches seals others after fresh apart)

/-- The outcome of a render, and the world that it leaves, depend on the bindings of the names in the
template only, if no later text opens a tag. This is so in particular if no value opens a tag, and no
two of them do together, and retrievers return no opening braces. -/
theorem compose_congr_of_agree (mustaches : renderer.Mustaches) {slots : List Slot}
    (plain : ∀ slot ∈ slots, slot.Plain) {rest : List Char} (last : '\x7b' ∉ rest)
    (agree : ∀ slot ∈ slots, fields.lookup slot.name = fields'.lookup slot.name)
    {world : World τ σ} (fresh : world.memory.known = [])
    (closed : renderer.OpensNoMore [.ofTexts fields] guarded renderer.maxPasses
        ⟨{}, String.ofList (sourceOf slots rest), world⟩ ∨
      (∃ sound, renderer.Braceless guarded sound ∧ sound world) ∧
        Harmless (fun name => (fields.lookup name).getD "") slots) :
    renderer.compose (String.ofList (sourceOf slots rest)) [.ofTexts fields'] guarded world =
      renderer.compose (String.ofList (sourceOf slots rest)) [.ofTexts fields] guarded world := by
  have unopened : ¬ opener <:+: rest := fun within => last (within.subset (List.mem_cons_self ..))
  have noMore : renderer.OpensNoMore [.ofTexts fields] guarded renderer.maxPasses
      ⟨{}, String.ofList (sourceOf slots rest), world⟩ := by
    rcases closed with closed | ⟨⟨sound, braceless, start⟩, harmless⟩
    · exact closed
    · exact braceless.opensNoMore mustaches start fresh plain last harmless _
  have expanded := mustaches.expandAt_congr fresh
    ⟨slots, rest, plain, unopened, agree, rfl⟩ noMore renderer.maxPasses
  exact expanded

/-- Invitations, whose end is a fragment. -/
def invitation : Renderer Nat Nat where
  registry := ⟨[("block", .static { text := "!" })]⟩
  finder := ⟨["block"]⟩
  interpolator := .mustache false
  maxPasses := 32
  maxWorkers := 1

theorem invitation_mustaches : invitation.Mustaches := ⟨rfl, ⟨false, rfl⟩, rfl⟩

theorem invitation_braceless : invitation.Braceless false fun _ => True where
  retrieve := by
    intro world _ tag retriever found
    refine ⟨trivial, ?_⟩
    intro content returned
    obtain ⟨entry, there, rfl⟩ := Option.map_eq_some_iff.mp found
    have among := List.mem_of_find?_eq_some there
    simp only [invitation, List.mem_cons, List.not_mem_nil, or_false] at among
    rw [among] at returned
    cases returned
    decide
  note := fun _ _ _ _ => trivial
  delayed := fun _ _ => trivial
  ends := .inl rfl
  remember := fun _ _ => trivial

/-- The only variable of an invitation. -/
def address : Slot := ⟨[], "name"⟩

theorem address_plain : ∀ slot ∈ [address], slot.Plain := by
  intro slot hslot
  rw [List.mem_singleton.mp hslot]
  exact ⟨by decide, isVariable_of_isNameChar (by decide) (List.all_eq_true.mp (by decide))⟩

/-- The bindings of a guest who is not to know the secret. -/
def guest (name secret : String) : List (String × String) := [("name", name), ("secret", secret)]

/-- A guest whose name has a single brace sees the same with any secret. -/
theorem invitation_keeps_secret :
    (∀ slot ∈ [address], slot.Plain) ∧ '\x7b' ∉ "<block/>".toList ∧
    (∀ slot ∈ [address],
      (guest "\x7bAnn\x7d" "A").lookup slot.name = (guest "\x7bAnn\x7d" "B").lookup slot.name) ∧
    morning.memory.known = [] ∧
    invitation.compose (String.ofList (sourceOf [address] "<block/>".toList))
        [.ofTexts (guest "\x7bAnn\x7d" "B")] false morning =
      invitation.compose (String.ofList (sourceOf [address] "<block/>".toList))
        [.ofTexts (guest "\x7bAnn\x7d" "A")] false morning := by
  have last : '\x7b' ∉ "<block/>".toList := by decide
  have agree : ∀ slot ∈ [address],
      (guest "\x7bAnn\x7d" "A").lookup slot.name = (guest "\x7bAnn\x7d" "B").lookup slot.name := by
    intro slot hslot
    rw [List.mem_singleton.mp hslot]
    rfl
  have harmless :
      Harmless (fun name => ((guest "\x7bAnn\x7d" "A").lookup name).getD "") [address] := by
    constructor
    · intro slot hslot
      rw [List.mem_singleton.mp hslot]
      decide
    · left
      intro slot hslot
      rw [List.mem_singleton.mp hslot]
      decide
  exact ⟨address_plain, last, agree, rfl,
    compose_congr_of_agree invitation_mustaches address_plain last agree rfl
      (.inr ⟨⟨_, invitation_braceless, trivial⟩, harmless⟩)⟩

/-- A guest whose name opens a tag sees the secret: the second pass fills it in. -/
theorem invitation_shows_secret :
    invitation.Mustaches ∧ (invitation.Braceless false fun _ => True) ∧
    (∀ slot ∈ [address], slot.Plain) ∧ '\x7b' ∉ "<block/>".toList ∧
    (∀ secret secret' : String, ∀ slot ∈ [address],
      (guest "\x7b\x7bsecret\x7d\x7d" secret).lookup slot.name =
        (guest "\x7b\x7bsecret\x7d\x7d" secret').lookup slot.name) ∧
    morning.memory.known = [] ∧
    (invitation.compose (String.ofList (sourceOf [address] "<block/>".toList))
      [.ofTexts (guest "\x7b\x7bsecret\x7d\x7d" "A")] false morning).1.toOption.map (·.1) =
        some "A!" ∧
    (invitation.compose (String.ofList (sourceOf [address] "<block/>".toList))
      [.ofTexts (guest "\x7b\x7bsecret\x7d\x7d" "B")] false morning).1.toOption.map (·.1) =
        some "B!" := by
  refine ⟨invitation_mustaches, invitation_braceless, address_plain, by decide, ?_, rfl, ?_, ?_⟩
  · intro secret secret' slot hslot
    rw [List.mem_singleton.mp hslot]
    rfl
  · decide +kernel
  · decide +kernel

end Renderer

end TagWeave
