import TagWeave.Proofs.Mustache.Scopes

/-!
# What a rendering asks its host for

Two hosts have the same lambdas, and one of them refuses to include some templates. Then a
template is rendered alike with both, unless the rendering comes to a template that the one
refuses: with this host it ends there, with the fault of the refusal.

All other faults are faults of the engine, or raised by a lambda's script.
-/

namespace TagWeave

/-- Whether a fault is one that the application's code raises. -/
def Fault.isRaised : Fault → Bool
  | raised _ _ | unprintable _ _ => true
  | _ => false

namespace Mustache

variable {α β : Type}

/-- A script fails with a fault, if what it has rendered gives the right outputs. -/
inductive Script.Raises (fault : Fault) : Script → Prop
  | fail : Raises fault (.fail fault)
  | render {text : String} {scope : Value} {next : String → Script} (output : String) :
      Raises fault (next output) → Raises fault (.render text scope next)

/-- A lambda raises a fault for some text. -/
def Host.Raises (host : Host) (fault : Fault) : Prop :=
  ∃ name lambda text, host.lambda? name = some lambda ∧ (lambda text).Raises fault

/-- Two hosts with the same lambdas, of which the first one includes no more than the second. -/
structure Host.Within (host host' : Host) : Prop where
  lambdas : host.lambda? = host'.lambda?
  depth : host.depth = host'.depth
  included : ∀ key text, host.included key = .ok text → host'.included key = .ok text

/-- The outcomes of a rendering with two hosts, of which the first one may refuse to include what the
second one includes. -/
inductive Parts (host host' : Host) :
    Except InterpolationFault α × Memory → Except InterpolationFault α × Memory → Prop
  | result (a : α) (memory : Memory) : Parts host host' (.ok a, memory) (.ok a, memory)
  | malformed (fault : SyntaxFault) (memory : Memory) :
      Parts host host' (.error (.mustacheSyntax fault), memory) (.error (.mustacheSyntax fault), memory)
  | failed {fault : Fault} (memory : Memory) : fault.isRaised = false ∨ host.Raises fault →
      Parts host host' (.error (.mustacheFailed fault), memory) (.error (.mustacheFailed fault), memory)
  /-- The rendering has come to a template that the first host refuses. If the second one refuses
  it too, it fails with the fault of this refusal, otherwise it goes on. -/
  | parted {key : String} {fault : Fault} {memory : Memory}
      {outcome : Except InterpolationFault α × Memory} : host.included key = .error fault →
      (∀ fault', host'.included key = .error fault' →
        outcome = (.error (.mustacheFailed fault'), memory)) →
      Parts host host' (.error (.mustacheFailed fault), memory) outcome

/-- Two renderings part only where a template is included. -/
def Parting (host host' : Host) (first second : Rendering α) : Prop :=
  ∀ memory : Memory, Parts host host' (first.run.run memory) (second.run.run memory)

variable {host host' : Host}

namespace Parting

theorem pure (a : α) : Parting host host' (pure a) (Pure.pure a) :=
  fun memory => .result a memory

theorem failWith {fault : Fault} (own : fault.isRaised = false ∨ host.Raises fault) :
    Parting (α := α) host host' (failWith fault) (failWith fault) :=
  fun memory => .failed memory own

theorem bind {first second : Rendering α} {next next' : α → Rendering β}
    (parting : Parting host host' first second)
    (rest : ∀ a, Parting host host' (next a) (next' a)) :
    Parting host host' (first >>= next) (second >>= next') := by
  intro memory
  have parted := parting memory
  rw [ExceptT.run_bind, StateT.run_bind, ExceptT.run_bind, StateT.run_bind]
  generalize first.run.run memory = outcome at parted ⊢
  generalize second.run.run memory = outcome' at parted ⊢
  cases parted with
  | result a memory => exact rest a memory
  | malformed fault memory => exact .malformed fault memory
  | failed memory own => exact .failed memory own
  | parted refused same =>
      refine .parted refused fun fault' refused' => ?_
      rw [same fault' refused']
      rfl

theorem foldlM {ι : Type} {items : List ι} {step step' : α → ι → Rendering α}
    (parting : ∀ a item, Parting host host' (step a item) (step' a item)) (a : α) :
    Parting host host' (items.foldlM step a) (items.foldlM step' a) := by
  induction items generalizing a with
  | nil => exact pure a
  | cons item items ih =>
      rw [List.foldlM_cons, List.foldlM_cons]
      exact bind (parting a item) fun a => ih a

end Parting

/-! ### What asks for nothing -/

theorem parting_countLines (count : Nat) :
    Parting host host' (countLines count) (countLines count) :=
  fun memory => .result () { memory with lines := _ }

theorem parting_noteOpened : Parting host host' noteOpened noteOpened :=
  fun memory => .result () { memory with lines := _ }

theorem parting_complain (complaint : Complaint) :
    Parting (α := α) host host' (complain complaint) (complain complaint) := by
  intro memory
  cases complaint with
  | emptyTag => exact .failed memory (.inl rfl)
  | _ => exact .malformed _ memory

/-- A step to a member fails only because of the type of the value. -/
theorem isRaised_of_member {value : Value} {part : String} {fault : Fault}
    (failed : member value part = .fault fault) : fault.isRaised = false := by
  have noFault {found? : Option Value} : (found?.map Member.found).getD .missing ≠ .fault fault := by
    cases found? <;> nofun
  unfold member at failed
  cases read : Number.readInt part with
  | error fault' =>
      simp only [read] at failed
      split at failed
      · exact absurd failed noFault
      · cases failed
      · cases failed
      · split at failed <;> cases failed
  | ok position =>
      simp only [read] at failed
      split at failed
      · exact absurd failed noFault
      · exact absurd failed noFault
      · exact absurd failed noFault
      · split at failed
        · cases failed
        · cases failed
          rfl

theorem isRaised_of_follow {value : Value} {parts : List String} {fault : Fault}
    (failed : follow value parts = .fault fault) : fault.isRaised = false := by
  induction parts generalizing value with
  | nil => cases failed
  | cons part parts ih =>
      rw [follow] at failed
      split at failed
      · exact ih failed
      · exact isRaised_of_member failed

theorem isRaised_of_search {parts : List String} {scopes : List Value} {fault : Fault}
    (failed : search parts scopes = .fault fault) : fault.isRaised = false := by
  induction scopes with
  | nil => cases failed
  | cons scope scopes ih =>
      rw [search] at failed
      split at failed
      · exact ih failed
      · exact isRaised_of_follow failed

theorem parting_lookup (key : String) (scopes : List Value) :
    Parting host host' (lookup key scopes) (lookup key scopes) := by
  rw [lookup]
  split
  · exact .pure _
  · split
    · exact .pure _
    · next failed => exact .failWith (.inl (isRaised_of_search failed))
    · exact fun memory => .result _ { memory with notFound := _ }

theorem parting_textOf (value : Value) : Parting host host' (textOf value) (textOf value) := by
  unfold textOf
  split
  · exact .pure _
  · exact .failWith (.inl rfl)

theorem parting_variableValue (key : String) (scopes : List Value) :
    Parting host host' (variableValue key scopes) (variableValue key scopes) := by
  rw [variableValue]
  refine (parting_lookup key scopes).bind fun value => ?_
  split
  · exact .pure _
  · exact .failWith (.inl rfl)
  · exact .pure _

theorem parting_takeSection (key : String) (depth : Nat) (steps : List Step) :
    Parting host host' (takeSection key depth steps) (takeSection key depth steps) := by
  induction steps generalizing depth with
  | nil =>
      rw [takeSection]
      exact .pure _
  | cons step steps ih =>
      cases step with
      | lineEnds count =>
          rw [takeSection]
          exact (parting_countLines count).bind fun _ => ih depth
      | sectionOpened =>
          rw [takeSection]
          exact parting_noteOpened.bind fun _ => ih depth
      | fail complaint =>
          rw [takeSection]
          exact parting_complain complaint
      | token t =>
          by_cases closing : t = .closing key
          · subst closing
            cases depth with
            | zero =>
                rw [takeSection_closing_zero]
                exact .pure _
            | succ depth =>
                rw [takeSection_closing_succ]
                exact (ih depth).bind fun _ => .pure _
          · rw [takeSection_of_ne_closing closing]
            exact (ih _).bind fun _ => .pure _

theorem parting_takeSource (key : String) (steps : List Step) :
    Parting host host' (takeSource key steps) (takeSource key steps) := by
  induction steps with
  | nil =>
      rw [takeSource]
      exact .pure _
  | cons step steps ih =>
      cases step with
      | lineEnds count =>
          rw [takeSource]
          exact (parting_countLines count).bind fun _ => ih
      | sectionOpened =>
          rw [takeSource]
          exact parting_noteOpened.bind fun _ => ih
      | fail complaint =>
          rw [takeSource]
          exact parting_complain complaint
      | token t =>
          by_cases closing : t = .closing key
          · subst closing
            rw [takeSource_closing]
            exact .pure _
          · rw [takeSource_of_ne_closing closing]
            cases t.source? with
            | none => exact .failWith (.inl rfl)
            | some source => exact ih.bind fun _ => .pure _

theorem parting_stepsOf (text : List Char) :
    Parting host host' (stepsOf text) (stepsOf text) := by
  intro memory
  rcases stepsOf_cases text memory with ⟨entry, -, steps⟩ | ⟨-, steps⟩
  · rw [steps]
    exact .result _ _
  · rw [steps]
    exact .result _ _

/-! ### What asks the host -/

/-- Two renderers of inner templates part only where a template is included. -/
def PartingRenderers (host host' : Host) (nested nested' : Renderer) : Prop :=
  ∀ text padding scopes, Parting host host' (nested text padding scopes) (nested' text padding scopes)

section

variable {nested nested' : Renderer}

theorem parting_runScript (inner : PartingRenderers host host' nested nested') (padding : List Char)
    (scopes : List Value) {script : Script}
    (raises : ∀ fault, script.Raises fault → host.Raises fault) :
    Parting host host' (runScript nested padding scopes script)
      (runScript nested' padding scopes script) := by
  induction script generalizing scopes with
  | done text? =>
      cases text? with
      | none => exact .failWith (.inl rfl)
      | some text => exact .pure _
  | fail fault => exact .failWith (.inr (raises fault .fail))
  | render text scope next ih =>
      have later (output : String) (fault : Fault) (raised : (next output).Raises fault) :
          host.Raises fault := raises fault (.render output raised)
      rw [runScript, runScript]
      split
      · exact (inner _ _ _).bind fun _ => ih _ _ (later _)
      · exact (inner _ _ _).bind fun _ => ih _ _ (later _)

theorem parting_runIncluded (within : host.Within host')
    (inner : PartingRenderers host host' nested nested') (key : String) (padding : List Char)
    (scopes : List Value) (output : List Char) :
    Parting host host' (runIncluded host nested key padding scopes output)
      (runIncluded host' nested' key padding scopes output) := by
  rw [runIncluded, runIncluded]
  cases included : host.included key with
  | error fault =>
      -- Here the two renderings may part.
      refine fun memory => .parted included fun fault' refused => ?_
      rw [refused]
      rfl
  | ok text =>
      rw [within.included key text included]
      simp only
      split
      · exact (inner _ _ _).bind fun _ => .pure _
      · exact inner _ _ _

theorem parting_runLambda (within : host.Within host')
    (inner : PartingRenderers host host' nested nested') (name key : String) (padding : List Char)
    (scopes : List Value) (steps : List Step) :
    Parting host host' (runLambda host nested name key padding scopes steps)
      (runLambda host' nested' name key padding scopes steps) := by
  rw [runLambda, runLambda, ← within.lambdas]
  refine (parting_takeSource key steps).bind ?_
  rintro ⟨text, tokens, rest⟩
  refine .bind (fun memory => .result () { memory with known := _ }) fun _ => ?_
  cases found : host.lambda? name with
  | none => exact .failWith (.inl rfl)
  | some lambda =>
      have raises (fault : Fault) (raised : (lambda (String.ofList text)).Raises fault) :
          host.Raises fault := ⟨name, lambda, _, found, raised⟩
      exact (parting_runScript inner padding scopes raises).bind fun _ => .pure _

/-- One token, where following the steps behind it parts only where a template is included. -/
theorem parting_run_token (within : host.Within host')
    (inner : PartingRenderers host host' nested nested') {fuel : Nat} {padding : List Char}
    (further : ∀ steps scopes output,
      Parting host host' (run host nested fuel steps padding scopes output)
        (run host' nested' fuel steps padding scopes output))
    (t : Token) (steps : List Step) (scopes : List Value) (output : List Char) :
    Parting host host' (run host nested (fuel + 1) (.token t :: steps) padding scopes output)
      (run host' nested' (fuel + 1) (.token t :: steps) padding scopes output) := by
  obtain fails | ⟨scopes', moves⟩ | ⟨current, outer, rfl, shown, unclosed⟩ :=
    run_token_cases t scopes
  · rw [fails, fails]
    exact .failWith (.inl rfl)
  · rw [moves, moves]
    exact further _ _ _
  · cases t with
    | closing key => exact absurd rfl (unclosed key)
    | text s =>
        rw [run_text shown, run_text shown]
        exact further _ _ _
    | escaped key =>
        rw [run_escaped shown, run_escaped shown]
        exact (parting_variableValue key _).bind fun value =>
          (parting_textOf value).bind fun _ => further _ _ _
    | plain key =>
        rw [run_plain shown, run_plain shown]
        exact (parting_lookup key _).bind fun value =>
          (parting_textOf value).bind fun _ => further _ _ _
    | opening key =>
        rw [run_opening shown, run_opening shown]
        refine (parting_lookup key _).bind fun value => ?_
        split
        · exact (parting_runLambda within inner _ key padding _ steps).bind fun _ =>
            further _ _ _
        · refine (parting_takeSection key 0 steps).bind ?_
          rintro ⟨tokens, rest⟩
          refine .bind (.foldlM (fun output item => ?_) output) fun _ => further _ _ _
          exact (further _ _ _).bind fun _ => .pure _
        · exact further _ _ _
    | inverted key =>
        rw [run_inverted shown, run_inverted shown]
        exact (parting_lookup key _).bind fun _ => further _ _ _
    | included key =>
        rw [run_included shown, run_included shown]
        exact (parting_runIncluded within inner key padding _ output).bind fun _ => further _ _ _
    | delimiters key =>
        rw [run_delimiters shown, run_delimiters shown]
        exact further _ _ _
    | unknown key =>
        rw [run_unknown shown, run_unknown shown]
        exact further _ _ _

theorem parting_run (within : host.Within host')
    (inner : PartingRenderers host host' nested nested') (fuel : Nat) (steps : List Step)
    (padding : List Char) (scopes : List Value) (output : List Char) :
    Parting host host' (run host nested fuel steps padding scopes output)
      (run host' nested' fuel steps padding scopes output) := by
  induction fuel generalizing steps scopes output with
  | zero => exact .failWith (.inl rfl)
  | succ fuel ih =>
      cases steps with
      | nil =>
          rw [run, run]
          exact .pure _
      | cons step steps =>
          cases step with
          | lineEnds count =>
              rw [run, run]
              exact (parting_countLines count).bind fun _ => ih _ _ _
          | sectionOpened =>
              rw [run, run]
              exact parting_noteOpened.bind fun _ => ih _ _ _
          | fail complaint =>
              rw [run, run]
              exact parting_complain complaint
          | token t =>
              exact parting_run_token within inner ih t steps scopes output

end

theorem parting_renderAt (within : host.Within host') (depth : Nat) :
    PartingRenderers host host' (renderAt host depth) (renderAt host' depth) := by
  induction depth with
  | zero => exact fun _ _ _ => .failWith (.inl rfl)
  | succ depth ih =>
      intro text padding scopes
      exact (parting_stepsOf text).bind fun steps =>
        parting_run within ih _ steps padding scopes []

/-- An engine asks its host for one template after the other: with two hosts it renders alike, up to
the first template that one refuses. -/
def Engine.Asks (engine : Engine) : Prop :=
  ∀ {host host' : Host}, host.Within host' → ∀ template scopes,
    Parting host host' (engine host template scopes) (engine host' template scopes)

/-- The library's own engine does so. -/
theorem asks_render : Engine.Asks render := by
  intro host host' within template scopes
  have nested := parting_renderAt within (host.depth + 1)
  rw [within.depth] at nested
  rw [render, render, within.depth]
  exact (nested _ _ _).bind fun _ => .pure _

/-! ### Templates that include none -/

/-- No step includes a template. -/
def Bare (steps : List Step) : Prop := ∀ key, .token (.included key) ∉ steps

section

variable {α β : Type} {memory memory' : Memory}

theorem run_bind_eq_ok {first : Rendering α} {next : α → Rendering β} {b : β}
    (done : (first >>= next).run.run memory = (.ok b, memory')) :
    ∃ a between, first.run.run memory = (.ok a, between) ∧
      (next a).run.run between = (.ok b, memory') := by
  rw [ExceptT.run_bind, StateT.run_bind] at done
  rcases outcome : first.run.run memory with ⟨fault | a, between⟩
  · rw [outcome] at done
    cases done
  · rw [outcome] at done
    exact ⟨a, between, rfl, done⟩

/-- What is rendered next matters only for the results that there are. -/
theorem bind_congr_of_run {first : Rendering α} {next next' : α → Rendering β}
    (same : ∀ memory a memory', first.run.run memory = (.ok a, memory') → next a = next' a) :
    first >>= next = first >>= next' := by
  refine ExceptT.ext (StateT.ext fun memory => ?_)
  rw [ExceptT.run_bind, StateT.run_bind, ExceptT.run_bind, StateT.run_bind]
  rcases outcome : first.run.run memory with ⟨fault | a, memory'⟩
  · rfl
  · exact congrArg (fun next => (next.run.run memory')) (same memory a memory' outcome)

/-- What is taken out of some steps, and what follows it, are among these steps. -/
theorem mem_of_takeSection {key : String} {depth : Nat} {steps rest : List Step}
    {tokens : List Token}
    (taken : (takeSection key depth steps).run.run memory = (.ok (tokens, rest), memory')) :
    (∀ t ∈ tokens, .token t ∈ steps) ∧ ∀ step ∈ rest, step ∈ steps := by
  induction steps generalizing depth tokens rest memory memory' with
  | nil =>
      cases taken
      exact ⟨List.forall_mem_nil _, List.forall_mem_nil _⟩
  | cons step steps ih =>
      have further {depth : Nat} {tokens : List Token} {rest : List Step} {memory memory' : Memory}
          (taken : (takeSection key depth steps).run.run memory = (.ok (tokens, rest), memory')) :
          (∀ t ∈ tokens, .token t ∈ step :: steps) ∧ ∀ other ∈ rest, other ∈ step :: steps :=
        ⟨fun t member => List.mem_cons_of_mem _ ((ih taken).1 t member),
          fun other member => List.mem_cons_of_mem _ ((ih taken).2 other member)⟩
      cases step with
      | lineEnds count =>
          rw [takeSection] at taken
          obtain ⟨_, _, -, taken⟩ := run_bind_eq_ok taken
          exact further taken
      | sectionOpened =>
          rw [takeSection] at taken
          obtain ⟨_, _, -, taken⟩ := run_bind_eq_ok taken
          exact further taken
      | fail complaint =>
          rw [takeSection] at taken
          cases taken
      | token t =>
          have added {depth : Nat}
              (taken : (takeSection key depth steps >>= fun taken =>
                return (t :: taken.1, taken.2)).run.run memory = (.ok (tokens, rest), memory')) :
              (∀ other ∈ tokens, .token other ∈ .token t :: steps) ∧
                ∀ other ∈ rest, other ∈ .token t :: steps := by
            obtain ⟨⟨tokens', rest'⟩, between, taken, same⟩ := run_bind_eq_ok taken
            cases same
            refine ⟨List.forall_mem_cons.mpr ⟨List.mem_cons_self, ?_⟩, (further taken).2⟩
            exact (further taken).1
          by_cases closing : t = .closing key
          · subst closing
            cases depth with
            | zero =>
                rw [takeSection_closing_zero] at taken
                cases taken
                exact ⟨List.forall_mem_nil _, fun other member => List.mem_cons_of_mem _ member⟩
            | succ depth =>
                rw [takeSection_closing_succ] at taken
                exact added taken
          · rw [takeSection_of_ne_closing closing] at taken
            exact added taken

end

section

variable {host host' : Host} {nested nested' : Renderer}

/-- Without lambdas a section over one always fails. -/
theorem runLambda_of_quiet (quiet : host.lambda? = fun _ => none)
    (quiet' : host'.lambda? = fun _ => none) (name key : String) (padding : List Char)
    (scopes : List Value) (steps : List Step) :
    runLambda host nested name key padding scopes steps =
        runLambda host' nested' name key padding scopes steps ∧
      ∀ memory a memory', (runLambda host nested name key padding scopes steps).run.run memory ≠
        (.ok a, memory') := by
  constructor
  · rw [runLambda, runLambda, quiet, quiet']
  · intro memory a memory' done
    rw [runLambda, quiet] at done
    obtain ⟨taken, between, -, done⟩ := run_bind_eq_ok done
    obtain ⟨_, _, -, done⟩ := run_bind_eq_ok done
    cases done

theorem Bare.of_cons {step : Step} {steps : List Step} (bare : Bare (step :: steps)) : Bare steps :=
  fun key member => bare key (List.mem_cons_of_mem _ member)

/-- One token that includes no template. -/
theorem run_token_of_bare (quiet : host.lambda? = fun _ => none)
    (quiet' : host'.lambda? = fun _ => none) {fuel : Nat} {padding : List Char} {t : Token}
    {steps : List Step} (bare : Bare (.token t :: steps))
    (further : ∀ steps scopes output, Bare steps →
      run host nested fuel steps padding scopes output =
        run host' nested' fuel steps padding scopes output)
    (scopes : List Value) (output : List Char) :
    run host nested (fuel + 1) (.token t :: steps) padding scopes output =
      run host' nested' (fuel + 1) (.token t :: steps) padding scopes output := by
  have rest : ∀ scopes output, run host nested fuel steps padding scopes output =
      run host' nested' fuel steps padding scopes output :=
    fun scopes output => further steps scopes output bare.of_cons
  obtain fails | ⟨scopes', moves⟩ | ⟨current, outer, rfl, shown, unclosed⟩ :=
    run_token_cases t scopes
  · rw [fails, fails]
  · rw [moves, moves]
    exact rest _ _
  · cases t with
    | closing key => exact absurd rfl (unclosed key)
    | included key => exact absurd List.mem_cons_self (bare key)
    | opening key =>
        rw [run_opening shown, run_opening shown]
        refine bind_congr fun value => ?_
        split
        · next name =>
          obtain ⟨same, fails⟩ := runLambda_of_quiet quiet quiet' name key padding _ steps
          rw [same]
          refine bind_congr_of_run fun memory a memory' done => ?_
          exact absurd done (same ▸ fails memory a memory')
        · refine bind_congr_of_run ?_
          rintro memory ⟨tokens, left⟩ memory' done
          obtain ⟨inside, behind⟩ := mem_of_takeSection done
          have tokensBare : Bare (tokens.map .token) := by
            intro other member
            obtain ⟨t, there, same⟩ := List.mem_map.mp member
            exact bare.of_cons other (same ▸ inside t there)
          have leftBare : Bare left := fun other member => bare.of_cons other (behind _ member)
          simp only [further _ _ _ tokensBare, further _ _ _ leftBare]
        · exact rest _ _
    | text s => rw [run_text shown, run_text shown, rest]
    | escaped key =>
        rw [run_escaped shown, run_escaped shown]
        simp only [rest]
    | plain key =>
        rw [run_plain shown, run_plain shown]
        simp only [rest]
    | inverted key =>
        rw [run_inverted shown, run_inverted shown]
        simp only [rest]
    | delimiters key => rw [run_delimiters shown, run_delimiters shown, rest]
    | unknown key => rw [run_unknown shown, run_unknown shown, rest]

/-- Steps that include no template are followed in the same way with all hosts without lambdas. -/
theorem run_of_bare (quiet : host.lambda? = fun _ => none) (quiet' : host'.lambda? = fun _ => none)
    (fuel : Nat) {steps : List Step} (bare : Bare steps) (padding : List Char)
    (scopes : List Value) (output : List Char) :
    run host nested fuel steps padding scopes output =
      run host' nested' fuel steps padding scopes output := by
  induction fuel generalizing steps scopes output with
  | zero => rfl
  | succ fuel ih =>
      cases steps with
      | nil => rfl
      | cons step steps =>
          cases step with
          | lineEnds count =>
              rw [run, run]
              exact bind_congr fun _ => ih bare.of_cons scopes output
          | sectionOpened =>
              rw [run, run]
              exact bind_congr fun _ => ih bare.of_cons scopes output
          | fail complaint => rfl
          | token t =>
              exact run_token_of_bare quiet quiet' bare (fun _ scopes output bare =>
                ih bare scopes output) scopes output

end

end Mustache

end TagWeave
