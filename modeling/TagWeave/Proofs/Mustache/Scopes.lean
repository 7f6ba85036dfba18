import TagWeave.Proofs.Mustache.Nesting

/-!
# Scopes that look alike

Two stacks of scopes look alike if they have the same innermost scope, the same is found in
them under every key, and what is behind the innermost scope makes no difference where that
matters: for whether all is skipped if it counts as nothing, and for what the value true
stands for. They still do when the same scope is pushed onto both.

If the sections of a template, of what it includes and of what its lambdas render are only
opened where this is allowed, rendering it comes back to the scopes that it began with, and
never sees more of two stacks that look alike than what they have in common.
-/

namespace TagWeave.Mustache

open TagWeave.Text

/-- Two stacks of scopes look alike. -/
inductive Alike : List Value → List Value → Prop
  | mk {current : Value} {outer outer' : List Value}
      (found : ∀ key, search (keyParts key) (current :: outer) =
        search (keyParts key) (current :: outer'))
      (skipped : current.truthy = false → outer.isEmpty = outer'.isEmpty)
      (behind : current = .bool true → outer.head? = outer'.head?) :
      Alike (current :: outer) (current :: outer')

namespace Alike

variable {scopes scopes' : List Value}

theorem search_eq (alike : Alike scopes scopes') (key : String) :
    search (keyParts key) scopes = search (keyParts key) scopes' := by
  cases alike with
  | mk found _ _ => exact found key

/-- Pushing a scope keeps them alike. -/
theorem cons (alike : Alike scopes scopes') (scope : Value) :
    Alike (scope :: scopes) (scope :: scopes') := by
  refine .mk (fun key => ?_) ?_ ?_
  · rw [search, search, alike.search_eq]
  · cases alike
    exact fun _ => rfl
  · cases alike
    exact fun _ => rfl

theorem append (alike : Alike scopes scopes') (inner : List Value) :
    Alike (inner ++ scopes) (inner ++ scopes') := by
  induction inner with
  | nil => exact alike
  | cons scope inner ih => exact ih.cons scope

theorem lookup_eq (alike : Alike scopes scopes') (key : String) :
    lookup key scopes = lookup key scopes' := by
  rw [lookup, lookup, alike.search_eq]
  cases alike
  rfl

theorem variableValue_eq (alike : Alike scopes scopes') (key : String) :
    variableValue key scopes = variableValue key scopes' := by
  rw [variableValue, variableValue, alike.lookup_eq]
  by_cases point : key = "."
  · subst point
    cases alike with
    | @mk current outer outer' _ _ behind =>
        have found : lookup "." (current :: outer') = pure current := if_pos rfl
        rw [found, pure_bind, pure_bind]
        cases current with
        | bool b =>
            cases b with
            | false => rfl
            | true =>
                have same := behind rfl
                cases outer <;> cases outer' <;> cases same <;> rfl
        | _ => rfl
  · refine congrArg (lookup key scopes' >>= ·) (funext fun value => ?_)
    split
    · exact absurd rfl point
    · exact absurd rfl point
    · split
      · exact absurd rfl point
      · exact absurd rfl point
      · rfl

end Alike

/-! ### What is asked of the host -/

/-- Every text that a script has rendered is such. -/
inductive Script.Renders (such : String → Prop) : Script → Prop
  | done (text? : Option String) : Renders such (.done text?)
  | fail (fault : Fault) : Renders such (.fail fault)
  | render {text : String} {scope : Value} {next : String → Script} :
      such text → (∀ output, Renders such (next output)) → Renders such (.render text scope next)

theorem Script.Renders.mono {such such' : String → Prop} (more : ∀ text, such text → such' text)
    {script : Script} (renders : script.Renders such) : script.Renders such' := by
  induction renders with
  | done text? => exact .done text?
  | fail fault => exact .fail fault
  | render holds _ ih => exact .render (more _ holds) ih

/-- A template opens sections only where the host allows it. -/
def Tidy (host : Host) (text : List Char) : Prop := Nests host.allows [] (scan text)

/-- So do the templates that the host includes, and those that its lambdas have rendered, which may
also render the text of their section. -/
structure Host.Tidy (host : Host) : Prop where
  included : ∀ key text, host.included key = .ok text → Mustache.Tidy host text.toList
  lambdas : ∀ name lambda, host.lambda? name = some lambda → ∀ text, (lambda text).Renders
    fun inner => inner = text ∨ Mustache.Tidy host inner.toList

/-- The known tokens nest, and some texts are known. -/
def Recalls (host : Host) (texts : List String) (known : Known) : Prop :=
  (∀ entry ∈ known, Nests host.allows [] (entry.2.map .token)) ∧
    ∀ text ∈ texts, ∃ entry ∈ known, entry.1 = text.toList

theorem Recalls.cons {host : Host} {texts : List String} {known : Known} {text : List Char}
    {tokens : List Token} (recalls : Recalls host texts known)
    (nests : Nests host.allows [] (tokens.map .token)) :
    Recalls host (String.ofList text :: texts) ((text, tokens) :: known) := by
  refine ⟨List.forall_mem_cons.mpr ⟨nests, recalls.1⟩, List.forall_mem_cons.mpr ⟨?_, ?_⟩⟩
  · exact ⟨_, List.mem_cons_self, String.toList_ofList.symm⟩
  · intro other member
    obtain ⟨entry, there, same⟩ := recalls.2 other member
    exact ⟨entry, List.mem_cons_of_mem _ there, same⟩

theorem Recalls.of_cons {host : Host} {texts : List String} {known : Known} {text : String}
    (recalls : Recalls host (text :: texts) known) : Recalls host texts known :=
  ⟨recalls.1, (List.forall_mem_cons.mp recalls.2).2⟩

/-- The outputs are the same, and both sides are back at the scopes that they began with. -/
def Resumes (host : Host) (texts : List String) (scopes scopes' : List Value)
    (a b : List Char × List Value) (known : Known) : Prop :=
  Recalls host texts known ∧ a.1 = b.1 ∧ a.2 = scopes ∧ b.2 = scopes'

/-- A renderer of inner templates does not tell apart scopes that look alike. -/
def Steady (host : Host) (nested : Renderer) : Prop :=
  ∀ texts text padding scopes scopes', Alike scopes scopes' →
    (text ∈ texts ∨ Tidy host text.toList) →
    Agree (Recalls host texts) (Resumes host texts scopes scopes')
      (nested text.toList padding scopes) (nested text.toList padding scopes')

section

variable {host : Host} {nested : Renderer} {texts : List String} {scopes scopes' : List Value}

theorem agree_lookup (key : String) :
    Agree (Recalls host texts) (fun value value' known => Recalls host texts known ∧ value = value')
      (lookup key scopes) (lookup key scopes) := by
  rw [lookup]
  split
  · exact .pure fun _ recalls => ⟨recalls, rfl⟩
  · split
    · exact .pure fun _ recalls => ⟨recalls, rfl⟩
    · exact .throw _
    · exact .bind (.modify fun _ recalls => recalls) fun _ _ => .pure fun _ recalls => ⟨recalls, rfl⟩

theorem agree_variableValue (key : String) :
    Agree (Recalls host texts) (fun value value' known => Recalls host texts known ∧ value = value')
      (variableValue key scopes) (variableValue key scopes) := by
  rw [variableValue]
  refine .bind_eq (agree_lookup key) fun value => ?_
  split
  · exact .pure fun _ recalls => ⟨recalls, rfl⟩
  · exact .throw _
  · exact .pure fun _ recalls => ⟨recalls, rfl⟩

/-- A lambda's script renders what it is allowed to. -/
theorem agree_runScript (steady : Steady host nested) (alike : Alike scopes scopes') {script : Script}
    (renders : script.Renders fun text => text ∈ texts ∨ Tidy host text.toList)
    (padding : List Char) :
    Agree (Recalls host texts) (Resumes host texts scopes scopes')
      (runScript nested padding scopes script) (runScript nested padding scopes' script) := by
  induction renders with
  | done text? =>
      cases text? with
      | none => exact .throw _
      | some text => exact .pure fun _ recalls => ⟨recalls, rfl, rfl, rfl⟩
  | fail fault => exact .throw _
  | @render text scope next such _ ih =>
      rw [runScript, runScript]
      split
      · refine .bind (steady _ _ _ _ _ (alike.cons scope) such) ?_
        rintro ⟨output, _⟩ ⟨_, _⟩ memory ⟨recalls, ⟨⟩, -⟩
        exact ih _ memory recalls
      · refine .bind (steady _ _ _ _ _ alike such) ?_
        rintro ⟨output, _⟩ ⟨_, _⟩ memory ⟨recalls, ⟨⟩, ⟨⟩, ⟨⟩⟩
        exact ih _ memory recalls

/-- An included template is rendered within the scopes there are. -/
theorem agree_runIncluded (tidy : host.Tidy) (steady : Steady host nested)
    (alike : Alike scopes scopes') (key : String) (padding output : List Char) :
    Agree (Recalls host texts) (Resumes host texts scopes scopes')
      (runIncluded host nested key padding scopes output)
      (runIncluded host nested key padding scopes' output) := by
  rw [runIncluded, runIncluded]
  cases included : host.included key with
  | error fault => exact .throw _
  | ok text =>
      have agree := fun padding => steady texts text padding _ _ alike
        (.inr (tidy.included key text included))
      simp only
      split
      · refine .bind (agree _) ?_
        rintro ⟨inner, _⟩ ⟨_, _⟩ memory ⟨recalls, ⟨⟩, ⟨⟩, ⟨⟩⟩
        exact .result ⟨recalls, rfl, rfl, rfl⟩
      · exact agree _

/-- Both sides are back at their scopes, with the same steps before them. -/
def ResumesAt (host : Host) (texts : List String) (outer : List String)
    (scopes scopes' : List Value) (a b : List Char × List Value × List Step) (known : Known) : Prop :=
  Resumes host texts scopes scopes' (a.1, a.2.1) (b.1, b.2.1) known ∧ a.2.2 = b.2.2 ∧
    Nests host.allows outer a.2.2

/-- A lambda's section is taken out, and its text is remembered with its tokens. -/
theorem agree_runLambda (tidy : host.Tidy) (steady : Steady host nested)
    (alike : Alike scopes scopes') {name key : String} {outer : List String} {steps : List Step}
    (nests : Nests host.allows (key :: outer) steps) (padding : List Char) :
    Agree (Recalls host texts) (ResumesAt host texts outer scopes scopes')
      (runLambda host nested name key padding scopes steps)
      (runLambda host nested name key padding scopes' steps) := by
  rw [runLambda, runLambda]
  cases found : host.lambda? name with
  | none =>
      refine .bind (.refl _) ?_
      rintro ⟨text, tokens, rest⟩ _ memory ⟨⟩
      exact .fault _ _
  | some lambda =>
      refine .bind (agree_takeSource ⟨name, lambda, found⟩ (List.not_mem_nil) nests) ?_
      rintro ⟨text, tokens, rest⟩ ⟨_, _, _⟩ memory ⟨⟨⟩, recalls, ⟨⟩, whole, after⟩
      have script : (lambda (String.ofList text)).Renders
          fun inner => inner ∈ String.ofList text :: texts ∨ Mustache.Tidy host inner.toList := by
        refine (tidy.lambdas name lambda found _).mono fun inner such => such.imp_left ?_
        rintro rfl
        exact List.mem_cons_self
      have rendered : Agree (Recalls host (String.ofList text :: texts))
          (ResumesAt host texts outer scopes scopes')
          (runScript nested padding scopes (lambda (String.ofList text)) >>=
            fun left => return (left.1, left.2, rest))
          (runScript nested padding scopes' (lambda (String.ofList text)) >>=
            fun left => return (left.1, left.2, rest)) := by
        refine .bind (agree_runScript steady alike script padding) ?_
        rintro ⟨inner, _⟩ ⟨_, _⟩ memory ⟨recalls, ⟨⟩, ⟨⟩, ⟨⟩⟩
        exact .result ⟨⟨recalls.of_cons, rfl, rfl, rfl⟩, rfl, after⟩
      exact rendered { memory with known := (text, tokens) :: memory.known } (recalls.cons whole)

/-! ### Steps -/

theorem Alike.hides_eq (alike : Alike scopes scopes') : hides scopes = hides scopes' := by
  cases alike with
  | @mk current outer outer' _ skipped _ =>
      rw [hides, hides]
      cases nothing : current.truthy with
      | true => rfl
      | false => rw [skipped nothing]

variable {after : List Char × List Value → List Char × List Value → Known → Prop} {fuel : Nat}
  {steps : List Step} {padding : List Char}

/-- What is neither the beginning nor the end of a section. -/
theorem agree_run_inline (tidy : host.Tidy) (steady : Steady host nested)
    (alike : Alike scopes scopes') {t : Token} (inline : t.isInline)
    (further : ∀ output, Agree (Recalls host texts) after
      (run host nested fuel steps padding scopes output)
      (run host nested fuel steps padding scopes' output)) (output : List Char) :
    Agree (Recalls host texts) after
      (run host nested (fuel + 1) (.token t :: steps) padding scopes output)
      (run host nested (fuel + 1) (.token t :: steps) padding scopes' output) := by
  have same := alike.hides_eq
  cases skipped : hides scopes with
  | true =>
      rw [run_skipped_inline skipped inline, run_skipped_inline (same ▸ skipped) inline]
      exact further output
  | false =>
      rw [skipped] at same
      cases id alike with
      | @mk current outer outer' =>
          cases t with
          | opening | inverted | closing => cases inline
          | text s =>
              rw [run_text skipped, run_text same.symm]
              exact further _
          | escaped key =>
              rw [run_escaped skipped, run_escaped same.symm, alike.variableValue_eq]
              exact .bind_eq (agree_variableValue key) fun value =>
                .bind_eq (agree_textOf value) fun _ => further _
          | plain key =>
              rw [run_plain skipped, run_plain same.symm, alike.lookup_eq]
              exact .bind_eq (agree_lookup key) fun value =>
                .bind_eq (agree_textOf value) fun _ => further _
          | included key =>
              rw [run_included skipped, run_included same.symm]
              refine .bind (agree_runIncluded tidy steady alike key padding output) ?_
              rintro ⟨inner, _⟩ ⟨_, _⟩ memory ⟨recalls, ⟨⟩, ⟨⟩, ⟨⟩⟩
              exact further _ memory recalls
          | delimiters key =>
              rw [run_delimiters skipped, run_delimiters same.symm]
              exact further output
          | unknown key =>
              rw [run_unknown skipped, run_unknown same.symm]
              exact further output

theorem agree_run_inverted (alike : Alike scopes scopes') {key : String}
    (further : ∀ scope output, Agree (Recalls host texts) after
      (run host nested fuel steps padding (scope :: scopes) output)
      (run host nested fuel steps padding (scope :: scopes') output)) (output : List Char) :
    Agree (Recalls host texts) after
      (run host nested (fuel + 1) (.token (.inverted key) :: steps) padding scopes output)
      (run host nested (fuel + 1) (.token (.inverted key) :: steps) padding scopes' output) := by
  have same := alike.hides_eq
  cases skipped : hides scopes with
  | true =>
      rw [run_skipped_inverted skipped, run_skipped_inverted (same ▸ skipped)]
      exact further _ output
  | false =>
      rw [skipped] at same
      cases id alike with
      | @mk current outer outer' =>
          rw [run_inverted skipped, run_inverted same.symm, alike.lookup_eq]
          exact .bind_eq (agree_lookup key) fun _ => further _ _

/-- The tokens of a section are rendered once for each item of a list. -/
theorem agree_items {tokens : List Token}
    (whole : ∀ scope, Agree (Recalls host texts)
      (Resumes host texts (scope :: scopes) (scope :: scopes'))
      (run host nested fuel (tokens.map .token) padding (scope :: scopes) [])
      (run host nested fuel (tokens.map .token) padding (scope :: scopes') []))
    (items : List Value) (output : List Char) :
    Agree (Recalls host texts) (fun a b known => Recalls host texts known ∧ a = b)
      (items.foldlM (fun output item => do
        let (inner, _) ← run host nested fuel (tokens.map .token) padding (item :: scopes) []
        return output ++ inner) output)
      (items.foldlM (fun output item => do
        let (inner, _) ← run host nested fuel (tokens.map .token) padding (item :: scopes') []
        return output ++ inner) output) := by
  refine (Agree.foldlM ?_ output output).weaken (fun _ recalls => ⟨recalls, rfl⟩) fun _ _ _ => id
  rintro item _ output _ memory ⟨recalls, rfl⟩
  refine (whole item).bind ?_ memory recalls
  rintro ⟨inner, _⟩ ⟨_, _⟩ memory ⟨recalls, ⟨⟩, -⟩
  exact .result ⟨recalls, rfl⟩

/-- A section over a list is taken out and rendered once for each item, a section over a lambda is
taken out, and every other section goes on within one more scope. -/
theorem agree_run_opening (tidy : host.Tidy) (steady : Steady host nested)
    (alike : Alike scopes scopes') {key : String} {opened : List String}
    (nests : Nests host.allows (key :: opened) steps)
    (further : ∀ scope output, Agree (Recalls host texts) after
      (run host nested fuel steps padding (scope :: scopes) output)
      (run host nested fuel steps padding (scope :: scopes') output))
    (whole : ∀ scope tokens, Nests host.allows [] tokens →
      Agree (Recalls host texts) (Resumes host texts (scope :: scopes) (scope :: scopes'))
        (run host nested fuel tokens padding (scope :: scopes) [])
        (run host nested fuel tokens padding (scope :: scopes') []))
    (rest : ∀ steps output, Nests host.allows opened steps → Agree (Recalls host texts) after
      (run host nested fuel steps padding scopes output)
      (run host nested fuel steps padding scopes' output)) (output : List Char) :
    Agree (Recalls host texts) after
      (run host nested (fuel + 1) (.token (.opening key) :: steps) padding scopes output)
      (run host nested (fuel + 1) (.token (.opening key) :: steps) padding scopes' output) := by
  have same := alike.hides_eq
  cases skipped : hides scopes with
  | true =>
      rw [run_skipped_opening skipped, run_skipped_opening (same ▸ skipped)]
      exact further _ output
  | false =>
      rw [skipped] at same
      cases id alike with
      | @mk current outer outer' =>
          rw [run_opening skipped, run_opening same.symm, alike.lookup_eq]
          refine .bind_eq (agree_lookup key) fun value => ?_
          split
          · refine .bind (agree_runLambda tidy steady alike nests padding) ?_
            rintro ⟨inner, _, steps⟩ ⟨_, _, _⟩ memory ⟨⟨recalls, ⟨⟩, ⟨⟩, ⟨⟩⟩, ⟨⟩, nests⟩
            exact rest steps _ nests memory recalls
          · next items =>
            have taken : Agree (Recalls host texts) (Taken host (Recalls host texts) [] opened)
                (takeSection key 0 steps) (takeSection key 0 steps) := agree_takeSection nests
            refine taken.bind ?_
            rintro ⟨tokens, steps⟩ ⟨_, _⟩ memory ⟨recalls, ⟨⟩, inside, nests⟩
            have rendered := (agree_items (fun scope => whole scope _ inside) items output).bind_eq
              fun output => rest steps output nests
            exact rendered memory recalls
          · exact further _ _

/-- Following steps that nest leads back to the scopes in which the first section that is open was
opened. -/
theorem agree_run (tidy : host.Tidy) (steady : Steady host nested) (fuel : Nat) {steps : List Step}
    {opened : List String} (nests : Nests host.allows opened steps) (padding : List Char)
    {scopes scopes' inner : List Value} (alike : Alike scopes scopes')
    (level : inner.length = opened.length) (output : List Char) :
    Agree (Recalls host texts) (Resumes host texts scopes scopes')
      (run host nested fuel steps padding (inner ++ scopes) output)
      (run host nested fuel steps padding (inner ++ scopes') output) := by
  induction fuel generalizing steps opened scopes scopes' inner output with
  | zero => exact .throw _
  | succ fuel ih =>
      cases nests with
      | done =>
          cases List.length_eq_zero_iff.mp level
          rw [run, run]
          exact .pure fun _ recalls => ⟨recalls, rfl, rfl, rfl⟩
      | lineEnds count nests =>
          rw [run, run]
          exact .bind (agree_countLines count) fun _ _ => ih nests alike level output
      | sectionOpened nests =>
          rw [run, run]
          exact .bind agree_noteOpened fun _ _ => ih nests alike level output
      | fail =>
          rw [run, run]
          exact agree_complain _
      | inline inline nests =>
          exact agree_run_inline tidy steady (alike.append inner) inline (ih nests alike level) output
      | @opening _ _ key allowed nests =>
          have pushed (scope : Value) : (scope :: inner).length = (key :: opened).length :=
            congrArg Nat.succ level
          refine agree_run_opening tidy steady (alike.append inner) nests
            (fun scope => ih nests alike (pushed scope)) (fun scope tokens nests => ?_)
            (fun steps output nests => ih nests alike level output) output
          exact @ih _ _ nests _ _ [] ((alike.append inner).cons scope) rfl []
      | @inverted _ _ key allowed nests =>
          have pushed (scope : Value) : (scope :: inner).length = (key :: opened).length :=
            congrArg Nat.succ level
          exact agree_run_inverted (alike.append inner)
            (fun scope => ih nests alike (pushed scope)) output
      | closing nests =>
          cases inner with
          | nil => cases level
          | cons scope inner =>
              rw [List.cons_append, List.cons_append, run_closing, run_closing]
              exact ih nests alike (Nat.succ.inj level) output

/-- The tokens of a text that is known nest, and so do those that are read. -/
theorem agree_stepsOf {text : String} (such : text ∈ texts ∨ Tidy host text.toList) :
    Agree (Recalls host texts)
      (fun steps steps' known => Recalls host texts known ∧ steps = steps' ∧
        Nests host.allows [] steps)
      (stepsOf text.toList) (stepsOf text.toList) := by
  intro memory recalls
  rcases stepsOf_cases text.toList memory with ⟨entry, member, steps⟩ | ⟨unknown, steps⟩
  · rw [steps]
    exact .result ⟨recalls, rfl, recalls.1 entry member⟩
  · rw [steps]
    rcases such with known | tidy
    · obtain ⟨entry, member, same⟩ := recalls.2 text known
      exact absurd same (unknown entry member)
    · exact .result ⟨recalls, rfl, tidy⟩

/-- Rendering a template that opens sections only where this is allowed does not tell apart scopes that
look alike. -/
theorem steady_renderAt (tidy : host.Tidy) (depth : Nat) : Steady host (renderAt host depth) := by
  induction depth with
  | zero => exact fun _ _ _ _ _ _ _ => .throw _
  | succ depth ih =>
      intro texts text padding scopes scopes' alike such
      refine (agree_stepsOf such).bind ?_
      rintro steps _ memory ⟨recalls, rfl, nests⟩
      exact @agree_run _ _ _ tidy ih _ _ _ nests padding _ _ [] alike rfl [] memory recalls

end

end TagWeave.Mustache
