import TagWeave.Mustache.Render

/-!
# What one token of a template does

A token is skipped if the innermost scope counts as nothing and others stand behind it. It then
adds nothing to the output, and the beginning of a section pushes another scope that counts as
nothing. What is not skipped is shown: a text is padded, a variable is looked up and written, a
section goes on within one more scope or is rendered once for each item of a list. The end of a
section takes a scope away either way.
-/

namespace TagWeave.Mustache

/-- Whether a token neither opens nor closes a section. -/
def Token.isInline : Token → Bool
  | .opening _ | .inverted _ | .closing _ => false
  | _ => true

/-- All is skipped: the innermost scope counts as nothing, and there are others. -/
def hides : List Value → Bool
  | current :: outer => !current.truthy && !outer.isEmpty
  | [] => false

theorem hides_single (scope : Value) : hides [scope] = false := by
  rw [hides, List.isEmpty_nil, Bool.not_true, Bool.and_false]

section

variable {host : Host} {nested : Renderer} {fuel : Nat} {steps : List Step} {padding : List Char}
  {scopes outer : List Value} {current : Value}

/-! ### Tokens that are skipped -/

theorem run_skipped_inline (skipped : hides scopes) {t : Token} (inline : t.isInline)
    (output : List Char) :
    run host nested (fuel + 1) (.token t :: steps) padding scopes output =
      run host nested fuel steps padding scopes output := by
  cases scopes with
  | nil => cases skipped
  | cons current outer =>
      cases t with
      | opening | inverted | closing => cases inline
      | text | escaped | plain | included | delimiters | unknown =>
          rw [run]
          exact (if_neg Bool.false_ne_true).trans (if_pos skipped)

/-- What is pushed for a section that is skipped counts as nothing too. -/
theorem run_skipped_opening (skipped : hides scopes) (key : String) (output : List Char) :
    run host nested (fuel + 1) (.token (.opening key) :: steps) padding scopes output =
      run host nested fuel steps padding (.bool false :: scopes) output := by
  cases scopes with
  | nil => cases skipped
  | cons current outer =>
      rw [run]
      exact (if_neg Bool.false_ne_true).trans (if_pos skipped)

theorem run_skipped_inverted (skipped : hides scopes) (key : String) (output : List Char) :
    run host nested (fuel + 1) (.token (.inverted key) :: steps) padding scopes output =
      run host nested fuel steps padding (.bool false :: scopes) output := by
  cases scopes with
  | nil => cases skipped
  | cons current outer =>
      rw [run]
      exact (if_neg Bool.false_ne_true).trans (if_pos skipped)

/-! ### Tokens that are shown -/

variable (shown : hides (current :: outer) = false)

include shown

theorem run_text (s output : List Char) :
    run host nested (fuel + 1) (.token (.text s) :: steps) padding (current :: outer) output =
      run host nested fuel steps padding (current :: outer) (output ++ pad padding s) := by
  rw [run]
  exact (if_neg Bool.false_ne_true).trans (if_neg (ne_true_of_eq_false shown))

theorem run_escaped (key : String) (output : List Char) :
    run host nested (fuel + 1) (.token (.escaped key) :: steps) padding (current :: outer) output =
      (do
        let text ← textOf (← variableValue key (current :: outer))
        run host nested fuel steps padding (current :: outer) (output ++ escape text)) := by
  rw [run]
  exact (if_neg Bool.false_ne_true).trans (if_neg (ne_true_of_eq_false shown))

theorem run_plain (key : String) (output : List Char) :
    run host nested (fuel + 1) (.token (.plain key) :: steps) padding (current :: outer) output =
      (do
        let text ← textOf (← lookup key (current :: outer))
        run host nested fuel steps padding (current :: outer) (output ++ text)) := by
  rw [run]
  exact (if_neg Bool.false_ne_true).trans (if_neg (ne_true_of_eq_false shown))

/-- A section over a lambda is taken out as its source, one over a list is taken out and rendered once
for each item, and every other goes on within one more scope. -/
theorem run_opening (key : String) (output : List Char) :
    run host nested (fuel + 1) (.token (.opening key) :: steps) padding (current :: outer) output =
      (do
        match ← lookup key (current :: outer) with
        | .lambda name =>
          let (inner, scopes, rest) ←
            runLambda host nested name key padding (current :: outer) steps
          run host nested fuel rest padding scopes (output ++ inner)
        | .list items =>
          let (tokens, rest) ← takeSection key 0 steps
          let output ← items.foldlM (fun output item => do
            let (inner, _) ←
              run host nested fuel (tokens.map .token) padding (item :: current :: outer) []
            return output ++ inner) output
          run host nested fuel rest padding (current :: outer) output
        | value => run host nested fuel steps padding (value :: current :: outer) output) := by
  rw [run]
  exact (if_neg Bool.false_ne_true).trans (if_neg (ne_true_of_eq_false shown))

theorem run_inverted (key : String) (output : List Char) :
    run host nested (fuel + 1) (.token (.inverted key) :: steps) padding (current :: outer) output =
      (do
        let value ← lookup key (current :: outer)
        run host nested fuel steps padding (.bool (!value.truthy) :: current :: outer) output) := by
  rw [run]
  exact (if_neg Bool.false_ne_true).trans (if_neg (ne_true_of_eq_false shown))

theorem run_included (key : String) (output : List Char) :
    run host nested (fuel + 1) (.token (.included key) :: steps) padding (current :: outer) output =
      (do
        let (inner, scopes) ← runIncluded host nested key padding (current :: outer) output
        run host nested fuel steps padding scopes (output ++ inner)) := by
  rw [run]
  exact (if_neg Bool.false_ne_true).trans (if_neg (ne_true_of_eq_false shown))

theorem run_delimiters (key : String) (output : List Char) :
    run host nested (fuel + 1) (.token (.delimiters key) :: steps) padding (current :: outer) output =
      run host nested fuel steps padding (current :: outer) output := by
  rw [run]
  exact (if_neg Bool.false_ne_true).trans (if_neg (ne_true_of_eq_false shown))

theorem run_unknown (key : String) (output : List Char) :
    run host nested (fuel + 1) (.token (.unknown key) :: steps) padding (current :: outer) output =
      run host nested fuel steps padding (current :: outer) output := by
  rw [run]
  exact (if_neg Bool.false_ne_true).trans (if_neg (ne_true_of_eq_false shown))

end

/-! ### All tokens -/

/-- A token fails because no scope is left, or the rendering goes on in other scopes without more
output, or the token is shown. Which of these it is does not depend on the host. -/
theorem run_token_cases (t : Token) (scopes : List Value) :
    (∀ host nested fuel steps padding output,
      run host nested (fuel + 1) (.token t :: steps) padding scopes output = failWith .listIndex) ∨
    (∃ scopes', ∀ host nested fuel steps padding output,
      run host nested (fuel + 1) (.token t :: steps) padding scopes output =
        run host nested fuel steps padding scopes' output) ∨
    ∃ current outer, scopes = current :: outer ∧ hides (current :: outer) = false ∧
      ∀ key, t ≠ .closing key := by
  cases scopes with
  | nil =>
      left
      intros
      rw [run]
  | cons current outer =>
      right
      cases skipped : hides (current :: outer) with
      | true =>
          left
          cases t with
          | closing => exact ⟨outer, fun _ _ _ _ _ => run_closing current⟩
          | opening key => exact ⟨_, fun _ _ _ _ _ => run_skipped_opening skipped key⟩
          | inverted key => exact ⟨_, fun _ _ _ _ _ => run_skipped_inverted skipped key⟩
          | text | escaped | plain | included | delimiters | unknown =>
              exact ⟨_, fun _ _ _ _ _ => run_skipped_inline skipped rfl⟩
      | false =>
          cases t with
          | closing => exact .inl ⟨outer, fun _ _ _ _ _ => run_closing current⟩
          | opening | inverted | text | escaped | plain | included | delimiters | unknown =>
              refine .inr ⟨current, outer, rfl, skipped, ?_⟩
              intro key same
              cases same

end TagWeave.Mustache
