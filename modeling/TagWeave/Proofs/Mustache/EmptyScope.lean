import TagWeave.Proofs.Mustache.Scopes
import TagWeave.Proofs.Text.Split

/-!
# A scope that holds nothing

An empty mapping among the scopes has nothing that could be found in it. Behind another
scope it makes no difference. As the innermost scope, with others behind it, it counts as
nothing, so that all of the template is skipped.
-/

namespace TagWeave.Mustache

open TagWeave.Text

theorem search_empty (key : String) (scopes : List Value) :
    search (keyParts key) (.dict [] :: scopes) = search (keyParts key) scopes := by
  have some : keyParts key ≠ [] := mt List.map_eq_nil_iff.mp (pieces_ne_nil _ _)
  obtain ⟨part, parts, key⟩ := List.exists_cons_of_ne_nil some
  rw [key]
  rfl

theorem search_append_empty (key : String) (front back : List Value) :
    search (keyParts key) (front ++ .dict [] :: back) = search (keyParts key) (front ++ back) := by
  induction front with
  | nil => exact search_empty key back
  | cons scope front ih => rw [List.cons_append, List.cons_append, search, search, ih]

/-- An empty mapping is not seen behind `front`. A single scope there has to count as something, or to
be hidden behind others, and must not be the value true, which stands for the scope behind it. -/
def Covers (back : List Value) : List Value → Prop
  | [] => False
  | [current] => (current.truthy ∨ back ≠ []) ∧ current ≠ .bool true
  | _ :: _ :: _ => True

theorem alike_of_covers {front back : List Value} (covers : Covers back front) :
    Alike (front ++ .dict [] :: back) (front ++ back) := by
  match front, covers with
  | [current], ⟨counts, notTrue⟩ =>
      refine .mk (fun key => search_append_empty key [current] back) (fun nothing => ?_)
        fun same => absurd same notTrue
      rcases counts with counts | others
      · rw [nothing] at counts
        cases counts
      · cases back with
        | nil => exact absurd rfl others
        | cons => rfl
  | current :: next :: front, _ =>
      exact .mk (fun key => search_append_empty key (current :: next :: front) back)
        (fun _ => rfl) fun _ => rfl

/-! ### Skipping -/

/-- What is pushed for sections that are skipped goes on hiding. -/
theorem hides_replicate {scopes : List Value} (hidden : hides scopes) (count : Nat) :
    hides (List.replicate count (.bool false) ++ scopes) := by
  cases count with
  | zero => exact hidden
  | succ count =>
      cases scopes with
      | nil => cases hidden
      | cons current outer => simp [hides, List.replicate_succ, Value.truthy]

section

variable {host : Host} {nested : Renderer} {fuel : Nat} {steps : List Step} {padding : List Char}
  {scopes : List Value}

/-- Steps that nest, without a fault, add nothing to the output where all is skipped. -/
theorem run_hidden (hidden : hides scopes) {may : List String → Token → Prop} {opened : List String}
    (nests : Nests may opened steps) (faultless : ∀ complaint, .fail complaint ∉ steps)
    (enough : steps.length < fuel) (output : List Char) (memory : Memory) :
    ∃ memory', (run host nested fuel steps padding
      (List.replicate opened.length (.bool false) ++ scopes) output).run.run memory =
        (.ok (output, scopes), memory') := by
  induction fuel generalizing steps opened memory with
  | zero => exact absurd enough (Nat.not_lt_zero _)
  | succ fuel ih =>
      have further {step : Step} {rest : List Step} {opened : List String}
          (split : steps = step :: rest) (inner : Nests may opened rest) (memory : Memory) :
          ∃ memory', (run host nested fuel rest padding
            (List.replicate opened.length (.bool false) ++ scopes) output).run.run memory =
              (.ok (output, scopes), memory') := by
        subst split
        exact ih inner (fun complaint fault => faultless complaint (List.mem_cons_of_mem _ fault))
          (Nat.succ_lt_succ_iff.mp enough) memory
      cases nests with
      | done =>
          rw [run]
          exact ⟨memory, rfl⟩
      | fail _ complaint => exact absurd List.mem_cons_self (faultless complaint)
      | lineEnds count nests =>
          rw [run]
          exact further rfl nests _
      | sectionOpened nests =>
          rw [run]
          exact further rfl nests _
      | inline inline nests =>
          rw [run_skipped_inline (hides_replicate hidden _) inline]
          exact further rfl nests memory
      | opening _ nests =>
          rw [run_skipped_opening (hides_replicate hidden _)]
          exact further rfl nests memory
      | inverted _ nests =>
          rw [run_skipped_inverted (hides_replicate hidden _)]
          exact further rfl nests memory
      | closing nests =>
          rw [List.length_cons, List.replicate_succ, List.cons_append, run_closing]
          exact further rfl nests memory

/-! ### Templates -/

/-- The tokens that are remembered nest. -/
def Memory.Tidy (host : Host) (memory : Memory) : Prop := Recalls host [] memory.known

/-- Rendering does not tell apart bindings that give scopes that look alike. -/
theorem interpolate_eq_of_alike (hostTidy : host.Tidy) {template : String}
    (templateTidy : Tidy host template.toList) {memory : Memory} (memoryTidy : memory.Tidy host)
    {bindings bindings' : List Value} (alike : Alike (scopesOf bindings) (scopesOf bindings')) :
    (interpolate host template bindings).run.run memory =
      (interpolate host template bindings').run.run memory := by
  have matched := steady_renderAt hostTidy (host.depth + 1) [] template [] _ _ alike (.inr templateTidy)
    memory memoryTidy
  rw [interpolate_eq, interpolate_eq, ExceptT.run_bind, StateT.run_bind, ExceptT.run_bind, StateT.run_bind]
  generalize (renderAt host (host.depth + 1) template.toList [] (scopesOf bindings)).run.run memory =
    outcome at matched ⊢
  generalize (renderAt host (host.depth + 1) template.toList [] (scopesOf bindings')).run.run memory =
    outcome' at matched ⊢
  cases matched with
  | fault => rfl
  | @result a b _ resumes =>
      obtain ⟨-, same, -⟩ := resumes
      obtain ⟨output, _⟩ := a
      obtain ⟨_, _⟩ := b
      cases same
      rfl

/-- If the scopes hide all, nothing is left of a template that is read without a fault. -/
theorem interpolate_of_hides {template : String}
    (faultless : ∀ complaint, .fail complaint ∉ scan template.toList) {memory : Memory}
    (memoryTidy : memory.Tidy host) {bindings : List Value} (hidden : hides (scopesOf bindings)) :
    ∃ memory', (interpolate host template bindings).run.run memory = (.ok "", memory') := by
  obtain ⟨steps, memory', may, read, nests, faultless⟩ : ∃ steps memory',
      ∃ may : List String → Token → Prop,
        (stepsOf template.toList).run.run memory = (.ok steps, memory') ∧ Nests may [] steps ∧
          ∀ complaint, .fail complaint ∉ steps := by
    rcases stepsOf_cases template.toList memory with ⟨entry, member, read⟩ | ⟨-, read⟩
    · exact ⟨_, _, _, read, memoryTidy.1 entry member, by simp⟩
    · exact ⟨_, _, _, read, nests_scan _, faultless⟩
  obtain ⟨memory', ran⟩ := @run_hidden host (renderAt host host.depth) _ _ [] _ hidden _ _ nests faultless
    (Nat.lt_succ_self _) [] memory'
  have rendered : (renderAt host (host.depth + 1) template.toList [] (scopesOf bindings)).run.run memory =
      (.ok ([], scopesOf bindings), memory') := (run_bind_ok read).trans ran
  rw [interpolate_eq, run_bind_ok rendered]
  exact ⟨memory', rfl⟩

end

end TagWeave.Mustache
