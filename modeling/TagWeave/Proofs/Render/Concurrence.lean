import TagWeave.Proofs.Render.Report

/-!
# Expansions that succeed together

Two expansions concur if they both fail, with whatever errors, or both succeed, with the
same text and with reports that are related. It is enough that the steps of each pass
concur: they interpolate alike, find tags that can be paired, and come to contents that
make the same text of it.
-/

namespace TagWeave

/-- Two answers are both failures, or both results that are related, and then so are the states
that they leave. -/
inductive Concur {α α' ω ω' : Type} (same : α → α' → Prop) (related : ω → ω' → Prop) :
    Outcome α × ω → Outcome α' × ω' → Prop
  | fails (e e' : Error) (s : ω) (s' : ω') : Concur same related (.error e, s) (.error e', s')
  | succeeds {x : α} {x' : α'} {s : ω} {s' : ω'} (results : same x x') (after : related s s') :
      Concur same related (.ok x, s) (.ok x', s')

namespace Concur

variable {α α' ω ω' : Type} {same : α → α' → Prop} {related : ω → ω' → Prop}
variable {a : Outcome α × ω} {a' : Outcome α' × ω'}

theorem error_or_ok (h : Concur same related a a') :
    (∃ e e', a.1 = .error e ∧ a'.1 = .error e') ∨
      ∃ x x', a.1 = .ok x ∧ a'.1 = .ok x' ∧ same x x' := by
  cases h with
  | fails e e' => exact .inl ⟨e, e', rfl, rfl⟩
  | succeeds results _ => exact .inr ⟨_, _, rfl, rfl, results⟩

end Concur

namespace Steps

variable {ω ω' : Type} {related : ω → ω' → Prop}
variable {paired : String → List ViewTag → List ViewTag → Prop} {tally : Report → Report → Prop}
variable {steps : Steps ω} {steps' : Steps ω'} {s : ω} {s' : ω'}

/-- The steps of each pass concur. Nothing is given up, the tags that are found in a text are
`paired`, and what two reports `tally` in stays so by each pass. -/
structure Concurrent (related : ω → ω' → Prop)
    (paired : String → List ViewTag → List ViewTag → Prop) (tally : Report → Report → Prop)
    (steps : Steps ω) (steps' : Steps ω') : Prop where
  expands : steps.expands = steps'.expands
  unchecked : ∀ place s, steps.check place s = none
  unchecked' : ∀ place s', steps'.check place s' = none
  interpolate : ∀ {s s'}, related s s' → ∀ text,
    Alike related (steps.interpolate text s) (steps'.interpolate text s')
  find : ∀ text, (∃ e e', steps.find text = .error e ∧ steps'.find text = .error e') ∨
    ∃ tags tags', steps.find text = .ok tags ∧ steps'.find text = .ok tags' ∧ paired text tags tags'
  nil_iff : ∀ {text tags tags'}, paired text tags tags' → (tags = [] ↔ tags' = [])
  resolve : ∀ {s s'}, related s s' → ∀ {text tags tags'}, paired text tags tags' → tags ≠ [] →
    Concur (fun resolved resolved' => substitute text resolved = substitute text resolved' ∧
        ∀ {report report'}, tally report report' →
          tally (report.recordResolved resolved) (report'.recordResolved resolved'))
      related (steps.resolve tags s) (steps'.resolve tags' s')
  note : ∀ {s s'}, related s s' → ∀ message message',
    related (steps.note message s) (steps'.note message' s')

/-- Passes begin alike: they both fail, or come to the same text with tags that are paired, or with
none. -/
theorem Concurrent.surveyAt (concurrent : Concurrent related paired tally steps steps')
    {stage : Stage ω} {stage' : Stage ω'} (states : related stage.state stage'.state)
    (texts : stage.text = stage'.text) :
    (∃ e e' s s', steps.surveyAt stage = (.error e, s) ∧ steps'.surveyAt stage' = (.error e', s')) ∨
    ∃ text tags tags' s s', steps.surveyAt stage = (.ok (text, tags), s) ∧
      steps'.surveyAt stage' = (.ok (text, tags'), s') ∧ related s s' ∧
      (tags = [] ∧ tags' = [] ∨ paired text tags tags' ∧ tags ≠ [] ∧ tags' ≠ []) := by
  obtain ⟨outcome, s, s', eq, eq', after⟩ :=
    (concurrent.interpolate states stage'.text).exists_eq
  rw [Steps.surveyAt, Steps.surveyAt, texts, Steps.survey, Steps.survey, concurrent.unchecked,
    concurrent.unchecked', concurrent.expands]
  simp only [eq, eq']
  cases outcome with
  | error e => exact .inl ⟨e, e, s, s', rfl, rfl⟩
  | ok interpolated =>
      simp only
      split
      · rcases concurrent.find interpolated with ⟨e, e', found, found'⟩ |
          ⟨tags, tags', found, found', pairs⟩
        · rw [found, found']
          exact .inl ⟨_, _, s, s', rfl, rfl⟩
        · rw [found, found']
          refine .inr ⟨_, tags, tags', s, s', rfl, rfl, after, ?_⟩
          by_cases empty : tags = []
          · exact .inl ⟨empty, (concurrent.nil_iff pairs).mp empty⟩
          · exact .inr ⟨pairs, empty, fun empty' => empty ((concurrent.nil_iff pairs).mpr empty')⟩
      · exact .inr ⟨_, [], [], s, s', rfl, rfl, after, .inl ⟨rfl, rfl⟩⟩

/-- Expansions whose passes concur do so as a whole. -/
theorem Concurrent.expandAt (concurrent : Concurrent related paired tally steps steps')
    {stage : Stage ω} {stage' : Stage ω'} (states : related stage.state stage'.state)
    (reports : tally stage.report stage'.report) (texts : stage.text = stage'.text)
    (limit allowed : Nat) :
    Concur (fun a a' => a.1 = a'.1 ∧ tally a.2 a'.2) related
      (steps.expandAt limit allowed stage) (steps'.expandAt limit allowed stage') := by
  induction allowed using Nat.strongRecOn generalizing stage stage' with
  | ind allowed ih =>
      obtain ⟨e, e', s, s', eq, eq'⟩ | ⟨text, tags, tags', s, s', eq, eq', after, found⟩ :=
        concurrent.surveyAt states texts
      · rw [expandAt_of_surveyAt_error eq, expandAt_of_surveyAt_error eq']
        exact .fails ..
      · rcases found with ⟨rfl, rfl⟩ | ⟨pairs, nonempty, nonempty'⟩
        · rw [expandAt_of_surveyAt_nil eq, expandAt_of_surveyAt_nil eq']
          exact .succeeds ⟨rfl, reports⟩ after
        · cases allowed with
          | zero =>
              rw [expandAt_zero eq nonempty, expandAt_zero eq' nonempty']
              exact .fails ..
          | succ allowed =>
              rw [expandAt_succ eq nonempty, expandAt_succ eq' nonempty']
              have noted := concurrent.note after (passNote (stage.report.passes + 1) tags)
                (passNote (stage'.report.passes + 1) tags')
              have resolved := concurrent.resolve noted pairs nonempty
              generalize steps.resolve tags _ = a at resolved ⊢
              generalize steps'.resolve tags' _ = a' at resolved ⊢
              cases resolved with
              | fails => exact .fails ..
              | succeeds results after =>
                  exact ih allowed allowed.lt_succ_self after (results.2 reports) results.1

end Steps

end TagWeave
