import TagWeave.Render.Passes

/-!
# Runs of passes

A run lists the passes of an expansion, each with what it interpolated, found and
resolved. An expansion succeeds exactly if a run within its limit leads to a text
without tags; the limit has no other influence on it. If a run uses up the limit and
tags are left, the expansion fails with these tags.

Two expansions whose steps answer alike have the same outcome, whatever their states are.
-/

namespace TagWeave

/-- What a pass interpolated, found and resolved. -/
structure Pass where
  text : String
  tags : List ViewTag
  resolved : List (ViewTag × Content)

/-- Where an expansion stands: what it reports so far, its text and the state. -/
structure Stage (ω : Type) where
  report : Report := {}
  text : String
  state : ω

/-- Two answers are the same, and the states they leave are related. -/
def Alike {α ω ω' : Type} (related : ω → ω' → Prop) (a : α × ω) (a' : α × ω') : Prop :=
  a.1 = a'.1 ∧ related a.2 a'.2

theorem Alike.exists_eq {α ω ω' : Type} {related : ω → ω' → Prop} {a : α × ω} {a' : α × ω'}
    (h : Alike related a a') : ∃ x s s', a = (x, s) ∧ a' = (x, s') ∧ related s s' := by
  obtain ⟨x, s⟩ := a
  obtain ⟨x', s'⟩ := a'
  obtain ⟨same, after⟩ := h
  obtain rfl : x = x' := same
  exact ⟨x, s, s', rfl, rfl, after⟩

namespace Report

theorem resolvedPerPass_foldl {ε : Type} {f : Report → ε → Report}
    (kept : ∀ report entry, (f report entry).resolvedPerPass = report.resolvedPerPass)
    (entries : List ε) (report : Report) :
    (entries.foldl f report).resolvedPerPass = report.resolvedPerPass := by
  induction entries generalizing report with
  | nil => rfl
  | cons entry entries ih =>
      rw [List.foldl_cons, ih]
      exact kept report entry

theorem resolvedPerPass_recordResolved (report : Report) (resolved : List (ViewTag × Content)) :
    (report.recordResolved resolved).resolvedPerPass =
      report.resolvedPerPass ++ [resolved.length] := by
  rw [recordResolved]
  apply resolvedPerPass_foldl
  exact fun _ _ => rfl

theorem passes_recordResolved (report : Report) (resolved : List (ViewTag × Content)) :
    (report.recordResolved resolved).passes = report.passes + 1 := by
  rw [passes, resolvedPerPass_recordResolved, List.length_append]
  rfl

end Report

namespace Steps

variable {ω ω' : Type} {steps : Steps ω} {stage mid last : Stage ω} {pass : Pass}
variable {passes : List Pass} {limit allowed : Nat}

/-- What the next pass finds at the beginning. -/
abbrev surveyAt (steps : Steps ω) (stage : Stage ω) : Outcome (String × List ViewTag) × ω :=
  steps.survey (stage.report.passes + 1) stage.text stage.state

/-- The rest of an expansion. -/
abbrev expandAt (steps : Steps ω) (limit allowed : Nat) (stage : Stage ω) :
    Outcome (String × Report) × ω :=
  steps.expandFrom limit allowed stage.report stage.text stage.state

/-- A pass that resolves tags leads from one stage to the next. -/
structure Performs (steps : Steps ω) (stage : Stage ω) (pass : Pass) (next : Stage ω) : Prop where
  tags_ne_nil : pass.tags ≠ []
  surveys : ∃ state, steps.surveyAt stage = (.ok (pass.text, pass.tags), state) ∧
    steps.resolve pass.tags (steps.note (passNote (stage.report.passes + 1) pass.tags) state) =
      (.ok pass.resolved, next.state)
  report : next.report = stage.report.recordResolved pass.resolved
  text : next.text = substitute pass.text pass.resolved

/-- Passes that lead from one stage to another, each of which resolves tags. -/
inductive Run (steps : Steps ω) : Stage ω → List Pass → Stage ω → Prop
  | nil (stage : Stage ω) : Run steps stage [] stage
  | cons {stage mid last : Stage ω} {pass : Pass} {passes : List Pass}
      (first : steps.Performs stage pass mid) (rest : Run steps mid passes last) :
      Run steps stage (pass :: passes) last

/-- A run can be divided after any of its passes. -/
theorem Run.divide (run : steps.Run stage passes last) (k : Nat) :
    ∃ mid, steps.Run stage (passes.take k) mid ∧ steps.Run mid (passes.drop k) last := by
  induction run generalizing k with
  | nil stage => exact ⟨stage, by simpa using .nil stage, by simpa using .nil stage⟩
  | @cons stage mid last pass passes first rest ih =>
      cases k with
      | zero => exact ⟨stage, .nil stage, .cons first rest⟩
      | succ k =>
          obtain ⟨between, before, after⟩ := ih k
          exact ⟨between, .cons first before, after⟩

theorem Run.passes_report (run : steps.Run stage passes last) :
    last.report.passes = stage.report.passes + passes.length := by
  induction run with
  | nil => rfl
  | cons first _ ih =>
      rw [ih, first.report, Report.passes_recordResolved, List.length_cons]
      omega

/-! ### Expansions and runs -/

/-- A pass counts against what is allowed, and has no other influence on it. -/
theorem Performs.expandAt (performs : steps.Performs stage pass mid) :
    steps.expandAt limit (allowed + 1) stage = steps.expandAt limit allowed mid := by
  obtain ⟨nonempty, ⟨state, surveyed, resolved⟩, hreport, htext⟩ := performs
  rw [surveyAt] at surveyed
  rw [Steps.expandAt, expandFrom, surveyed]
  cases htags : pass.tags with
  | nil => exact absurd htags nonempty
  | cons tag tags =>
      rw [htags] at resolved
      simp only [resolved, ← hreport, ← htext]

theorem Run.expandAt (run : steps.Run stage passes last) :
    steps.expandAt limit (passes.length + allowed) stage = steps.expandAt limit allowed last := by
  induction run with
  | nil stage => rw [List.length_nil, Nat.zero_add]
  | @cons stage mid last pass passes first rest ih =>
      rw [List.length_cons, Nat.add_right_comm, first.expandAt, ih]

theorem expandAt_of_surveyAt_nil {text : String} {state : ω}
    (surveyed : steps.surveyAt stage = (.ok (text, []), state)) :
    steps.expandAt limit allowed stage = (.ok (text, stage.report), state) := by
  rw [surveyAt] at surveyed
  rw [Steps.expandAt, expandFrom, surveyed]

theorem expandAt_of_surveyAt_error {e : Error} {state : ω}
    (surveyed : steps.surveyAt stage = (.error e, state)) :
    steps.expandAt limit allowed stage = (.error e, state) := by
  rw [surveyAt] at surveyed
  cases allowed with
  | zero => rw [Steps.expandAt, expandFrom, surveyed]
  | succ allowed => rw [Steps.expandAt, expandFrom, surveyed]

/-- Tags that are found are resolved, and the expansion goes on if this succeeds. -/
theorem expandAt_succ {text : String} {tags : List ViewTag} {state : ω}
    (surveyed : steps.surveyAt stage = (.ok (text, tags), state)) (nonempty : tags ≠ []) :
    steps.expandAt limit (allowed + 1) stage =
      match steps.resolve tags (steps.note (passNote (stage.report.passes + 1) tags) state) with
      | (.error e, state) => (.error e, state)
      | (.ok resolved, state) => steps.expandAt limit allowed
          ⟨stage.report.recordResolved resolved, substitute text resolved, state⟩ := by
  rw [surveyAt] at surveyed
  rw [Steps.expandAt, expandFrom, surveyed]
  cases tags with
  | nil => exact absurd rfl nonempty
  | cons tag tags => rfl

/-- When nothing more is allowed, tags that are left make the expansion fail. -/
theorem expandAt_zero {text : String} {tags : List ViewTag} {state : ω}
    (surveyed : steps.surveyAt stage = (.ok (text, tags), state)) (nonempty : tags ≠ []) :
    steps.expandAt limit 0 stage =
      (.error (.recursionLimit limit (pendingNeedles tags)), state) := by
  rw [surveyAt] at surveyed
  rw [Steps.expandAt, expandFrom, surveyed]
  cases tags with
  | nil => exact absurd rfl nonempty
  | cons tag tags => rfl

/-- How an expansion ends at a stage from which no pass leads on. -/
inductive Ends (steps : Steps ω) (limit : Nat) :
    Nat → Stage ω → Outcome (String × Report) × ω → Prop
  | failed {allowed : Nat} {stage : Stage ω} {e : Error} {state : ω}
      (surveyed : steps.surveyAt stage = (.error e, state)) :
      Ends steps limit allowed stage (.error e, state)
  | done {allowed : Nat} {stage : Stage ω} {text : String} {state : ω}
      (surveyed : steps.surveyAt stage = (.ok (text, []), state)) :
      Ends steps limit allowed stage (.ok (text, stage.report), state)
  | exceeded {stage : Stage ω} {text : String} {tags : List ViewTag} {state : ω}
      (surveyed : steps.surveyAt stage = (.ok (text, tags), state)) (nonempty : tags ≠ []) :
      Ends steps limit 0 stage (.error (.recursionLimit limit (pendingNeedles tags)), state)
  | unresolved {allowed : Nat} {stage : Stage ω} {text : String} {tags : List ViewTag} {e : Error}
      {between state : ω} (surveyed : steps.surveyAt stage = (.ok (text, tags), between))
      (nonempty : tags ≠ [])
      (unresolved : steps.resolve tags
        (steps.note (passNote (stage.report.passes + 1) tags) between) = (.error e, state)) :
      Ends steps limit (allowed + 1) stage (.error e, state)

/-- An expansion is a run within what is allowed, which ends at some stage. -/
theorem exists_run_ends (steps : Steps ω) (limit allowed : Nat) (stage : Stage ω) :
    ∃ passes last remaining, allowed = passes.length + remaining ∧ steps.Run stage passes last ∧
      steps.Ends limit remaining last (steps.expandAt limit allowed stage) := by
  induction allowed using Nat.strongRecOn generalizing stage with
  | ind allowed ih =>
      rcases surveyed : steps.surveyAt stage with ⟨e | ⟨text, _ | ⟨tag, tags⟩⟩, between⟩
      · rw [expandAt_of_surveyAt_error surveyed]
        exact ⟨[], stage, _, (Nat.zero_add _).symm, .nil stage, .failed surveyed⟩
      · rw [expandAt_of_surveyAt_nil surveyed]
        exact ⟨[], stage, _, (Nat.zero_add _).symm, .nil stage, .done surveyed⟩
      · -- only tags that are left count against what is allowed
        cases allowed with
        | zero =>
            rw [expandAt_zero surveyed (List.cons_ne_nil _ _)]
            exact ⟨[], stage, _, rfl, .nil stage, .exceeded surveyed (List.cons_ne_nil _ _)⟩
        | succ allowed =>
            rw [expandAt_succ surveyed (List.cons_ne_nil _ _)]
            split
            · next unresolved =>
              exact ⟨[], stage, _, (Nat.zero_add _).symm, .nil stage,
                .unresolved surveyed (List.cons_ne_nil _ _) unresolved⟩
            · next contents after resolved =>
              have first : steps.Performs stage ⟨text, tag :: tags, contents⟩
                  ⟨stage.report.recordResolved contents, substitute text contents, after⟩ :=
                ⟨List.cons_ne_nil _ _, ⟨between, surveyed, resolved⟩, rfl, rfl⟩
              obtain ⟨passes, last, remaining, hallowed, run, ends⟩ := ih allowed allowed.lt_succ_self
                ⟨stage.report.recordResolved contents, substitute text contents, after⟩
              refine ⟨_ :: passes, last, remaining, ?_, .cons first run, ends⟩
              rw [List.length_cons, hallowed]
              omega

/-- An expansion succeeds only by a run within its limit to a text without tags. -/
theorem exists_run_of_expandAt {text : String} {report : Report} {state : ω}
    (h : steps.expandAt limit allowed stage = (.ok (text, report), state)) :
    ∃ passes last, passes.length ≤ allowed ∧ steps.Run stage passes last ∧
      steps.surveyAt last = (.ok (text, []), state) ∧ last.report = report := by
  obtain ⟨passes, last, remaining, hallowed, run, ends⟩ :=
    steps.exists_run_ends limit allowed stage
  rw [h] at ends
  cases ends with
  | done surveyed => exact ⟨passes, last, by omega, run, surveyed, rfl⟩

/-- What a survey finds was looked for in the text that it interpolated. If nothing was found, this
holds as far as tags are looked for at all. -/
theorem find_of_survey {pass : Nat} {text interpolated : String} {tags : List ViewTag}
    {state state' : ω} (h : steps.survey pass text state = (.ok (interpolated, tags), state'))
    (looked : steps.expands = true ∨ tags ≠ []) : steps.find interpolated = .ok tags := by
  unfold survey at h
  split at h
  · cases h
  · split at h
    · cases h
    · split at h
      · split at h
        · cases h
        · next found =>
          obtain ⟨rfl, rfl⟩ := Prod.mk.inj (Except.ok.inj (congrArg Prod.fst h))
          exact found
      · next unexpanded =>
        obtain ⟨rfl, rfl⟩ := Prod.mk.inj (Except.ok.inj (congrArg Prod.fst h))
        rcases looked with expands | nonempty
        · exact absurd expands unexpanded
        · exact absurd rfl nonempty

/-- What a survey looks at is what interpolation made of the text. -/
theorem interpolate_of_survey {pass : Nat} {text interpolated : String} {tags : List ViewTag}
    {state state' : ω} (h : steps.survey pass text state = (.ok (interpolated, tags), state')) :
    steps.interpolate text state = (.ok interpolated, state') := by
  unfold survey at h
  split at h
  · cases h
  · split at h
    · cases h
    · next done =>
      split at h
      · split at h
        · cases h
        · cases h
          exact done
      · cases h
        exact done

/-- A survey goes on only if nothing says to give up. -/
theorem check_of_survey {pass : Nat} {text : String} {found : String × List ViewTag}
    {state state' : ω} (h : steps.survey pass text state = (.ok found, state')) :
    steps.check ("pass " ++ toString pass) state = none := by
  unfold survey at h
  split at h
  · cases h
  · assumption

theorem Run.find (run : steps.Run stage passes last) :
    ∀ pass ∈ passes, steps.find pass.text = .ok pass.tags ∧ pass.tags ≠ [] := by
  induction run with
  | nil => simp
  | @cons stage mid last pass passes first rest ih =>
      intro p hp
      rcases List.mem_cons.mp hp with rfl | hp
      · obtain ⟨state, surveyed, -⟩ := first.surveys
        exact ⟨find_of_survey surveyed (.inr first.tags_ne_nil), first.tags_ne_nil⟩
      · exact ih p hp

/-! ### Interpolations that agree in the texts of a run -/

section

variable {interpolate' : String → ω → Outcome String × ω}

theorem survey_congr {pass : Nat} {text : String} {state : ω}
    (same : interpolate' text state = steps.interpolate text state) :
    Steps.survey { steps with interpolate := interpolate' } pass text state =
      steps.survey pass text state := by
  simp only [survey, same]

/-- An expansion stays the same with another interpolation that agrees in all texts that its passes
lead to. -/
theorem expandAt_congr 
    (same : ∀ passes last, steps.Run stage passes last → passes.length ≤ allowed →
      interpolate' last.text last.state = steps.interpolate last.text last.state) (limit : Nat) :
    Steps.expandAt { steps with interpolate := interpolate' } limit allowed stage =
      steps.expandAt limit allowed stage := by
  let other : Steps ω := { steps with interpolate := interpolate' }
  induction allowed using Nat.strongRecOn generalizing stage with
  | ind allowed ih =>
      have surveys : other.surveyAt stage = steps.surveyAt stage :=
        survey_congr (same [] stage (.nil stage) (Nat.zero_le _))
      rcases surveyed : steps.surveyAt stage with ⟨e | ⟨text, _ | ⟨tag, tags⟩⟩, between⟩
      · rw [expandAt_of_surveyAt_error surveyed,
          expandAt_of_surveyAt_error (surveys.trans surveyed)]
      · rw [expandAt_of_surveyAt_nil surveyed, expandAt_of_surveyAt_nil (surveys.trans surveyed)]
      · cases allowed with
        | zero =>
            rw [expandAt_zero surveyed (List.cons_ne_nil _ _),
              expandAt_zero (surveys.trans surveyed) (List.cons_ne_nil _ _)]
        | succ allowed =>
            rw [expandAt_succ surveyed (List.cons_ne_nil _ _),
              expandAt_succ (surveys.trans surveyed) (List.cons_ne_nil _ _)]
            split
            · next unresolved =>
              rw [unresolved]
            · next contents after resolved =>
              rw [resolved]
              apply ih allowed allowed.lt_succ_self
              intro passes last run short
              have first : steps.Performs stage ⟨text, tag :: tags, contents⟩
                  ⟨stage.report.recordResolved contents, substitute text contents, after⟩ :=
                ⟨List.cons_ne_nil _ _, ⟨between, surveyed, resolved⟩, rfl, rfl⟩
              exact same _ last (.cons first run) (Nat.succ_le_succ short)

end

/-! ### Steps that answer alike -/

/-- In related states the steps give the same answers and leave related states. -/
structure Similar (related : ω → ω' → Prop) (steps : Steps ω) (steps' : Steps ω') : Prop where
  expands : steps.expands = steps'.expands
  find : steps.find = steps'.find
  check : ∀ {s s'}, related s s' → ∀ place, steps.check place s = steps'.check place s'
  interpolate : ∀ {s s'}, related s s' → ∀ text,
    Alike related (steps.interpolate text s) (steps'.interpolate text s')
  resolve : ∀ {s s'}, related s s' → ∀ tags,
    Alike related (steps.resolve tags s) (steps'.resolve tags s')
  note : ∀ {s s'}, related s s' → ∀ message, related (steps.note message s) (steps'.note message s')

section

variable {related : ω → ω' → Prop} {steps' : Steps ω'} {s : ω} {s' : ω'}

theorem Similar.survey (similar : Similar related steps steps') (h : related s s') (pass : Nat)
    (text : String) : Alike related (steps.survey pass text s) (steps'.survey pass text s') := by
  obtain ⟨outcome, state, state', eq, eq', after⟩ := (similar.interpolate h text).exists_eq
  unfold Steps.survey
  rw [similar.check h, similar.expands, similar.find]
  cases steps'.check ("pass " ++ toString pass) s' with
  | some why => exact ⟨rfl, h⟩
  | none =>
      simp only [eq, eq']
      cases outcome with
      | error e => exact ⟨rfl, after⟩
      | ok interpolated =>
          simp only
          split
          · split
            · exact ⟨rfl, after⟩
            · exact ⟨rfl, after⟩
          · exact ⟨rfl, after⟩

/-- Such steps expand every text alike. -/
theorem Similar.expandFrom (similar : Similar related steps steps') (h : related s s')
    (limit allowed : Nat) (report : Report) (text : String) :
    Alike related (steps.expandFrom limit allowed report text s)
      (steps'.expandFrom limit allowed report text s') := by
  induction allowed using Nat.strongRecOn generalizing report text s s' with
  | ind allowed ih =>
      let stage : Stage ω := ⟨report, text, s⟩
      let stage' : Stage ω' := ⟨report, text, s'⟩
      change Alike related (steps.expandAt limit allowed stage) (steps'.expandAt limit allowed stage')
      obtain ⟨outcome, state, state', eq, eq', after⟩ :=
        (similar.survey h (report.passes + 1) text).exists_eq
      have eq : steps.surveyAt stage = (outcome, state) := eq
      have eq' : steps'.surveyAt stage' = (outcome, state') := eq'
      rcases outcome with e | ⟨interpolated, _ | ⟨tag, tags⟩⟩
      · rw [expandAt_of_surveyAt_error eq, expandAt_of_surveyAt_error eq']
        exact ⟨rfl, after⟩
      · rw [expandAt_of_surveyAt_nil eq, expandAt_of_surveyAt_nil eq']
        exact ⟨rfl, after⟩
      · have some := List.cons_ne_nil tag tags
        cases allowed with
        | zero =>
            rw [expandAt_zero eq some, expandAt_zero eq' some]
            exact ⟨rfl, after⟩
        | succ allowed =>
            have noted := similar.note after (passNote (report.passes + 1) (tag :: tags))
            obtain ⟨outcome, state, state', resolved, resolved', after⟩ :=
              (similar.resolve noted (tag :: tags)).exists_eq
            rw [expandAt_succ eq some, expandAt_succ eq' some, resolved, resolved']
            cases outcome with
            | error e => exact ⟨rfl, after⟩
            | ok contents => exact ih allowed allowed.lt_succ_self after _ _

/-- A pass leads to the same text and report from related states. -/
theorem Similar.performs (similar : Similar related steps steps') {stage next : Stage ω}
    {pass : Pass} (performs : steps.Performs stage pass next) (h : related stage.state s') :
    ∃ state', related next.state state' ∧
      steps'.Performs ⟨stage.report, stage.text, s'⟩ pass ⟨next.report, next.text, state'⟩ := by
  obtain ⟨nonempty, ⟨between, surveyed, resolved⟩, report, text⟩ := performs
  obtain ⟨outcome, state, between', eq, eq', after⟩ :=
    (similar.survey h (stage.report.passes + 1) stage.text).exists_eq
  rw [surveyAt, eq] at surveyed
  obtain ⟨rfl, rfl⟩ := Prod.mk.inj surveyed
  have noted := similar.note after (passNote (stage.report.passes + 1) pass.tags)
  obtain ⟨outcome, state, state', eq, eq'', resolvedAlike⟩ :=
    (similar.resolve noted pass.tags).exists_eq
  rw [eq] at resolved
  obtain ⟨rfl, hstate⟩ := Prod.mk.inj resolved
  rw [hstate] at resolvedAlike
  exact ⟨state', resolvedAlike, nonempty, ⟨between', eq', eq''⟩, report, text⟩

/-- So does a run. -/
theorem Similar.run (similar : Similar related steps steps') {stage last : Stage ω}
    {passes : List Pass} (run : steps.Run stage passes last) {s' : ω'}
    (h : related stage.state s') : ∃ state', related last.state state' ∧
      steps'.Run ⟨stage.report, stage.text, s'⟩ passes ⟨last.report, last.text, state'⟩ := by
  induction run generalizing s' with
  | nil stage => exact ⟨s', h, .nil _⟩
  | cons first rest ih =>
      obtain ⟨between, h, first'⟩ := similar.performs first h
      obtain ⟨state', h, rest'⟩ := ih h
      exact ⟨state', h, .cons first' rest'⟩

end

/-! ### Steps with something beside their state -/

/-- The steps with something else beside their state, which only the resolution concerns. -/
def beside {ρ : Type} (steps : Steps ω)
    (resolve : List ViewTag → ω × ρ → Outcome (List (ViewTag × Content)) × (ω × ρ)) :
    Steps (ω × ρ) where
  expands := steps.expands
  check place state := steps.check place state.1
  interpolate text state :=
    match steps.interpolate text state.1 with
    | (outcome, next) => (outcome, (next, state.2))
  find := steps.find
  resolve
  note message state := (steps.note message state.1, state.2)

section

variable {ρ : Type}
variable {resolve : List ViewTag → ω × ρ → Outcome (List (ViewTag × Content)) × (ω × ρ)}

/-- What stands beside the state has no influence, if it has none on the resolution. -/
theorem similar_beside (alike : ∀ tags (state : ω × ρ),
      Alike (fun s s' => s = s'.1) (steps.resolve tags state.1) (resolve tags state)) :
    Similar (fun s s' => s = s'.1) steps (steps.beside resolve) where
  expands := rfl
  find := rfl
  check := by
    rintro s state rfl place
    rfl
  interpolate := by
    rintro s state rfl text
    exact ⟨rfl, rfl⟩
  resolve := by
    rintro s state rfl tags
    exact alike tags state
  note := by
    rintro s state rfl message
    rfl

theorem survey_beside (pass : Nat) (text : String) (state : ω × ρ) :
    ((steps.beside resolve).survey pass text state).2.2 = state.2 := by
  unfold survey
  split
  · rfl
  · have kept : ((steps.beside resolve).interpolate text state).2.2 = state.2 := rfl
    split
    · next h => rwa [h] at kept
    · next h =>
      rw [h] at kept
      split
      · split
        · exact kept
        · exact kept
      · exact kept

/-- A pass resolves its tags with what stood beside the state before. -/
theorem Performs.resolved_beside {stage next : Stage (ω × ρ)}
    (performs : (steps.beside resolve).Performs stage pass next) :
    ∃ between, resolve pass.tags (between, stage.state.2) = (.ok pass.resolved, next.state) := by
  obtain ⟨between, surveyed, resolved⟩ := performs.surveys
  have kept : between.2 = stage.state.2 := by
    rw [← @survey_beside _ steps _ resolve (stage.report.passes + 1) stage.text stage.state]
    exact congrArg (·.2.2) surveyed.symm
  rw [← kept]
  exact ⟨_, resolved⟩

end

end Steps

end TagWeave
