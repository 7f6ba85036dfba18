import TagWeave.Proofs.Config.Schema
import TagWeave.Proofs.Number.Double
import TagWeave.Proofs.Render.Building

/-!
# Settings of an accepted configuration

The schema and the settings are two descriptions of the same values. In a configuration that is
accepted, a setting that is a number of passes or workers gives an integer of at least one, also where
it is written as a whole fraction, and texts are those that the schema lists. A number of seconds
gives a fraction that is positive, or not negative, unless it is an integer that no double can hold:
the schema sets no limit to integers, and such a setting cannot be read.
-/

namespace TagWeave.Config

open TagWeave.Text

/-- A setting is an integer that is too large for a double. -/
def TooLarge (config : Entries) (sectionName name : String) : Prop :=
  ∃ n : Nat, setting? config sectionName name = some (.int n) ∧ Number.overflowBound ≤ n

variable {config : Entries} {sectionName name : String} {held : Value}

/-- What an accepted configuration holds for a setting is of one of its types and meets its demand. -/
theorem rule_of_accepted (accepted : validate (.dict config) = .ok ()) (setting : Setting)
    (known : ∃ part ∈ schema, part.name = sectionName ∧ setting ∈ part.settings)
    (found : setting? config sectionName setting.name = some held) :
    (∃ type ∈ setting.types, type.holds held) ∧ demandViolations [] setting.demand held = [] := by
  obtain ⟨part, member, rfl, known⟩ := known
  have rule := (validate_eq_ok_iff.mp accepted).setting member known found
  obtain ⟨typed, demanded⟩ := List.append_eq_nil_iff.mp ((accepts_setting []).mp rule)
  refine ⟨?_, demanded⟩
  rw [typeViolations] at typed
  split at typed
  · next holds => exact List.any_eq_true.mp holds
  · cases typed

/-! ### Integers -/

/-- An integer of at least one is read as such, also where it is written as a whole fraction. -/
theorem toInteger_of_rule (typed : JsonType.integer.holds held)
    (demanded : demandViolations [] (.atLeast 1) held = []) :
    ∃ n, held.toInteger = .ok n ∧ 1 ≤ n := by
  have above : ¬ isBelow held 1 = true := by
    intro below
    rw [demandViolations, if_pos below] at demanded
    cases demanded
  cases held with
  | int n => exact ⟨n, rfl, by simpa [isBelow] using above⟩
  | float x =>
      have whole : Number.isWhole x = true := typed
      simp only [Number.isWhole, Bool.and_eq_true, Bool.not_eq_true'] at whole
      obtain ⟨⟨number, finite⟩, -⟩ := whole
      refine ⟨Number.truncate x, ?_,
        Number.one_le_truncate number finite (by simpa [isBelow] using above)⟩
      simp only [Value.toInteger, number, finite, Bool.false_eq_true, if_false]
  | _ => cases typed

/-- A setting that is to be an integer of at least one is read as such, or has a default. -/
theorem integer_of_accepted (accepted : validate (.dict config) = .ok ())
    (sectionName name : String) (default : Int)
    (known : ∃ part ∈ schema, part.name = sectionName ∧
      ⟨name, [.integer], .atLeast 1⟩ ∈ part.settings)
    (positive : 1 ≤ default) :
    ∃ n, ((setting? config sectionName name).getD (.int default)).toInteger = .ok n ∧ 1 ≤ n := by
  cases found : setting? config sectionName name with
  | none => exact ⟨default, rfl, positive⟩
  | some held =>
      obtain ⟨typed, demanded⟩ := rule_of_accepted accepted _ known found
      exact toInteger_of_rule (by simpa using typed) demanded

/-! ### Fractions -/

/-- A setting that is nothing, an integer that is not negative or a fraction is read unless it is too
large. What doubles of integers and fractions are known to be, the setting is. -/
theorem fractionSetting_of_rule {good : Float → Prop}
    (rule : ∀ held, setting? config sectionName name = some held → held = .null ∨
      (∃ n : Nat, held = .int n ∧ (n < Number.overflowBound → good (Float.ofNat n))) ∨
      ∃ x, held = .float x ∧ (x.isNaN = false → good x)) :
    (TooLarge config sectionName name ∧
        fractionSetting config sectionName name = .error .hugeFraction) ∨
      (¬ TooLarge config sectionName name ∧ ∃ x?, fractionSetting config sectionName name = .ok x? ∧
        ∀ x ∈ x?, x.isNaN = false → good x) := by
  rw [fractionSetting, TooLarge]
  cases found : setting? config sectionName name with
  | none => exact .inr ⟨by simp, none, rfl, by simp⟩
  | some held =>
      rcases rule held found with rfl | ⟨n, rfl, known⟩ | ⟨x, rfl, known⟩
      · exact .inr ⟨by simp, none, rfl, by simp⟩
      · have read := Number.floatOfInt?_natCast n
        by_cases large : Number.overflowBound ≤ n
        · rw [if_pos large] at read
          refine .inl ⟨⟨n, rfl, large⟩, ?_⟩
          simp [Value.toFraction, read, Except.map]
        · rw [if_neg large] at read
          refine .inr ⟨?_, some (Float.ofNat n), ?_, ?_⟩
          · rintro ⟨m, same, beyond⟩
            cases same
            exact large beyond
          · simp [Value.toFraction, read, Except.map]
          · rintro _ ⟨⟩ -
            exact known (not_le.mp large)
      · refine .inr ⟨by simp, some x, rfl, ?_⟩
        rintro _ ⟨⟩
        exact known

/-- The timeout of an accepted configuration is positive. -/
theorem timeout_of_accepted (accepted : validate (.dict config) = .ok ()) :
    (TooLarge config "rendering" "timeout_seconds" ∧ timeout config = .error .hugeFraction) ∨
      (¬ TooLarge config "rendering" "timeout_seconds" ∧ ∃ seconds?, timeout config = .ok seconds? ∧
        ∀ seconds ∈ seconds?, seconds.isNaN = false → 0 < seconds) := by
  refine fractionSetting_of_rule fun held found => ?_
  obtain ⟨typed, demanded⟩ :=
    rule_of_accepted accepted ⟨_, [.number, .null], .above 0⟩ (by decide) found
  have above : ¬ isAtMost held 0 = true := by
    intro low
    rw [demandViolations, if_pos low] at demanded
    cases demanded
  cases held with
  | null => exact .inl rfl
  | int n =>
      have positive : 0 < n := by simpa [isAtMost] using above
      obtain ⟨n, rfl⟩ := Int.eq_ofNat_of_zero_le positive.le
      exact .inr (.inl ⟨n, rfl, Number.ofNat_pos (by omega)⟩)
  | float x =>
      exact .inr (.inr ⟨x, rfl, fun number =>
        Number.pos_of_not_le number (by simpa [isAtMost] using above)⟩)
  | _ => simp [JsonType.holds] at typed

/-- The lifetime of content in an accepted configuration is not negative. -/
theorem cacheLifetime_of_accepted (accepted : validate (.dict config) = .ok ()) :
    (TooLarge config "cache" "ttl_seconds" ∧ cacheLifetime config = .error .hugeFraction) ∨
      (¬ TooLarge config "cache" "ttl_seconds" ∧ ∃ seconds?, cacheLifetime config = .ok seconds? ∧
        ∀ seconds ∈ seconds?, seconds.isNaN = false → 0 ≤ seconds) := by
  refine fractionSetting_of_rule fun held found => ?_
  obtain ⟨typed, demanded⟩ :=
    rule_of_accepted accepted ⟨_, [.number, .null], .atLeast 0⟩ (by decide) found
  have above : ¬ isBelow held 0 = true := by
    intro low
    rw [demandViolations, if_pos low] at demanded
    cases demanded
  cases held with
  | null => exact .inl rfl
  | int n =>
      have positive : 0 ≤ n := by simpa [isBelow] using above
      obtain ⟨n, rfl⟩ := Int.eq_ofNat_of_zero_le positive
      exact .inr (.inl ⟨n, rfl, Number.ofNat_nonneg⟩)
  | float x =>
      exact .inr (.inr ⟨x, rfl, fun number =>
        Number.nonneg_of_not_lt number (by simpa [isBelow] using above)⟩)
  | _ => simp [JsonType.holds] at typed

/-! ### Texts -/

/-- A setting that is to be one of some texts is one of them, or has a default among them. -/
theorem text_of_accepted (accepted : validate (.dict config) = .ok ())
    (sectionName name : String) (choices : List String) (default : String)
    (known : ∃ part ∈ schema, part.name = sectionName ∧
      ⟨name, [.string], .oneOf choices⟩ ∈ part.settings)
    (member : default ∈ choices) :
    ((setting? config sectionName name).getD (.str default)).text ∈ choices := by
  cases found : setting? config sectionName name with
  | none => exact member
  | some held =>
      obtain ⟨typed, demanded⟩ := rule_of_accepted accepted _ known found
      cases held with
      | str s =>
          rw [demandViolations] at demanded
          split at demanded
          · next chosen => exact List.contains_iff_mem.mp chosen
          · cases demanded
      | _ => simp [JsonType.holds] at typed

theorem logPath_of_accepted (accepted : validate (.dict config) = .ok ()) :
    ∃ path?, logPath config = .ok path? := by
  rw [logPath]
  cases found : setting? config "logging" "path" with
  | none => exact ⟨none, rfl⟩
  | some held =>
      obtain ⟨typed, -⟩ :=
        rule_of_accepted accepted ⟨_, [.string, .null], .none⟩ (by decide) found
      cases held with
      | null => exact ⟨none, rfl⟩
      | str s =>
          rw [Option.filter_some]
          by_cases full : (Value.str s).truthy
          · rw [if_pos full]
            exact ⟨_, rfl⟩
          · rw [if_neg full]
            exact ⟨none, rfl⟩
      | _ => simp [JsonType.holds] at typed

theorem logLevel_of_accepted (accepted : validate (.dict config) = .ok ()) :
    logLevel config ∈ ["DEBUG", "INFO", "WARNING", "ERROR", "CRITICAL"] := by
  let levels := ["DEBUG", "INFO", "WARNING", "ERROR", "CRITICAL"]
  have listed := text_of_accepted accepted "logging" "level" levels "WARNING" (by decide) (by decide)
  have capital : ∀ level ∈ levels, upper level = level := by decide
  rw [logLevel, capital _ listed]
  exact listed

/-! ### What is built -/

/-- Every setting of an accepted configuration can be read, and a renderer and a token can be made of
it, but for a number of seconds that is an integer too large for a double. The numbers of passes and
workers are at least one, a timeout is positive and a lifetime not negative. -/
theorem settings_of_accepted (accepted : validate (.dict config) = .ok ()) :
    (∃ passes, maxPasses config = .ok passes ∧ 1 ≤ passes) ∧
    (∃ workers, maxWorkers config = .ok workers ∧ 1 ≤ workers) ∧
    interpolatorName config ∈ ["mustache", "jinja2"] ∧
    logLevel config ∈ ["DEBUG", "INFO", "WARNING", "ERROR", "CRITICAL"] ∧
    (∃ path?, logPath config = .ok path?) ∧
    ((TooLarge config "rendering" "timeout_seconds" ∧ timeout config = .error .hugeFraction) ∨
      (¬ TooLarge config "rendering" "timeout_seconds" ∧ ∃ seconds?, timeout config = .ok seconds? ∧
        ∀ seconds ∈ seconds?, seconds.isNaN = false → 0 < seconds)) ∧
    ((TooLarge config "cache" "ttl_seconds" ∧ cacheLifetime config = .error .hugeFraction) ∨
      (¬ TooLarge config "cache" "ttl_seconds" ∧ ∃ seconds?, cacheLifetime config = .ok seconds? ∧
        ∀ seconds ∈ seconds?, seconds.isNaN = false → 0 ≤ seconds)) ∧
    (∀ {σ : Type} (plan : CachePlan) (retrievers : List (String × Retriever Float σ))
      (world : World Float σ), (∀ r ∈ retrievers, ViewTag.isName r.1 ∧ r.2.isGenuine) →
      (retrievers.map (lower ·.1)).Nodup →
      ((∃ renderer, (Renderer.build plan config retrievers world).1 = .ok renderer) ↔
        ¬ (cacheEnabled config = true ∧ TooLarge config "cache" "ttl_seconds")) ∧
      ∀ renderer, (Renderer.build plan config retrievers world).1 = .ok renderer →
        1 ≤ renderer.maxPasses ∧ 1 ≤ renderer.maxWorkers) ∧
    ∀ now, (∃ token?, CancelToken.ofSettings config now = .ok token?) ↔
      ¬ TooLarge config "rendering" "timeout_seconds" := by
  have passes := integer_of_accepted accepted "rendering" "max_passes" 32 (by decide) (by decide)
  have workers := integer_of_accepted accepted "rendering" "max_workers" 1 (by decide) (by decide)
  have interpolator : interpolatorName config ∈ ["mustache", "jinja2"] :=
    text_of_accepted accepted "rendering" "interpolator" _ "mustache" (by decide) (by decide)
  have seconds := timeout_of_accepted accepted
  have lifetime := cacheLifetime_of_accepted accepted
  refine ⟨passes, workers, interpolator, logLevel_of_accepted accepted, logPath_of_accepted accepted,
    seconds, lifetime, ?build, ?token⟩
  case build =>
    intro σ plan retrievers world good distinct
    obtain ⟨chosen, named⟩ : ∃ chosen, Interpolator.ofName (interpolatorName config) = .ok chosen := by
      rcases List.mem_pair.mp interpolator with name | name
      · rw [name]
        exact ⟨.mustache false, rfl⟩
      · rw [name]
        exact ⟨.jinja {}, rfl⟩
    obtain ⟨n, readPasses, somePasses⟩ := passes
    obtain ⟨m, readWorkers, someWorkers⟩ := workers
    have buildable : Renderer.Buildable config (retrievers.map (·.1)) chosen n m := by
      refine ⟨?_, ?_, named, readPasses, readWorkers, somePasses, someWorkers⟩
      · exact List.forall_mem_map.mpr fun r among => (good r among).1
      · rwa [List.map_map]
    refine ⟨⟨?fails, ?succeeds⟩, ?limits⟩
    case fails =>
      rintro ⟨renderer, built⟩ ⟨enabled, large⟩
      obtain ⟨-, -, -, lifetime?, -, read, -⟩ := Renderer.build_eq_ok_iff.mp built
      rw [if_pos enabled] at read
      rcases lifetime with ⟨-, fails⟩ | ⟨small, -⟩
      · cases fails.symm.trans read
      · exact small large
    case succeeds =>
      intro fine
      cases enabled : cacheEnabled config with
      | false =>
          refine ⟨_, Renderer.build_eq_ok_iff.mpr ⟨chosen, n, m, none, buildable, ?_, rfl⟩⟩
          rw [if_neg (by simp [enabled])]
          exact ⟨rfl, fun r among => (good r among).2⟩
      | true =>
          rcases lifetime with ⟨large, -⟩ | ⟨-, lifetime?, read, -⟩
          · exact absurd ⟨enabled, large⟩ fine
          · refine ⟨_, Renderer.build_eq_ok_iff.mpr ⟨chosen, n, m, lifetime?, buildable, ?_, rfl⟩⟩
            rwa [if_pos enabled]
    case limits =>
      intro renderer built
      obtain ⟨_, passes, workers, _, allowed, -, rfl⟩ := Renderer.build_eq_ok_iff.mp built
      have somePasses := allowed.one_le_passes
      have someWorkers := allowed.one_le_workers
      exact ⟨show 1 ≤ passes.toNat by omega, show 1 ≤ workers.toNat by omega⟩
  case token =>
    intro now
    rw [CancelToken.ofSettings]
    rcases seconds with ⟨large, read⟩ | ⟨small, seconds?, read, -⟩
    · simp [read, large]
    · cases seconds? <;> simp [read, small]

/-- A timeout of some seconds, next to a lifetime of five and an entry that is no section. -/
def patient (seconds : Nat) : Entries :=
  [(.str "rendering", .dict [(.str "max_passes", .int 2), (.str "timeout_seconds", .int seconds)]),
    (.str "cache", .dict [(.str "ttl_seconds", .int 5)]), (.str "notes", .null)]

theorem patient_accepted {seconds : Nat} (positive : 0 < seconds) :
    validate (.dict (patient seconds)) = .ok () := by
  simp [validate, check, violations, schema, patient, Section.violations, Setting.violations, Entries.get?,
    Key.same, Key.sense, typeViolations, demandViolations, isBelow, isAtMost, JsonType.holds,
    Section.strangerViolations, Section.strangers, positive.ne']

theorem overflowBound_le : Number.overflowBound ≤ 10 ^ 400 := by decide +kernel

theorem patient_tooLarge : TooLarge (patient (10 ^ 400)) "rendering" "timeout_seconds" :=
  ⟨10 ^ 400, rfl, overflowBound_le⟩

/-- With a timeout of `10 ^ 400` seconds a renderer can be built, and a token cannot. -/
theorem patient_settings :
    let config := patient (10 ^ 400)
    let world : World Float Unit := { scene := { sessionTime := 0, systemTime := 0, state := () } }
    validate (.dict config) = .ok () ∧
    (∃ passes, maxPasses config = .ok passes ∧ 1 ≤ passes) ∧
    (∃ lifetime?, cacheLifetime config = .ok lifetime? ∧
      ∀ seconds ∈ lifetime?, seconds.isNaN = false → 0 ≤ seconds) ∧
    (∃ renderer, (Renderer.build { own := "own" } config
      [("note", .static { text := "n" })] world).1 = .ok renderer) ∧
    ¬ ∃ token?, CancelToken.ofSettings config 0 = .ok token? := by
  intro config world
  have accepted : validate (.dict config) = .ok () :=
    patient_accepted (Number.overflowBound_pos.trans_le overflowBound_le)
  obtain ⟨passes, -, -, -, -, -, lifetime, build, token⟩ := settings_of_accepted accepted
  have small : ¬ TooLarge config "cache" "ttl_seconds" := by
    rintro ⟨n, found, large⟩
    cases found
    exact absurd large (by decide +kernel)
  refine ⟨accepted, passes, (lifetime.resolve_left fun large => small large.1).2, ?_, ?_⟩
  · refine (build { own := "own" } [("note", .static { text := "n" })] world ?_ ?_).1.mpr
      fun large => small large.2
    · simp [Retriever.isGenuine]
      decide
    · exact List.nodup_singleton _
  · rw [token, not_not]
    exact patient_tooLarge

/-- A configuration is accepted, and its timeout cannot be read. -/
theorem huge_timeout_fails :
    validate (.dict (patient (10 ^ 400))) = .ok () ∧
      ∀ now, CancelToken.ofSettings (patient (10 ^ 400)) now = .error (.fault .hugeFraction) := by
  have accepted := patient_accepted (Number.overflowBound_pos.trans_le overflowBound_le)
  refine ⟨accepted, fun now => ?_⟩
  rcases timeout_of_accepted accepted with ⟨-, fails⟩ | ⟨small, -⟩
  · rw [CancelToken.ofSettings, fails]
  · exact absurd patient_tooLarge small

end TagWeave.Config
