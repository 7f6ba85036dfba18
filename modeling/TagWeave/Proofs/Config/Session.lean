import Mathlib.Data.List.Induction
import TagWeave.Config.Manager
import TagWeave.Proofs.Config.Links
import TagWeave.Proofs.Config.Schema

/-!
# Configurations in a session

A manager is asked for configurations and for values while files and environment change. A
configuration that it reads from the sources is checked, unless no check was asked for; the
manager keeps it either way, and gives it without looking at it again.

So a checked load gives, and a value is looked up in, what the schema accepts, with one
exception: the configuration that was read last was not checked. Whoever does not have the
sources read again gets this one, and no check.
-/

namespace TagWeave.Config

/-! ### The manager -/

namespace Manager

variable {manager : Manager} {files : FileTree} {environment : Environment} {config : Entries}
  {tools : Tools}

/-- Either the sources are read, or a configuration is kept and given again. -/
theorem fresh_or_kept (manager : Manager) (reload : Bool) :
    (manager.kept? = none ∨ reload = true) ∨
      ∃ config, manager.kept? = some config ∧ reload = false := by
  cases manager.kept? <;> cases reload <;> simp

theorem load_of_kept (kept : manager.kept? = some config) (checked : Bool) :
    manager.load files environment checked false tools = (.ok config, manager, []) := by
  rw [load, kept]
  rfl

/-- A manager that keeps no configuration, or is told to load a new one, reads the sources. -/
theorem load_of_fresh {reload : Bool} (fresh : manager.kept? = none ∨ reload = true)
    (checked : Bool) :
    manager.load files environment checked reload tools =
      load.fresh manager files environment checked tools := by
  rw [load]
  rcases fresh with none | rfl
  · rw [none]
  · cases manager.kept? <;> rfl

theorem load_fresh_toOption (checked : Bool) :
    (load.fresh manager files environment checked tools).1.toOption =
      (manager.read files environment checked tools).1.toOption := by
  rw [load.fresh]
  rcases manager.read files environment checked tools with ⟨_ | _, _⟩ <;> rfl

/-- What is read is kept. If nothing can be read, the manager is left as it was. -/
theorem load_fresh_kept? (checked : Bool) :
    (load.fresh manager files environment checked tools).2.1.kept? =
      ((manager.read files environment checked tools).1.toOption).or manager.kept? := by
  rw [load.fresh]
  rcases manager.read files environment checked tools with ⟨_ | _, _⟩ <;> rfl

/-- A value that is got is looked up in the configuration that a checked load would give. -/
theorem get_toOption (keys : String) (default : Value) :
    (manager.get files environment keys default).1.toOption =
      (manager.load files environment).1.toOption.map fun config =>
        (lookup? config keys).getD default := by
  rw [get]
  rcases manager.load files environment with ⟨_ | _, _⟩ <;> rfl

/-- What is read with a check is accepted. -/
theorem accepts_of_read (read : (manager.read files environment true).1.toOption = some config) :
    Accepts (.dict schemaDocument) (.dict config) := by
  rw [Manager.read] at read
  simp only [if_true] at read
  split at read
  · cases read
  · split at read
    · cases read
    · split at read
      · cases read
      · next checked =>
        cases read
        exact validate_eq_ok_iff.mp checked

end Manager

/-! ### Sessions -/

/-- What happens in a session: a configuration is loaded, a value is asked for, or the files or the
environment change. -/
inductive Act where
  | load (checked reload : Bool)
  | get (keys : String) (default : Value)
  | files (files : FileTree)
  | environment (environment : Environment)

/-- How a configuration is asked for: whether it is to be checked, and whether the sources are to be
read again. -/
def Act.asks? : Act → Option (Bool × Bool)
  | .load checked reload => some (checked, reload)
  | .get _ _ => some (true, false)
  | .files _ | .environment _ => none

/-- A manager among files and an environment. -/
structure Session where
  manager : Manager
  files : FileTree
  environment : Environment

namespace Session

/-- The session after an act. -/
def step (session : Session) : Act → Session
  | .load checked reload =>
    { session with
      manager := (session.manager.load session.files session.environment checked reload).2.1 }
  | .get keys default =>
    { session with
      manager := (session.manager.get session.files session.environment keys default).2.1 }
  | .files files => { session with files }
  | .environment environment => { session with environment }

/-- The session after some acts. -/
def after (session : Session) (acts : List Act) : Session := acts.foldl step session

/-- The configuration that the manager gives when it is asked for a checked one. -/
def consulted? (session : Session) (act : Act) : Option Entries :=
  match act.asks? with
  | some (true, reload) =>
    (session.manager.load session.files session.environment true reload).1.toOption
  | _ => none

/-- The configuration that the manager reads from the sources, and whether it checks it. -/
def reading? (session : Session) (act : Act) : Option (Bool × Entries) :=
  match act.asks? with
  | some (checked, reload) =>
    if session.manager.kept?.isSome && !reload then none
    else
      (session.manager.read session.files session.environment checked).1.toOption.map (checked, ·)
  | none => none

/-- What can be told of the acts of a session, one after the other. -/
def collect {α : Type} (told? : Session → Act → Option α) (session : Session) : List Act → List α
  | [] => []
  | act :: acts => (told? session act).toList ++ collect told? (session.step act) acts

/-- The configurations that checked loads give, and that values are looked up in. -/
def consulted (session : Session) (acts : List Act) : List Entries :=
  session.collect consulted? acts

/-- The configurations that are read from the sources, each with whether it was checked. -/
def readings (session : Session) (acts : List Act) : List (Bool × Entries) :=
  session.collect reading? acts

variable {session : Session} {act : Act} {acts : List Act} {config : Entries}

theorem after_concat : session.after (acts ++ [act]) = (session.after acts).step act := by
  simp [after]

theorem collect_concat {α : Type} (told? : Session → Act → Option α) :
    session.collect told? (acts ++ [act]) =
      session.collect told? acts ++ (told? (session.after acts) act).toList := by
  induction acts generalizing session with
  | nil => simp [collect, after]
  | cons first acts ih => rw [List.cons_append, collect, ih, collect, List.append_assoc]; rfl

theorem mem_collect {α : Type} {told? : Session → Act → Option α} {a : α} :
    a ∈ session.collect told? acts ↔
      ∃ before act since, acts = before ++ act :: since ∧
        told? (session.after before) act = some a := by
  induction acts generalizing session with
  | nil => simp [collect]
  | cons first acts ih =>
      rw [collect, List.mem_append, Option.mem_toList, ih]
      constructor
      · rintro (told | ⟨before, act, since, rfl, told⟩)
        · exact ⟨[], first, acts, rfl, told⟩
        · exact ⟨first :: before, act, since, rfl, told⟩
      · rintro ⟨_ | ⟨_, before⟩, act, since, split, told⟩
        · cases split
          exact .inl told
        · cases split
          exact .inr ⟨before, act, since, rfl, told⟩

theorem step_of_asks {checked reload : Bool} (asks : act.asks? = some (checked, reload)) :
    (session.step act).manager =
      (session.manager.load session.files session.environment checked reload).2.1 := by
  cases act with
  | load => cases asks; rfl
  | get => cases asks; rfl
  | files | environment => cases asks

theorem step_of_not_asks (asks : act.asks? = none) :
    (session.step act).manager = session.manager := by
  cases act with
  | load | get => cases asks
  | files | environment => rfl

theorem reading?_of_fresh {checked reload : Bool} (asks : act.asks? = some (checked, reload))
    (fresh : session.manager.kept? = none ∨ reload = true) :
    session.reading? act =
      (session.manager.read session.files session.environment checked).1.toOption.map
        (checked, ·) := by
  rw [reading?, asks]
  rcases fresh with none | rfl
  · simp [none]
  · simp

theorem reading?_of_kept {checked : Bool} (asks : act.asks? = some (checked, false))
    (kept : session.manager.kept? = some config) : session.reading? act = none := by
  simp [reading?, asks, kept]

/-- The manager keeps the configuration that was read, if there is one. -/
theorem kept?_step :
    (session.step act).manager.kept? =
      ((session.reading? act).map Prod.snd).or session.manager.kept? := by
  cases asks : act.asks? with
  | none => rw [step_of_not_asks asks, reading?, asks]; rfl
  | some flags =>
      obtain ⟨checked, reload⟩ := flags
      rw [step_of_asks asks]
      rcases session.manager.fresh_or_kept reload with fresh | ⟨config, kept, rfl⟩
      · rw [Manager.load_of_fresh fresh, Manager.load_fresh_kept?, reading?_of_fresh asks fresh]
        simp [Function.comp_def]
      · rw [Manager.load_of_kept kept, reading?_of_kept asks kept]
        rfl

/-- What the manager keeps is what it has read last. -/
theorem kept?_after (new : session.manager.kept? = none) :
    (session.after acts).manager.kept? = (session.readings acts).getLast?.map Prod.snd := by
  induction acts using List.reverseRecOn with
  | nil => simpa [readings, collect, after] using new
  | append_singleton acts act ih =>
      rw [readings, collect_concat, ← readings, after_concat, kept?_step, ih]
      cases (session.after acts).reading? act <;> simp

/-- What is read with a check is accepted. -/
theorem accepts_of_reading? (read : session.reading? act = some (true, config)) :
    Accepts (.dict schemaDocument) (.dict config) := by
  cases asks : act.asks? with
  | none => rw [reading?, asks] at read; cases read
  | some flags =>
      obtain ⟨checked, reload⟩ := flags
      rcases session.manager.fresh_or_kept reload with fresh | ⟨config, kept, rfl⟩
      · rw [reading?_of_fresh asks fresh, Option.map_eq_some_iff] at read
        obtain ⟨config, read, same⟩ := read
        cases same
        exact Manager.accepts_of_read read
      · rw [reading?_of_kept asks kept] at read
        cases read

/-- A configuration that was asked for with a check was read with a check, or kept. -/
theorem consulted?_eq_some_iff :
    session.consulted? act = some config ↔
      session.reading? act = some (true, config) ∨
        (act.asks? = some (true, false) ∧ session.manager.kept? = some config) := by
  cases asks : act.asks? with
  | none => simp [consulted?, reading?, asks]
  | some flags =>
      obtain ⟨checked, reload⟩ := flags
      rcases session.manager.fresh_or_kept reload with fresh | ⟨other, kept, rfl⟩
      · rw [reading?_of_fresh asks fresh, consulted?, asks]
        cases checked with
        | false => simp
        | true =>
            simp only
            rw [Manager.load_of_fresh fresh, Manager.load_fresh_toOption]
            rcases fresh with none | rfl <;> simp [*]
      · rw [reading?_of_kept asks kept, consulted?, asks, kept]
        cases checked with
        | false => simp
        | true => simp [Manager.load_of_kept kept, Except.toOption]

/-- In a session with a new manager, every configuration that a checked load gives, or that a value
is looked up in, is accepted by the schema, if and only if so is every configuration that was read
last, and read without a check, when one is asked for that may be kept. The values that are got are
looked up in the former. -/
theorem consulted_accepted_iff (file? : Option String) (files : FileTree) (environment : Environment)
    (acts : List Act) :
    let start : Session := ⟨{ file? }, files, environment⟩
    ((∀ config ∈ start.consulted acts, Accepts (.dict schemaDocument) (.dict config)) ↔
      ∀ before act since config, acts = before ++ act :: since → act.asks? = some (true, false) →
        (start.readings before).getLast? = some (false, config) →
        Accepts (.dict schemaDocument) (.dict config)) ∧
    ∀ before keys default,
      let session := start.after before
      (session.manager.get session.files session.environment keys default).1.toOption =
        (session.consulted? (.get keys default)).map fun config =>
          (lookup? config keys).getD default := by
  intro start
  have kept (before : List Act) :
      (start.after before).manager.kept? = (start.readings before).getLast?.map Prod.snd :=
    kept?_after rfl
  refine ⟨⟨fun accepted before act since config split asks read => ?_,
    fun accepted config member => ?_⟩, fun before keys default => ?_⟩
  · refine accepted config (mem_collect.mpr ⟨before, act, since, split, ?_⟩)
    exact consulted?_eq_some_iff.mpr (.inr ⟨asks, by rw [kept, read]; rfl⟩)
  · obtain ⟨before, act, since, split, told⟩ := mem_collect.mp member
    rcases consulted?_eq_some_iff.mp told with read | ⟨asks, held⟩
    · exact accepts_of_reading? read
    · rw [kept, Option.map_eq_some_iff] at held
      obtain ⟨⟨checked, _⟩, read, rfl⟩ := held
      cases checked with
      | false => exact accepted before act since _ split asks read
      | true =>
          obtain ⟨_, _, _, _, read⟩ := mem_collect.mp (List.mem_of_getLast? read)
          exact accepts_of_reading? read
  · exact Manager.get_toOption keys default

/-- A configuration is loaded without a check, and then with one: the second load gives what the first
one has read, which allows no pass at all. -/
theorem not_consulted_accepted :
    ¬ ∀ config ∈ (⟨{ file? := none }, {}, [("VIEWCOMPOSE_RENDERING__MAX_PASSES", "0")]⟩ :
      Session).consulted [.load false false, .load true false],
      Accepts (.dict schemaDocument) (.dict config) := by
  let environment : Environment := [("VIEWCOMPOSE_RENDERING__MAX_PASSES", "0")]
  let config : Entries := defaults.insert (.str "rendering") (Value.ofFields
    [("max_passes", .int 0), ("max_workers", .int 1), ("interpolator", .str "mustache"),
      ("timeout_seconds", .null)])
  have read : ((Manager.mk none none).read {} environment false).1 = .ok config := by
    have overrides : overridesOf environment = [("RENDERING__MAX_PASSES", "0")] :=
      List.mergeSort_singleton _
    have laid : applyOverrides setAt defaults [("RENDERING__MAX_PASSES", "0")] = (config, none) := rfl
    simp only [Manager.read, layered, merged, Tools.own, overrides, applyOverrides_ofEntries, laid,
      Linked.entryValues_ofEntries, Bool.false_eq_true, if_false]
  have kept : (after ⟨{ file? := none }, {}, environment⟩ [.load false false]).manager.kept? =
      some config := by
    rw [← List.nil_append [Act.load false false], after_concat, step_of_asks rfl]
    rw [Manager.load_of_fresh (.inl rfl), Manager.load_fresh_kept?]
    exact congrArg (fun answer => (Except.toOption answer).or none) read
  intro accepted
  have passes : Accepts (Setting.document ⟨"max_passes", [.integer], .atLeast 1⟩) (.int 0) :=
    (accepted config (mem_collect.mpr ⟨[.load false false], .load true false, [], rfl,
      consulted?_eq_some_iff.mpr (.inr ⟨rfl, kept⟩)⟩)).setting (.head _) (.head _) rfl
  simpa [typeViolations, demandViolations, JsonType.holds, isBelow] using
    (accepts_setting []).mp passes

end Session

end TagWeave.Config
