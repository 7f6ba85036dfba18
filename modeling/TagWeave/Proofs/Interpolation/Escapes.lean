import TagWeave.Interpolator
import TagWeave.Proofs.Mustache.Inclusion
import TagWeave.Proofs.Value.Entries

/-!
# What escapes an interpolation

An interpolation gives a text or ends in an interpolation error, but not always. Whatever a mustache
engine fails with is turned into such an error, except a request to end the program and a failure
that has no wording. Of what a Jinja engine fails with, only the faults of the template are; all
other faults are passed on as they are, and so are the faults of names that no template can take.

This holds of any engines. With the library's own one, what a mustache template passes on is
always raised by a lambda.
-/

namespace TagWeave

/-- Sharing an entry goes both ways. -/
theorem Key.same_comm (a b : Key) : a.same b = b.same a := BEq.comm

/-- Once an entry is set there is a key of some sort if there was one, or if this is one, where keys
that share an entry are of one sort. -/
theorem Entries.exists_insert_iff {P : Key → Prop} (alike : ∀ {a b}, a.same b → (P a ↔ P b))
    (entries : Entries) (key : Key) (v : Value) :
    (∃ entry ∈ entries.insert key v, P entry.1) ↔ (∃ entry ∈ entries, P entry.1) ∨ P key := by
  induction entries with
  | nil => simp [insert]
  | cons entry entries ih =>
      obtain ⟨k, held⟩ := entry
      rw [insert]
      split
      · next same =>
        simp only [List.mem_cons, exists_eq_or_imp, ← alike same]
        exact (or_iff_left_of_imp .inl).symm
      · simp only [List.mem_cons, exists_eq_or_imp, ih, or_assoc]

theorem Entries.exists_foldl_insert_iff {P : Key → Prop} (alike : ∀ {a b}, a.same b → (P a ↔ P b))
    (entries added : Entries) :
    (∃ entry ∈ added.foldl (fun entries (key, v) => entries.insert key v) entries, P entry.1) ↔
      (∃ entry ∈ entries, P entry.1) ∨ ∃ entry ∈ added, P entry.1 := by
  induction added generalizing entries with
  | nil => simp
  | cons entry added ih =>
      rw [List.foldl_cons, ih, exists_insert_iff alike]
      simp only [List.mem_cons, exists_eq_or_imp, or_assoc]

/-! ### Jinja templates -/

namespace Jinja

variable {options : Options} {template : String} {bindings : List Value} {entries : Entries}
  {fault : Fault} {engine : Engine}

/-- A binding defines a name. -/
inductive Defines : Value → Key → Prop
  | entry {entries : Entries} {key : Key} {v : Value} : (key, v) ∈ entries →
      Defines (.dict entries) key
  | field {attributes : List (String × Value)} {name : String} {v : Value} :
      (name, v) ∈ attributes → name.toList.head? ≠ some '_' →
      Defines (.record attributes) (.str name)

theorem exists_addBinding_iff {P : Key → Prop} (alike : ∀ {a b : Key}, a.same b → (P a ↔ P b))
    {before : Entries} {binding : Value} (added : addBinding before binding = .ok entries) :
    (∃ entry ∈ entries, P entry.1) ↔
      (∃ entry ∈ before, P entry.1) ∨ ∃ key, Defines binding key ∧ P key := by
  have nothing (none : ∀ key, ¬ Defines binding key) (same : before = entries) :
      (∃ entry ∈ entries, P entry.1) ↔
        (∃ entry ∈ before, P entry.1) ∨ ∃ key, Defines binding key ∧ P key := by
    simp [none, same]
  cases binding with
  | null =>
      cases added
      exact nothing nofun rfl
  | lambda name =>
      cases added
      exact nothing nofun rfl
  | dict own =>
      cases added
      rw [Entries.exists_foldl_insert_iff alike]
      refine or_congr_right ⟨?_, ?_⟩
      · rintro ⟨⟨key, v⟩, member, holds⟩
        exact ⟨key, .entry member, holds⟩
      · rintro ⟨key, ⟨member⟩, holds⟩
        exact ⟨_, member, holds⟩
  | record attributes =>
      cases added
      have among := Entries.exists_foldl_insert_iff alike before
        ((attributes.filter fun field => field.1.toList.head? ≠ some '_').map
          fun field => (.str field.1, field.2))
      rw [List.foldl_map] at among
      refine among.trans (or_congr_right ⟨?_, ?_⟩)
      · rintro ⟨_, member, holds⟩
        obtain ⟨⟨name, v⟩, kept, rfl⟩ := List.mem_map.mp member
        obtain ⟨there, visible⟩ := List.mem_filter.mp kept
        exact ⟨_, .field there (of_decide_eq_true visible), holds⟩
      · rintro ⟨key, defines, holds⟩
        cases defines with
        | field there visible =>
            refine ⟨_, List.mem_map_of_mem (List.mem_filter.mpr ⟨there, ?_⟩), holds⟩
            exact decide_eq_true visible
  | _ => cases added

/-- What the bindings define together has a key of some sort if one of them defines one. -/
theorem exists_mergeBindings_iff {P : Key → Prop} (alike : ∀ {a b : Key}, a.same b → (P a ↔ P b))
    {before : Entries} (merged : mergeBindings before bindings = .ok entries) :
    (∃ entry ∈ entries, P entry.1) ↔ (∃ entry ∈ before, P entry.1) ∨
      ∃ binding ∈ bindings, ∃ key, Defines binding key ∧ P key := by
  induction bindings generalizing before with
  | nil =>
      cases merged
      simp
  | cons binding bindings ih =>
      rw [mergeBindings] at merged
      split at merged
      · next between added =>
        rw [ih merged, exists_addBinding_iff alike added]
        simp only [List.mem_cons, exists_eq_or_imp, or_assoc]
      · cases merged

/-- Why what some bindings define cannot be variables. -/
inductive Unnameable (bindings : List Value) : TypeFault → Prop
  | notText {binding : Value} {key : Key} : binding ∈ bindings → Defines binding key →
      (∀ name, key ≠ .str name) → Unnameable bindings .badKeys
  | self {binding : Value} :
      (∀ binding ∈ bindings, ∀ key, Defines binding key → ∃ name, key = .str name) →
      binding ∈ bindings → Defines binding (.str "self") →
      Unnameable bindings (.repeatedArgument "Template.render" "self")

/-- There is one reason at most. -/
theorem Unnameable.unique {refusal refusal' : TypeFault} (unnameable : Unnameable bindings refusal)
    (unnameable' : Unnameable bindings refusal') : refusal = refusal' := by
  cases unnameable with
  | notText bound defines other =>
      cases unnameable' with
      | notText => rfl
      | self texts =>
          obtain ⟨name, same⟩ := texts _ bound _ defines
          exact absurd same (other name)
  | self texts =>
      cases unnameable' with
      | notText bound defines other =>
          obtain ⟨name, same⟩ := texts _ bound _ defines
          exact absurd same (other name)
      | self => rfl

theorem nameOf?_eq_some_iff {key : Key} {name : String} :
    nameOf? key = some name ↔ key = .str name := by
  cases key <;> simp [nameOf?]

theorem nameOf?_eq_of_same {a b : Key} (same : a.same b) : nameOf? a = nameOf? b := by
  ext name
  rw [nameOf?_eq_some_iff, nameOf?_eq_some_iff]
  constructor
  · rintro rfl
    exact Key.same_str_iff.mp same
  · rintro rfl
    exact Key.same_str_iff.mp (Key.same_comm a _ ▸ same)

section

variable (merged : mergeBindings [] bindings = .ok entries)

include merged

/-- A sort of names is among the merged ones if a binding defines one. -/
theorem exists_name_iff (P : Option String → Prop) :
    (∃ entry ∈ entries, P (nameOf? entry.1)) ↔
      ∃ binding ∈ bindings, ∃ key, Defines binding key ∧ P (nameOf? key) := by
  have among := exists_mergeBindings_iff (P := fun key => P (nameOf? key))
    (fun same => by rw [nameOf?_eq_of_same same]) merged
  simpa using among

theorem any_notText_iff :
    (entries.any fun (key, _) => (nameOf? key).isNone) = true ↔ Unnameable bindings .badKeys := by
  have among := exists_name_iff merged (·.isNone = true)
  rw [List.any_eq_true, among]
  constructor
  · rintro ⟨binding, bound, key, defines, other⟩
    refine .notText bound defines fun name same => ?_
    rw [same] at other
    cases other
  · rintro ⟨bound, defines, other⟩
    refine ⟨_, bound, _, defines, ?_⟩
    rw [Option.isNone_iff_eq_none, Option.eq_none_iff_forall_ne_some]
    exact fun name named => other name (nameOf?_eq_some_iff.mp named)

theorem has_self_iff :
    entries.has (.str "self") = true ↔ ∃ binding ∈ bindings, Defines binding (.str "self") := by
  have among := exists_name_iff merged (· = some "self")
  simp only [nameOf?_eq_some_iff, exists_eq_right] at among
  rw [← among, Entries.has, Entries.get?, Option.isSome_map, List.find?_isSome]
  refine exists_congr fun entry => and_congr_right fun _ => ?_
  rw [Key.same_comm, Key.same_str_iff]

/-- The variables are there, unless the names cannot be. -/
theorem variablesOf_eq_error_iff {failure : Failure} :
    variablesOf entries = .error failure ↔
      ∃ refusal, Unnameable bindings refusal ∧ failure = .runtime (.type refusal) := by
  have only {refusal : TypeFault} (unnameable : Unnameable bindings refusal) :
      (typeFault refusal : Eval (List (String × Value))) = .error failure ↔
        ∃ refusal, Unnameable bindings refusal ∧ failure = .runtime (.type refusal) := by
    rw [typeFault, Except.error.injEq, eq_comm]
    refine ⟨fun same => ⟨_, unnameable, same⟩, ?_⟩
    rintro ⟨refusal', unnameable', rfl⟩
    rw [unnameable.unique unnameable']
  rw [variablesOf]
  split
  · next other => exact only ((any_notText_iff merged).mp other)
  · next texts =>
    split
    · next taken =>
      obtain ⟨binding, bound, defines⟩ := (has_self_iff merged).mp taken
      refine only (.self (fun binding bound key defines => ?_) bound defines)
      by_contra other
      exact texts ((any_notText_iff merged).mpr (.notText bound defines (not_exists.mp other)))
    · next free =>
      refine iff_of_false nofun ?_
      rintro ⟨refusal, unnameable, -⟩
      cases unnameable with
      | notText bound defines other =>
          exact texts ((any_notText_iff merged).mpr (.notText bound defines other))
      | self _ bound defines => exact free ((has_self_iff merged).mpr ⟨_, bound, defines⟩)

end

/-- An engine fails with a fault when it reads a template, or when it renders it with the variables. -/
theorem render_eq_error_iff {failure : Failure} :
    render engine options template entries = .error failure ↔
      engine options template = .error failure ∨ ∃ rendered, engine options template = .ok rendered ∧
        (variablesOf entries = .error failure ∨
          ∃ named, variablesOf entries = .ok named ∧ rendered named = .error failure) := by
  rw [render]
  cases engine options template with
  | error failure' => simp [bind, Except.bind]
  | ok rendered =>
      cases named : variablesOf entries with
      | error failure' => simp [bind, Except.bind]
      | ok named => simp [bind, Except.bind]

end Jinja

/-! ### Mustache templates -/

namespace Mustache

theorem isRaised_of_isExit {fault : Fault} (exit : fault.isExit = true) : fault.isRaised = true := by
  cases fault with
  | raised | unprintable => rfl
  | _ => cases exit

theorem isRaised_of_told {fault failure : Fault} (untold : fault.told = .error failure) :
    fault.isRaised = true := by
  cases fault with
  | unprintable => rfl
  | _ => cases untold

theorem isRaised_of_pathFault? {path : String} {fault : Fault}
    (refused : FileTree.pathFault? path = some fault) : fault.isRaised = false := by
  obtain ⟨e, rfl⟩ | rfl := FileTree.pathFault?_cases refused <;> rfl

theorem isRaised_of_readBytes {files : FileTree} {path : String} {fault : Fault}
    (refused : files.readBytes path = .error fault) : fault.isRaised = false := by
  rw [FileTree.readBytes] at refused
  split at refused
  · next unnameable =>
    cases refused
    exact isRaised_of_pathFault? unnameable
  · split at refused <;> cases refused <;> rfl

theorem isRaised_of_readText {files : FileTree} {path : String} {fault : Fault}
    (refused : files.readText path = .error fault) : fault.isRaised = false := by
  rw [FileTree.readText, FileTree.readTextAs] at refused
  split at refused
  · next unread =>
    cases refused
    exact isRaised_of_readBytes unread
  · split at refused
    · cases refused
      rfl
    · split at refused <;> cases refused
      rfl

/-- Files raise nothing. -/
theorem isRaised_of_included {lambda? : String → Option (String → Script)} {files : FileTree}
    {depth : Nat} {key : String} {fault : Fault}
    (refused : (Host.ofFiles lambda? files depth).included key = .error fault) :
    fault.isRaised = false := by
  rw [Host.ofFiles] at refused
  simp only at refused
  split at refused
  · cases refused
  · exact isRaised_of_readText refused

/-- What the library's own engine fails with is a fault of its own or of a file, or a lambda raises it. -/
theorem raises_of_isRaised {lambda? : String → Option (String → Script)} {files : FileTree}
    {depth : Nat} {template : String} {bindings : List Value} {memory : Memory} {fault : Fault}
    (failed : ((interpolateWith render (.ofFiles lambda? files depth) template bindings).run.run
      memory).1 = .error (.mustacheFailed fault)) (raised : fault.isRaised = true) :
    (Host.ofFiles lambda? files depth).Raises fault := by
  have itself : (Host.ofFiles lambda? files depth).Within (.ofFiles lambda? files depth) :=
    ⟨rfl, rfl, fun _ _ same => same⟩
  have parted := asks_render itself template (scopesOf bindings) memory
  rw [interpolateWith] at failed
  generalize (render _ template (scopesOf bindings)).run.run memory = outcome at parted failed
  cases parted with
  | result | malformed => cases failed
  | failed _ own =>
      cases failed
      rcases own with own | own
      · rw [own] at raised
        cases raised
      · exact own
  | parted refused =>
      cases failed
      rw [isRaised_of_included refused] at raised
      cases raised

end Mustache

namespace Interpolator

/-- The outcome of an interpolation is a text or an interpolation error. -/
def Settled (outcome : Except Error String) : Prop :=
  (∃ text, outcome = .ok text) ∨ ∃ fault, outcome = .error (.interpolation fault)

/-- The faults that an interpolation passes on. -/
inductive Escapes (engines : Engines) (host : Mustache.Host) (template : String)
    (bindings : List Value) (memory : Mustache.Memory) : Interpolator → Fault → Prop
  /-- A request to end the program. -/
  | exit {warn : Bool} {request : Fault} :
      ((Mustache.interpolateWith engines.mustache host template bindings).run.run memory).1 =
        .error (.mustacheFailed request) →
      request.isExit = true → Escapes engines host template bindings memory (.mustache warn) request
  /-- What asking a failure for its wording fails with. -/
  | wording {warn : Bool} {cause failure : Fault} :
      ((Mustache.interpolateWith engines.mustache host template bindings).run.run memory).1 =
        .error (.mustacheFailed cause) →
      cause.isExit = false → cause.told = .error failure →
      Escapes engines host template bindings memory (.mustache warn) failure
  /-- A fault that is not of the template, when it is read. -/
  | reading {options : Jinja.Options} {entries : Entries} {fault : Fault} :
      Jinja.mergeBindings [] bindings = .ok entries →
      engines.jinja options template = .error (.runtime fault) →
      Escapes engines host template bindings memory (.jinja options) fault
  /-- Names that no template can take. -/
  | name {options : Jinja.Options} {entries : Entries} {refusal : TypeFault} :
      Jinja.mergeBindings [] bindings = .ok entries →
      (∃ rendered, engines.jinja options template = .ok rendered) →
      Jinja.Unnameable bindings refusal →
      Escapes engines host template bindings memory (.jinja options) (.type refusal)
  /-- A fault that is not of the template, when it is rendered. -/
  | rendering {options : Jinja.Options} {entries : Entries}
      {rendered : List (String × Value) → Jinja.Eval String} {named : List (String × Value)}
      {fault : Fault} : Jinja.mergeBindings [] bindings = .ok entries →
      engines.jinja options template = .ok rendered → Jinja.variablesOf entries = .ok named →
      rendered named = .error (.runtime fault) →
      Escapes engines host template bindings memory (.jinja options) fault

section

variable {engines : Engines} {host : Mustache.Host} {template : String} {bindings : List Value}
  {memory : Mustache.Memory} {fault : Fault}

theorem mustacheError_eq_fault_iff {f : InterpolationFault} :
    mustacheError f = .fault fault ↔
      ∃ cause, f = .mustacheFailed cause ∧
        (cause.isExit = true ∧ cause = fault ∨ cause.isExit = false ∧ cause.told = .error fault) := by
  unfold mustacheError
  split
  · next cause =>
    cases exit : cause.isExit with
    | true => simp [exit]
    | false =>
        cases told : cause.told with
        | ok => simp [exit, told]
        | error failure => simp [exit, told]
  · next other =>
    refine iff_of_false nofun ?_
    rintro ⟨cause, rfl, -⟩
    exact other cause rfl

theorem mustache_eq_fault_iff (warn : Bool) :
    ((mustache warn).interpolateWith engines host template bindings memory).1 =
        .error (.fault fault) ↔
      Escapes engines host template bindings memory (.mustache warn) fault := by
  rw [interpolateWith]
  constructor
  · intro failed
    split at failed
    · cases failed
    · next f memory' rendered =>
      have escaped := Except.error.inj failed
      obtain ⟨cause, rfl, ⟨exit, rfl⟩ | ⟨stays, untold⟩⟩ := mustacheError_eq_fault_iff.mp escaped
      · exact .exit (congrArg Prod.fst rendered) exit
      · exact .wording (congrArg Prod.fst rendered) stays untold
  · intro escapes
    have passed {cause : Fault} (failed : ((Mustache.interpolateWith engines.mustache host template
        bindings).run.run memory).1 = .error (.mustacheFailed cause))
        (escaped : mustacheError (.mustacheFailed cause) = .fault fault) : ((mustache warn).interpolateWith
          engines host template bindings memory).1 = .error (.fault fault) := by
      rw [interpolateWith]
      split
      · next rendered =>
        rw [rendered] at failed
        cases failed
      · next rendered =>
        rw [rendered] at failed
        rw [Except.error.inj failed, escaped]
    cases escapes with
    | exit failed exit => exact passed failed (mustacheError_eq_fault_iff.mpr ⟨_, rfl, .inl ⟨exit, rfl⟩⟩)
    | wording failed stays untold =>
        exact passed failed (mustacheError_eq_fault_iff.mpr ⟨_, rfl, .inr ⟨stays, untold⟩⟩)

theorem jinja_eq_fault_iff (options : Jinja.Options) :
    ((jinja options).interpolateWith engines host template bindings memory).1 =
        .error (.fault fault) ↔
      Escapes engines host template bindings memory (.jinja options) fault := by
  rw [interpolateWith, Jinja.interpolateWith]
  cases merged : Jinja.mergeBindings [] bindings with
  | error typeName =>
      refine iff_of_false nofun fun escapes => ?_
      cases escapes with
      | reading merged' | name merged' | rendering merged' =>
          rw [merged] at merged'
          cases merged'
  | ok entries =>
      have failed : (Jinja.render engines.jinja options template entries = .error (.runtime fault)) ↔
          Escapes engines host template bindings memory (.jinja options) fault := by
        rw [Jinja.render_eq_error_iff, Jinja.variablesOf_eq_error_iff merged]
        constructor
        · rintro (unread | ⟨rendered, read, ⟨refusal, unnameable, same⟩ | ⟨named, are, failed⟩⟩)
          · exact .reading merged unread
          · cases same
            exact .name merged ⟨rendered, read⟩ unnameable
          · exact .rendering merged read are failed
        · intro escapes
          cases escapes with
          | reading _ unread => exact .inl unread
          | name _ read unnameable =>
              obtain ⟨rendered, read⟩ := read
              exact .inr ⟨rendered, read, .inl ⟨_, unnameable, rfl⟩⟩
          | rendering merged' read are failed =>
              rw [merged] at merged'
              cases merged'
              exact .inr ⟨_, read, .inr ⟨_, are, failed⟩⟩
      rw [← failed]
      cases rendered : Jinja.render engines.jinja options template entries with
      | ok s => simp [rendered]
      | error failure => cases failure <;> simp [rendered]

theorem interpolateWith_eq_fault_iff (interpolator : Interpolator) :
    (interpolator.interpolateWith engines host template bindings memory).1 = .error (.fault fault) ↔
      Escapes engines host template bindings memory interpolator fault := by
  cases interpolator with
  | mustache warn => exact mustache_eq_fault_iff warn
  | jinja options => exact jinja_eq_fault_iff options

/-- All other faults are turned into interpolation errors. -/
theorem settled_or_fault (engines : Engines) (interpolator : Interpolator) (host : Mustache.Host)
    (template : String) (bindings : List Value) (memory : Mustache.Memory) :
    let outcome := (interpolator.interpolateWith engines host template bindings memory).1
    Settled outcome ∨ ∃ fault, outcome = .error (.fault fault) := by
  intro outcome
  cases interpolator with
  | mustache warn =>
      simp only [outcome, interpolateWith]
      split
      · exact .inl (.inl ⟨_, rfl⟩)
      · unfold mustacheError
        split
        · split
          · exact .inr ⟨_, rfl⟩
          · split
            · exact .inl (.inr ⟨_, rfl⟩)
            · exact .inr ⟨_, rfl⟩
        · exact .inl (.inr ⟨_, rfl⟩)
  | jinja options =>
      simp only [outcome, interpolateWith, Jinja.interpolateWith]
      split
      · exact .inl (.inr ⟨_, rfl⟩)
      · split
        · exact .inl (.inl ⟨_, rfl⟩)
        · exact .inl (.inr ⟨_, rfl⟩)
        · exact .inr ⟨_, rfl⟩

end

/-- With any engines, an interpolation gives a text or ends in an interpolation error, except where
one of the faults escapes that it passes on; then the outcome is this fault. With the library's own
mustache engine, only what a lambda raises escapes. -/
theorem settled_iff (engines : Engines) (interpolator : Interpolator)
    (lambda? : String → Option (String → Mustache.Script)) (files : FileTree) (depth : Nat)
    (template : String) (bindings : List Value) (memory : Mustache.Memory) :
    let host := Mustache.Host.ofFiles lambda? files depth
    let outcome := (interpolator.interpolateWith engines host template bindings memory).1
    (Settled outcome ↔ ∀ fault, ¬ Escapes engines host template bindings memory interpolator fault) ∧
    (∀ fault, outcome = .error (.fault fault) ↔
      Escapes engines host template bindings memory interpolator fault) ∧
    ∀ warn fault, Escapes .own host template bindings memory (.mustache warn) fault →
      ∃ cause, host.Raises cause ∧
        (cause = fault ∧ cause.isExit = true ∨ cause.told = .error fault) := by
  intro host outcome
  have passed (fault : Fault) : outcome = .error (.fault fault) ↔
      Escapes engines host template bindings memory interpolator fault :=
    interpolateWith_eq_fault_iff interpolator
  refine ⟨⟨?_, fun none => ?_⟩, passed, ?_⟩
  · rintro settled fault escapes
    have escaped := (passed fault).mpr escapes
    rw [escaped] at settled
    rcases settled with ⟨text, same⟩ | ⟨f, same⟩ <;> cases same
  · refine (settled_or_fault engines interpolator host template bindings memory).resolve_right ?_
    rintro ⟨fault, escaped⟩
    exact none fault ((passed fault).mp escaped)
  · intro warn fault escapes
    cases escapes with
    | exit failed exit =>
        exact ⟨fault, Mustache.raises_of_isRaised failed (Mustache.isRaised_of_isExit exit),
          .inl ⟨rfl, exit⟩⟩
    | @wording _ cause _ failed _ untold =>
        exact ⟨cause, Mustache.raises_of_isRaised failed (Mustache.isRaised_of_told untold),
          .inr untold⟩

/-- The template divides by zero. -/
theorem reads_division :
    Jinja.readTemplate? "\x7b\x7b 1 / 0 \x7d\x7d".toList =
      some [.output (.binary .div (.const (.int 1)) (.const (.int 0)))] ∧
    Jinja.longInteger? "\x7b\x7b 1 / 0 \x7d\x7d".toList = none := by
  have pieces : Jinja.readPieces? "\x7b\x7b 1 / 0 \x7d\x7d".toList =
      some [.output [.int 1, .sign "/", .int 0]] := by
    decide +kernel
  rw [Jinja.readTemplate?, Jinja.longInteger?, pieces]
  exact ⟨rfl, by decide +kernel⟩

/-- A division by zero in a Jinja template is no interpolation error. -/
theorem not_settled_of_division :
    let outcome := ((jinja {}).interpolate (.ofFiles (fun _ => none) {})
      "\x7b\x7b 1 / 0 \x7d\x7d" [] {}).1
    outcome = .error (.fault (.divisionByZero "division by zero")) ∧ ¬ Settled outcome := by
  intro outcome
  have escaped : outcome = .error (.fault (.divisionByZero "division by zero")) := by
    simp only [outcome, interpolate_jinja, Jinja.interpolateWith, Jinja.mergeBindings, Jinja.render,
      Jinja.engine, reads_division.1, reads_division.2]
    rfl
  refine ⟨escaped, ?_⟩
  rw [escaped]
  rintro (⟨_, ⟨⟩⟩ | ⟨_, ⟨⟩⟩)

end Interpolator

end TagWeave
