import Mathlib.Logic.Basic
import Mathlib.Tactic.ByContra
import Mathlib.Tactic.MkIffOfInductiveProp
import TagWeave.Config.SchemaDocument
import TagWeave.Config.Settings
import TagWeave.Proofs.Value.Entries
import TagWeave.Value.Compare

/-!
# What the schema accepts

What a schema in the form of a document accepts is said once for every document, keyword by
keyword. The check of configurations, which follows the schema's sections and settings and
tells of all violations, passes exactly what the schema's document accepts.
-/

namespace TagWeave.Config

/-- A value is of the type of a name. A whole fraction is an integer. -/
@[mk_iff]
inductive HasType : String → Value → Prop
  | null : HasType "null" .null
  | boolean (b : Bool) : HasType "boolean" (.bool b)
  | integer (n : Int) : HasType "integer" (.int n)
  | whole {x : Float} (whole : Number.isWhole x) : HasType "integer" (.float x)
  | number (n : Int) : HasType "number" (.int n)
  | fraction (x : Float) : HasType "number" (.float x)
  | string (s : String) : HasType "string" (.str s)
  | array (items : List Value) : HasType "array" (.list items)
  | object (entries : Entries) : HasType "object" (.dict entries)

/-- A value is of the type that is named, or of one of those that are listed. -/
@[mk_iff]
inductive HasTypeIn : Value → Value → Prop
  | named {name : String} {value : Value} : HasType name value → HasTypeIn (.str name) value
  | listed {name : String} {names : List Value} {value : Value} :
      .str name ∈ names → HasType name value → HasTypeIn (.list names) value

/-- A number is less than a bound. -/
@[mk_iff]
inductive Below (bound : Int) : Value → Prop
  | int {n : Int} : n < bound → Below bound (.int n)
  | float {x : Float} : x < Float.ofInt bound → Below bound (.float x)

/-- A number is a bound or less. -/
@[mk_iff]
inductive AtMost (bound : Int) : Value → Prop
  | int {n : Int} : n ≤ bound → AtMost bound (.int n)
  | float {x : Float} : x ≤ Float.ofInt bound → AtMost bound (.float x)

/-- A value meets the keywords of a document that speak of the value itself. A bound says nothing of
a value that is no number. -/
@[mk_iff]
structure Meets (document value : Value) : Prop where
  type : ∀ types, document.field? "type" = some types → HasTypeIn types value
  minimum : ∀ bound, document.field? "minimum" = some (.int bound) → ¬ Below bound value
  exclusiveMinimum : ∀ bound,
    document.field? "exclusiveMinimum" = some (.int bound) → ¬ AtMost bound value
  enum : ∀ choices, document.field? "enum" = some (.list choices) →
    ∃ choice ∈ choices, value.same choice

/-- A schema in the form of a document accepts a value: the document is `true`, or the value meets
its keywords, and what the value holds is accepted by the property of that name, or by the document
for additional properties. The properties say nothing of a value that is no mapping. -/
inductive Accepts : Value → Value → Prop
  | anything (value : Value) : Accepts (.bool true) value
  | rules {rules : Entries} {value : Value} (own : Meets (.dict rules) value)
      (properties : ∀ known name inner held,
        (Value.dict rules).field? "properties" = some known → known.field? name = some inner →
        value.field? name = some held → Accepts inner held)
      (additionalProperties : ∀ inner entries entry,
        (Value.dict rules).field? "additionalProperties" = some inner →
        value = .dict entries → entry ∈ entries →
        (∀ known, (Value.dict rules).field? "properties" = some (.dict known) →
          Entries.get? known entry.1 = none) →
        Accepts inner entry.2) :
      Accepts (.dict rules) value

theorem not_accepts_false (value : Value) : ¬ Accepts (.bool false) value := nofun

/-! ### Settings -/

/-- A document that says nothing of properties accepts what meets its keywords. -/
theorem accepts_iff_meets {fields : List (String × Value)} {value : Value}
    (known : fields.lookup "properties" = none)
    (additional : fields.lookup "additionalProperties" = none) :
    Accepts (.ofFields fields) value ↔ Meets (.ofFields fields) value := by
  constructor
  · rw [Value.ofFields]
    rintro ⟨⟩
    assumption
  · intro own
    refine .rules own ?_ ?_
    · intro properties name inner held found
      rw [← Value.ofFields, Value.field?_ofFields, known] at found
      cases found
    · intro inner entries entry found
      rw [← Value.ofFields, Value.field?_ofFields, additional] at found
      cases found

theorem hasType_name {type : JsonType} {value : Value} :
    HasType type.name value ↔ type.holds value := by
  cases type <;> cases value <;> simp [JsonType.name, JsonType.holds, hasType_iff]

theorem hasTypeIn_typesDocument {types : List JsonType} {value : Value} :
    HasTypeIn (typesDocument types) value ↔ ∃ type ∈ types, type.holds value := by
  unfold typesDocument
  split
  · simp [hasTypeIn_iff, hasType_name]
  · rw [Value.ofStrings, List.map_map]
    constructor
    · rintro (_ | ⟨named, held⟩)
      obtain ⟨type, member, same⟩ := List.mem_map.mp named
      cases same
      exact ⟨type, member, hasType_name.mp held⟩
    · rintro ⟨type, member, holds⟩
      exact .listed (List.mem_map_of_mem member) (hasType_name.mpr holds)

theorem below_ofNat {bound : Nat} {value : Value} : Below bound value ↔ isBelow value bound := by
  cases value <;> simp [below_iff, isBelow]
  rfl

theorem atMost_ofNat {bound : Nat} {value : Value} : AtMost bound value ↔ isAtMost value bound := by
  cases value <;> simp [atMost_iff, isAtMost]
  rfl

theorem same_str_iff {value : Value} {s : String} : value.same (.str s) ↔ value = .str s := by
  cases value <;> simp [Value.same, Value.sameScalar, Value.whole?, Value.number?]

theorem isChoice_iff {choices : List String} {value : Value} :
    isChoice choices value ↔ ∃ choice ∈ choices, value.same (.str choice) := by
  simp only [same_str_iff]
  cases value <;> simp [isChoice]

/-- The rules of a setting are those of its document. -/
theorem accepts_setting {setting : Setting} {value : Value} (path : List String) :
    Accepts setting.document value ↔
      typeViolations path setting.types value ++ demandViolations path setting.demand value = [] := by
  have typed : typeViolations path setting.types value = [] ↔
      HasTypeIn (typesDocument setting.types) value := by
    simp [typeViolations, hasTypeIn_typesDocument]
  rw [List.append_eq_nil_iff, typed]
  obtain ⟨name, types, demand⟩ := setting
  cases demand with
  | none =>
      rw [Setting.document, accepts_iff_meets rfl rfl, meets_iff]
      simp [Demand.document, demandViolations, List.lookup_cons]
  | atLeast bound =>
      rw [Setting.document, accepts_iff_meets rfl rfl, meets_iff]
      simp [Demand.document, demandViolations, List.lookup_cons, below_ofNat]
  | above bound =>
      rw [Setting.document, accepts_iff_meets rfl rfl, meets_iff]
      simp [Demand.document, demandViolations, List.lookup_cons, atMost_ofNat]
  | oneOf choices =>
      rw [Setting.document, accepts_iff_meets rfl rfl, meets_iff]
      simp [Demand.document, demandViolations, List.lookup_cons, isChoice_iff, Value.ofStrings]

/-! ### Mappings -/

theorem hasTypeIn_object {value : Value} :
    HasTypeIn (.str "object") value ↔ ∃ entries, value = .dict entries := by
  simp [hasTypeIn_iff, hasType_iff]

/-- The document of a mapping, whose properties are made of items with different names, accepts the
mappings in which each item's property accepts what is held under its name. Unless others may stand
beside them, the keys are names of items. -/
theorem accepts_object {α : Type} {fields : List (String × Value)} {items : List α}
    {name : α → String} {made : α → Value} {value : Value} {open? : Bool}
    (distinct : (items.map name).Nodup)
    (type : fields.lookup "type" = some (.str "object"))
    (minimum : fields.lookup "minimum" = none)
    (exclusiveMinimum : fields.lookup "exclusiveMinimum" = none)
    (enum : fields.lookup "enum" = none)
    (properties : fields.lookup "properties" =
      some (.ofFields (items.map fun item => (name item, made item))))
    (additional : fields.lookup "additionalProperties" = some (.bool open?)) :
    Accepts (.ofFields fields) value ↔
      ∃ entries : Entries, value = .dict entries ∧
        (∀ item ∈ items, ∀ held, entries.get? (.str (name item)) = some held →
          Accepts (made item) held) ∧
        (open? ∨ ∀ entry ∈ entries, ∃ item ∈ items, entry.1 = .str (name item)) := by
  have read := Value.field?_ofFields fields
  have found := @Entries.lookup_map_eq_some_iff _ _ _ _ made distinct
  constructor
  · intro accepted
    rw [Value.ofFields] at accepted
    cases accepted with
    | rules own known others =>
        obtain ⟨entries, rfl⟩ := hasTypeIn_object.mp (own.type _ ((read _).trans type))
        refine ⟨entries, rfl, fun item member held => known _ _ _ held
          ((read _).trans properties) ?_, ?_⟩
        · exact (Value.field?_ofFields _ _).trans (found.mpr ⟨item, member, rfl, rfl⟩)
        refine or_iff_not_imp_left.mpr fun closed entry member => ?_
        rw [Bool.not_eq_true] at closed
        subst closed
        by_contra stranger
        refine not_accepts_false entry.2
          (others _ entries entry ((read _).trans additional) rfl member fun _ same => ?_)
        cases ((read _).trans properties).symm.trans same
        refine Entries.get?_ofFields_eq_none fun name text => ?_
        rw [Option.eq_none_iff_forall_ne_some]
        intro inner there
        obtain ⟨item, member, rfl, -⟩ := found.mp there
        exact stranger ⟨item, member, text⟩
  · rintro ⟨entries, rfl, known, others⟩
    have own : Meets (.ofFields fields) (.dict entries) := by
      rw [meets_iff]
      simp [type, minimum, exclusiveMinimum, enum, hasTypeIn_object]
    refine .rules own ?_ ?_
    · intro _ name inner held same there
      cases ((read _).trans properties).symm.trans same
      rw [Value.field?_ofFields] at there
      obtain ⟨item, member, rfl, rfl⟩ := found.mp there
      exact known item member held
    · intro inner _ entry same whole member absent
      cases ((read _).trans additional).symm.trans same
      cases whole
      rcases others with rfl | others
      · exact .anything _
      · obtain ⟨item, known, text⟩ := others entry member
        have missing := absent _ ((read _).trans properties)
        rw [text] at missing
        cases missing.symm.trans
          ((Entries.get?_ofFields _ _).trans (found.mpr ⟨item, known, rfl, rfl⟩))

/-- The document of a section accepts the mappings with settings that are accepted, and with nothing
else. -/
theorem accepts_section {part : Section} {value : Value}
    (distinct : (part.settings.map Setting.name).Nodup) :
    Accepts part.document value ↔
      ∃ entries : Entries, value = .dict entries ∧
        (∀ setting ∈ part.settings, ∀ held, entries.get? (.str setting.name) = some held →
          Accepts setting.document held) ∧
        ∀ entry ∈ entries, ∃ setting ∈ part.settings, entry.1 = .str setting.name := by
  rw [Section.document, accepts_object distinct rfl rfl rfl rfl rfl rfl]
  simp only [Bool.false_eq_true, false_or]

theorem distinct_sections : (schema.map Section.name).Nodup := by decide

theorem distinct_settings : ∀ part ∈ schema, (part.settings.map Setting.name).Nodup := by decide

/-- The document of the schema accepts the mappings with sections that are accepted. -/
theorem accepts_schemaDocument {value : Value} :
    Accepts (.dict schemaDocument) value ↔
      ∃ config : Entries, value = .dict config ∧
        ∀ part ∈ schema, ∀ held, config.get? (.str part.name) = some held →
          Accepts part.document held := by
  have fields : Value.dict schemaDocument = .ofFields
      (("$schema", .str "https://json-schema.org/draft/2020-12/schema") ::
        ("title", .str "viewcompose configuration") ::
        objectDocument (schema.map fun part => (part.name, part.document)) true) := rfl
  rw [fields, accepts_object distinct_sections rfl rfl rfl rfl rfl rfl]
  simp only [true_or, and_true]

/-! ### The check -/

theorem mergeSort_eq_nil_iff {α : Type} {xs : List α} {le : α → α → Bool} :
    xs.mergeSort le = [] ↔ xs = [] := by
  rw [← List.perm_nil, ← List.perm_nil]
  exact ⟨(xs.mergeSort_perm le).symm.trans, (xs.mergeSort_perm le).trans⟩

theorem Setting.violations_eq_nil_iff {setting : Setting} {sectionName : String}
    {entries : Entries} :
    setting.violations sectionName entries = [] ↔
      ∀ held, entries.get? (.str setting.name) = some held → Accepts setting.document held := by
  rw [Setting.violations]
  cases entries.get? (.str setting.name) with
  | none => simp
  | some value => simpa using (accepts_setting [sectionName, setting.name]).symm

/-- A section has no strangers if each of its keys is the name of a setting. -/
theorem Section.strangerViolations_eq_nil_iff {part : Section} {entries : Entries} :
    part.strangerViolations entries = [] ↔
      ∀ entry ∈ entries, ∃ setting ∈ part.settings, entry.1 = .str setting.name := by
  have none : part.strangerViolations entries = [] ↔ part.strangers entries = [] := by
    rw [Section.strangerViolations]
    cases part.strangers entries <;> simp
  rw [none, Section.strangers, mergeSort_eq_nil_iff, List.filter_eq_nil_iff, List.forall_mem_map]
  refine forall₂_congr fun entry member => ?_
  cases entry.1 with
  | str name => simp [@eq_comm _ name]
  | _ => simp

theorem Section.violations_eq_nil_iff {part : Section}
    (distinct : (part.settings.map Setting.name).Nodup) {config : Entries} :
    part.violations config = [] ↔
      ∀ held, config.get? (.str part.name) = some held → Accepts part.document held := by
  rw [Section.violations]
  cases config.get? (.str part.name) with
  | none => simp
  | some held =>
      simp only [Option.some.injEq, forall_eq']
      rw [accepts_section distinct]
      cases held with
      | dict entries =>
          simp [Setting.violations_eq_nil_iff, strangerViolations_eq_nil_iff]
      | _ => simp [typeViolations, JsonType.holds]

/-- The check passes exactly what the document of the schema accepts. -/
theorem validate_eq_ok_iff {value : Value} :
    validate value = .ok () ↔ Accepts (.dict schemaDocument) value := by
  have passed : validate value = .ok () ↔ violations value = [] := by
    rw [validate, check]
    cases violations value with
    | nil => simp
    | cons v vs =>
        refine iff_of_false ?_ (List.cons_ne_nil v vs)
        cases (v :: vs).all (·.writable) <;> simp
  rw [passed, accepts_schemaDocument]
  cases value with
  | dict config =>
      rw [violations, mergeSort_eq_nil_iff, List.flatMap_eq_nil_iff]
      simp only [Value.dict.injEq, exists_eq_left']
      exact forall₂_congr fun part member =>
        Section.violations_eq_nil_iff (distinct_settings part member)
  | _ => simp [violations, typeViolations, JsonType.holds]

/-- A setting of a configuration that is accepted has a value that is accepted. -/
theorem Accepts.setting {config : Entries} (accepted : Accepts (.dict schemaDocument) (.dict config))
    {part : Section} (member : part ∈ schema) {setting : Setting} (known : setting ∈ part.settings)
    {held : Value} (found : setting? config part.name setting.name = some held) :
    Accepts setting.document held := by
  obtain ⟨_, ⟨⟩, sections⟩ := accepts_schemaDocument.mp accepted
  rw [setting?, sectionOf] at found
  cases entry : config.get? (.str part.name) with
  | none =>
      rw [entry] at found
      cases found
  | some value =>
      obtain ⟨entries, rfl, settings, -⟩ :=
        (accepts_section (distinct_settings part member)).mp (sections part member value entry)
      rw [entry] at found
      exact settings setting known held found

end TagWeave.Config
