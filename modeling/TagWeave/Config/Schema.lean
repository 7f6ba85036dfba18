import TagWeave.Error
import TagWeave.Text.Order

/-!
# The schema of configurations

A configuration is a mapping with sections. A section is a mapping that holds nothing
but its settings, each of them optional and with a rule about its type and its value.
Other sections may hold anything.

All violations of the rules are told, in the order of their places.
-/

namespace TagWeave.Config

open TagWeave.Text

/-- The types that a rule speaks of. Truth values are no numbers, and a whole fraction is an
integer. -/
inductive JsonType where
  | null
  | boolean
  | integer
  | number
  | string
  | object
  deriving DecidableEq, Repr

namespace JsonType

/-- The name of a type. -/
def name : JsonType → String
  | null => "null"
  | boolean => "boolean"
  | integer => "integer"
  | number => "number"
  | string => "string"
  | object => "object"

/-- Whether a value is of a type. -/
def holds : JsonType → Value → Bool
  | null, .null => true
  | boolean, .bool _ => true
  | integer, .int _ => true
  | integer, .float x => Number.isWhole x
  | number, .int _ => true
  | number, .float _ => true
  | string, .str _ => true
  | object, .dict _ => true
  | _, _ => false

end JsonType

/-- What a rule demands of a setting beside its type. -/
inductive Demand where
  | none
  | atLeast (bound : Nat)
  | above (bound : Nat)
  | oneOf (choices : List String)
  deriving DecidableEq, Repr

/-- A setting of a section: its name, the types that it may have, and what else is demanded. -/
structure Setting where
  name : String
  types : List JsonType
  demand : Demand := .none
  deriving DecidableEq, Repr

/-- A section and its settings. -/
structure Section where
  name : String
  settings : List Setting
  deriving DecidableEq, Repr

/-- The sections of a configuration. -/
def schema : List Section :=
  [⟨"rendering",
    [⟨"max_passes", [.integer], .atLeast 1⟩, ⟨"max_workers", [.integer], .atLeast 1⟩,
      ⟨"interpolator", [.string], .oneOf ["mustache", "jinja2"]⟩,
      ⟨"timeout_seconds", [.number, .null], .above 0⟩]⟩,
    ⟨"cache", [⟨"enabled", [.boolean], .none⟩, ⟨"ttl_seconds", [.number, .null], .atLeast 0⟩]⟩,
    ⟨"logging",
      [⟨"level", [.string], .oneOf ["DEBUG", "INFO", "WARNING", "ERROR", "CRITICAL"]⟩,
        ⟨"path", [.string, .null], .none⟩]⟩]

/-- A violation of a rule: the keys that lead to its place, what is wrong there, and whether this can
be written, with all integers that it shows. -/
structure Violation where
  path : List String
  message : String
  writable : Bool
  deriving DecidableEq, Repr

/-- The violation of the rule about types, if there is one. -/
def typeViolations (path : List String) (types : List JsonType) (value : Value) : List Violation :=
  if types.any (·.holds value) then []
  else
    [⟨path, value.shown ++ " is not of type " ++
      join ", " (types.map fun type => quoted type.name), value.isWritable⟩]

/-- Whether a number is less than a bound. -/
def isBelow (value : Value) (bound : Nat) : Bool :=
  match value with
  | .int n => decide (n < bound)
  | .float x => decide (x < Float.ofNat bound)
  | _ => false

/-- Whether a number is a bound or less. -/
def isAtMost (value : Value) (bound : Nat) : Bool :=
  match value with
  | .int n => decide (n ≤ bound)
  | .float x => decide (x ≤ Float.ofNat bound)
  | _ => false

/-- Whether a value is one of some texts. -/
def isChoice (choices : List String) : Value → Bool
  | .str s => choices.contains s
  | _ => false

/-- The violation of what is demanded beside the type, if there is one. -/
def demandViolations (path : List String) (demand : Demand) (value : Value) : List Violation :=
  match demand with
  | .none => []
  | .atLeast bound =>
    if isBelow value bound then
      [⟨path, value.shown ++ " is less than the minimum of " ++ toString bound, value.isWritable⟩]
    else []
  | .above bound =>
    if isAtMost value bound then
      [⟨path, value.shown ++ " is less than or equal to the minimum of " ++ toString bound,
        value.isWritable⟩]
    else []
  | .oneOf choices =>
    if isChoice choices value then []
    else
      [⟨path, value.shown ++ " is not one of " ++ (Value.ofStrings choices).shown,
        value.isWritable⟩]

/-- The violations in a setting of a section. -/
def Setting.violations (setting : Setting) (sectionName : String) (entries : Entries) :
    List Violation :=
  match entries.get? (.str setting.name) with
  | none => []
  | some value =>
    let path := [sectionName, setting.name]
    typeViolations path setting.types value ++ demandViolations path setting.demand value

/-- The keys of a mapping that are no settings of a section, in the order of their texts. -/
def Section.strangers (part : Section) (entries : Entries) : List Key :=
  let strangers := (entries.map (·.1)).filter fun key =>
    match key with
    | .str name => !(part.settings.any (·.name = name))
    | _ => true
  strangers.mergeSort fun a b => atMost a.value.text b.value.text

/-- The violation by keys that are no settings, if there are any. -/
def Section.strangerViolations (part : Section) (entries : Entries) : List Violation :=
  match part.strangers entries with
  | [] => []
  | keys =>
    [⟨[part.name], "Additional properties are not allowed (" ++ join ", " (keys.map Key.shown) ++
      (if keys.length = 1 then " was" else " were") ++ " unexpected)", keys.all Key.isWritable⟩]

/-- The violations in a section. -/
def Section.violations (part : Section) (config : Entries) : List Violation :=
  match config.get? (.str part.name) with
  | none => []
  | some (.dict entries) =>
    part.settings.flatMap (·.violations part.name entries) ++ part.strangerViolations entries
  | some value => typeViolations [part.name] [.object] value

/-- Whether one place comes before another or is the same. -/
def pathAtMost : List String → List String → Bool
  | [], _ => true
  | _ :: _, [] => false
  | a :: as, b :: bs => if a = b then pathAtMost as bs else atMost a b

/-- The violations in a value that is to be a configuration, in the order of their places. -/
def violations (value : Value) : List Violation :=
  match value with
  | .dict config =>
    (schema.flatMap (·.violations config)).mergeSort fun a b => pathAtMost a.path b.path
  | value => typeViolations [] [.object] value

/-- A violation with its place. -/
def Violation.text (v : Violation) : String :=
  (if v.path.isEmpty then "<root>" else join "." v.path) ++ ": " ++ v.message

/-- A check of a value: the violations in it, unless the check cannot be made or told of. -/
abbrev Check := Value → Except Fault (List Violation)

/-- The check by the schema. -/
def check : Check := fun value =>
  let vs := violations value
  if vs.all (·.writable) then .ok vs else .error .longInteger

/-- Fails if a value does not pass a check. A check that fails is a fault of its own. -/
def validate (value : Value) (check : Check := check) : Outcome Unit :=
  match check value with
  | .error f => .error (.fault f)
  | .ok [] => .ok ()
  | .ok vs => .error (.config (.invalid (vs.map Violation.text)))

end TagWeave.Config
