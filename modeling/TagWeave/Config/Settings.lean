import TagWeave.Error
import TagWeave.Files.Path
import TagWeave.Text.Case
import TagWeave.Value.Convert

/-!
# Settings

The settings that a configuration gives, as values of their types. A section that is
missing, or that is no mapping, gives the settings their defaults.
-/

namespace TagWeave.Config

/-- The section of a name. -/
def sectionOf (config : Entries) (name : String) : Entries :=
  ((config.get? (.str name)).bind Value.entries?).getD []

/-- A setting of a section. -/
def setting? (config : Entries) (sectionName name : String) : Option Value :=
  (sectionOf config sectionName).get? (.str name)

/-- The fraction that a setting gives, unless it is missing or nothing. -/
def fractionSetting (config : Entries) (sectionName name : String) : Except Fault (Option Float) :=
  match setting? config sectionName name with
  | none | some .null => .ok none
  | some value => value.toFraction.map some

/-- How many passes a render may take. -/
def maxPasses (config : Entries) : Except Fault Int :=
  ((setting? config "rendering" "max_passes").getD (.int 32)).toInteger

/-- How many tags are resolved at once. -/
def maxWorkers (config : Entries) : Except Fault Int :=
  ((setting? config "rendering" "max_workers").getD (.int 1)).toInteger

/-- The name of the interpolator. -/
def interpolatorName (config : Entries) : String :=
  ((setting? config "rendering" "interpolator").getD (.str "mustache")).text

/-- How many seconds a render may take. -/
def timeout (config : Entries) : Except Fault (Option Float) :=
  fractionSetting config "rendering" "timeout_seconds"

/-- Whether content is cached. -/
def cacheEnabled (config : Entries) : Bool :=
  ((setting? config "cache" "enabled").getD (.bool true)).truthy

/-- How many seconds cached content lives; for ever, if nothing is set. -/
def cacheLifetime (config : Entries) : Except Fault (Option Float) :=
  fractionSetting config "cache" "ttl_seconds"

/-- The name of the level from which on log records are written. -/
def logLevel (config : Entries) : String :=
  Text.upper ((setting? config "logging" "level").getD (.str "WARNING")).text

/-- The file that log records are written to. -/
def logPath (config : Entries) : Except Fault (Option String) :=
  match (setting? config "logging" "path").filter fun (value : Value) => value.truthy with
  | none => .ok none
  | some (.str path) => .ok (some (Path.written path))
  | some value => .error (.type (.notPath value.typeName))

end TagWeave.Config
