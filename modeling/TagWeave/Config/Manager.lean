import TagWeave.Config.Environment
import TagWeave.Config.Schema
import TagWeave.Files.Tree
import TagWeave.Log
import TagWeave.Yaml.Document

/-!
# Loading configurations

A configuration is made of the defaults, of a project's file, which is laid over them,
and of overrides from the environment. What is overridden in a mapping that the file refers
to in several places is overridden in all of them. A manager keeps the configuration that it has
loaded and gives it again, also where it was loaded without being checked.
-/

namespace TagWeave.Config

open TagWeave.Text

/-- The configuration that applies where nothing is set. -/
def defaults : Entries :=
  [(.str "rendering", Value.ofFields
      [("max_passes", .int 32), ("max_workers", .int 1), ("interpolator", .str "mustache"),
        ("timeout_seconds", .null)]),
    (.str "cache", Value.ofFields [("enabled", .bool true), ("ttl_seconds", .int 300)]),
    (.str "logging", Value.ofFields [("level", .str "WARNING")])]

/-- What a load makes use of: a reader of YAML and one of JSON, what the copying of a configuration
fails with, if so, and a check. -/
structure Tools where
  yaml : Yaml.Loader
  json : Json.Reader
  copyFault? : LinkedEntries → Option Fault
  check : Check

/-- The library's own tools, which copy what there is. -/
def Tools.own : Tools := ⟨Yaml.readLinked, Json.reader, fun _ => none, Config.check⟩

/-- Reads the mapping in a YAML file. An empty file is an empty mapping. -/
def readFile (files : FileTree) (path : String) (yaml : Yaml.Loader := Yaml.readLinked) :
    Outcome LinkedEntries :=
  match files.pathExists path with
  | .error f => .error (.fault f)
  | .ok false => .error (.config (.noFile path))
  | .ok true =>
    match files.readText path with
    | .error f => .error (.fault f)
    | .ok text =>
      match yaml text with
      | .error (.text f) => .error (.config (.badYaml path f))
      | .error (.other f) => .error (.fault f)
      | .ok (.single .null) => .ok []
      | .ok (.dict _ entries) => .ok entries
      | .ok _ => .error (.config (.notMapping path))

/-- The defaults with a project's file laid over them. -/
def merged (files : FileTree) (file? : Option String) (yaml : Yaml.Loader := Yaml.readLinked) :
    Outcome LinkedEntries :=
  let base := Linked.ofEntries defaults
  match file? with
  | none => .ok base
  | some path => (readFile files path yaml).map (Linked.merge base)

/-- A copy of the configuration that the overrides are laid over. -/
def layered (files : FileTree) (file? : Option String) (tools : Tools := .own) :
    Outcome LinkedEntries :=
  match merged files file? tools.yaml with
  | .error e => .error e
  | .ok config =>
    match tools.copyFault? config with
    | some f => .error (.fault f)
    | none => .ok config

/-- The records of the overrides that are applied one after the other, up to the first that fails. -/
def overrideNotes (config : LinkedEntries) (named : List (String × String))
    (json : Json.Reader := Json.reader) : List Log.Record :=
  match named with
  | [] => []
  | (name, text) :: rest =>
    match applyOverride Linked.setAt config name text json, pathOf name with
    | .ok config, .ok path =>
      ⟨Log.debug, .configuration, "config override " ++ join "." path ++ " from environment"⟩ ::
        overrideNotes config rest json
    | _, _ => []

/-- A manager: the project's file, and the configuration that it keeps. -/
structure Manager where
  file? : Option String
  kept? : Option Entries := none

namespace Manager

/-- A manager for the file at a path; an empty path is none. -/
def ofPath (path : String) : Manager :=
  { file? := if path.isEmpty then none else some (Path.written path) }

/-- Loads the configuration from its sources, and tells of the overrides. -/
def read (manager : Manager) (files : FileTree) (environment : Environment) (checked : Bool)
    (tools : Tools := .own) : Outcome Entries × List Log.Record :=
  match layered files manager.file? tools with
  | .error e => (.error e, [])
  | .ok config =>
    let overrides := overridesOf environment
    let notes := overrideNotes config overrides tools.json
    match applyOverrides Linked.setAt config overrides tools.json with
    | (_, some e) => (.error e, notes)
    | (laid, none) =>
      let config := Linked.entryValues laid
      if checked then
        match validate (.dict config) tools.check with
        | .error e => (.error e, notes)
        | .ok () => (.ok config, notes)
      else (.ok config, notes)

/-- Gives the configuration that is kept, or loads one and keeps it. -/
def load (manager : Manager) (files : FileTree) (environment : Environment) (checked : Bool := true)
    (reload : Bool := false) (tools : Tools := .own) : Outcome Entries × Manager × List Log.Record :=
  match manager.kept? with
  | some config => if reload then fresh else (.ok config, manager, [])
  | none => fresh
where
  /-- Loads a configuration and keeps it, if there is one. -/
  fresh : Outcome Entries × Manager × List Log.Record :=
    match manager.read files environment checked tools with
    | (.ok config, notes) => (.ok config, { manager with kept? := some config }, notes)
    | (.error e, notes) => (.error e, manager, notes)

end Manager

/-- The value at some keys, one inside the other. -/
def valueAt? (value : Value) : List String → Option Value
  | [] => some value
  | key :: keys => (value.field? key).bind (valueAt? · keys)

/-- The value at keys that are separated by points. -/
def lookup? (config : Entries) (keys : String) : Option Value :=
  valueAt? (.dict config) ((pieces '.' keys.toList).map String.ofList)

/-- Gives the value at keys of the configuration that is kept, or of one that is loaded and checked.
Where there is none, the default is given. -/
def Manager.get (manager : Manager) (files : FileTree) (environment : Environment) (keys : String)
    (default : Value := .null) : Outcome Value × Manager × List Log.Record :=
  match manager.load files environment with
  | (answer, manager, notes) =>
    (answer.map fun config => (lookup? config keys).getD default, manager, notes)

end TagWeave.Config
