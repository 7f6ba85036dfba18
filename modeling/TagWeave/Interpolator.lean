import TagWeave.Files.Tree
import TagWeave.Jinja.Render
import TagWeave.Mustache.Render
import TagWeave.Text.Order

/-!
# Interpolators

An interpolator fills in the placeholders of a template from a list of bindings, of
which later ones take precedence. There are two, for two template languages, known by
their names in any case. Each of them hands the template to an engine, and turns what the
engine fails with into an error of the library, as far as it does.
-/

namespace TagWeave

/-- What mustache templates are rendered with: the application's lambdas, and the files next to the
current directory that bear an included template's name. A file that cannot be opened counts as
empty. -/
def Mustache.Host.ofFiles (lambda? : String → Option (String → Mustache.Script)) (files : FileTree)
    (depth : Nat := 299) : Mustache.Host where
  lambda? := lambda?
  depth := depth
  included key :=
    match files.readText (Path.below "." (key ++ ".mustache")) with
    | .error (.file _ _) => .ok ""
    | outcome => outcome

/-- The engines of the two template languages. -/
structure Engines where
  mustache : Mustache.Engine
  jinja : Jinja.Engine

/-- The library's own engines. -/
def Engines.own : Engines := ⟨Mustache.render, Jinja.engine⟩

/-- An interpolator with its options. -/
inductive Interpolator where
  | mustache (warn : Bool)
  | jinja (options : Jinja.Options)
  deriving DecidableEq, Repr

namespace Interpolator

/-- The name of an interpolator. -/
def name : Interpolator → String
  | mustache _ => "mustache"
  | jinja _ => "jinja2"

/-- The setting of an option that an interpolator knows. -/
def setOption (interpolator : Interpolator) (option : String) (value : Bool) :
    Except Error Interpolator :=
  match interpolator, option with
  | mustache _, "warn" => .ok (mustache value)
  | mustache _, option => .error (.fault (.type (.badOption "MustacheInterpolator" option)))
  | jinja options, "strict" => .ok (jinja { options with strict := value })
  | jinja options, "autoescape" => .ok (jinja { options with autoescape := value })
  | jinja _, option => .error (.fault (.type (.badOption "JinjaInterpolator" option)))

/-- Sets options one after the other. -/
def setOptions (interpolator : Interpolator) : List (String × Bool) → Except Error Interpolator
  | [] => .ok interpolator
  | (option, value) :: rest =>
    match interpolator.setOption option value with
    | .ok interpolator => setOptions interpolator rest
    | .error e => .error e

/-- The interpolator of a name, with some options set. -/
def ofName (name : String) (options : List (String × Bool) := []) : Except Error Interpolator :=
  match Text.lower name with
  | "mustache" => (mustache false).setOptions options
  | "jinja2" => (jinja {}).setOptions options
  | _ => .error (.config (.unknownInterpolator name))

/-- What a mustache template that cannot be interpolated fails with. A request of a lambda to end the
program passes through, and so does what asking for the wording of the cause fails with. -/
def mustacheError : InterpolationFault → Error
  | .mustacheFailed cause =>
    if cause.isExit then .fault cause
    else
      match cause.told with
      | .ok _ => .interpolation (.mustacheFailed cause)
      | .error failure => .fault failure
  | f => .interpolation f

/-- Interpolates a template by one of two engines. The memory is that of earlier interpolations. -/
def interpolateWith (engines : Engines) (interpolator : Interpolator) (host : Mustache.Host)
    (template : String) (bindings : List Value) (memory : Mustache.Memory) :
    Except Error String × Mustache.Memory :=
  match interpolator with
  | mustache _ =>
    match (Mustache.interpolateWith engines.mustache host template bindings).run.run memory with
    | (.ok s, memory) => (.ok s, memory)
    | (.error f, memory) => (.error (mustacheError f), memory)
  | jinja options => (Jinja.interpolateWith engines.jinja options template bindings, memory)

/-- Interpolates a template by the library's own engines. -/
def interpolate (interpolator : Interpolator) (host : Mustache.Host) (template : String)
    (bindings : List Value) (memory : Mustache.Memory) : Except Error String × Mustache.Memory :=
  interpolateWith .own interpolator host template bindings memory

theorem interpolate_mustache (warn : Bool) (host : Mustache.Host) (template : String)
    (bindings : List Value) (memory : Mustache.Memory) :
    (mustache warn).interpolate host template bindings memory =
      match (Mustache.interpolate host template bindings).run.run memory with
      | (.ok s, memory) => (.ok s, memory)
      | (.error f, memory) => (.error (mustacheError f), memory) := rfl

theorem interpolate_jinja (options : Jinja.Options) (host : Mustache.Host) (template : String)
    (bindings : List Value) (memory : Mustache.Memory) :
    (jinja options).interpolate host template bindings memory =
      (Jinja.interpolateWith Jinja.engine options template bindings, memory) := rfl

/-- The warnings that an interpolation has left in the memory, a line for each key that was not
found. -/
def warnings (interpolator : Interpolator) (memory : Mustache.Memory) : String :=
  match interpolator with
  | mustache true =>
    String.join (memory.notFound.map fun key => "Could not find key '" ++ key ++ "'\n")
  | _ => ""

end Interpolator

end TagWeave
