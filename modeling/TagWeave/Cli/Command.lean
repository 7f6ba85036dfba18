import TagWeave.Cli.Grammar

/-!
# Commands

There are two commands: one lists the tags of a template, the other renders one. Words
before the command are options of the program itself.
-/

namespace TagWeave.Cli

/-- The option that shows how to use the program. -/
def helpFlag : Flag := ⟨["-h", "--help"], .help⟩

/-- The options of the program itself. -/
def programFlags : List Flag := [helpFlag, ⟨["--version"], .version⟩]

/-- The levels that the log can be set to. -/
def levelChoices : List String := ["DEBUG", "INFO", "WARNING", "ERROR", "CRITICAL"]

/-- Whether a text is an integer. -/
def isInteger (text : String) : Bool :=
  match Number.readInt text with
  | .ok _ => true
  | .error _ => false

/-- The options of both commands. -/
def commonFlags : List Flag :=
  [helpFlag, ⟨["--tag"], .value fun _ => true⟩, ⟨["--log-level"], .value levelChoices.contains⟩,
    ⟨["--json"], .flag⟩]

/-- The commands. -/
inductive Command where
  | parse
  | render
  deriving DecidableEq, Repr

namespace Command

/-- The command of a name. -/
def ofName? (name : String) : Option Command :=
  if name = "parse" then some parse else if name = "render" then some render else none

/-- The options of a command. -/
def flags : Command → List Flag
  | parse => commonFlags
  | render =>
    commonFlags ++
      (["--context", "--fragments", "--attribute", "--layout", "--config"].map fun name =>
        ⟨[name], .value fun _ => true⟩) ++
      [⟨["--max-passes"], .value isInteger⟩]

end Command

/-- What a command line asks for. -/
inductive Request where
  | nothing
  | command (command : Command) (reading : Reading)

namespace Request

/-- Takes the words of a command line into effect, given what they are. The words behind the command
are the command's. -/
def ofKinds (strays : Bool) : List Word → List String → Except Interruption Request
  | .option none _ _ :: kinds, _ :: words => ofKinds true kinds words
  | .option (some flag) name (some value) :: kinds, _ :: words => do
    let _ ← Reading.takeCluster programFlags {} flag name value.toList
    ofKinds strays kinds words
  | .option (some flag) _ none :: kinds, _ :: words => do
    let _ ← Reading.takeFlag {} flag
    ofKinds strays kinds words
  | .operand name :: _, _ :: words =>
    match Command.ofName? name with
    | none => .error .misuse
    | some chosen => do
      let reading ← Reading.ofWords chosen.flags words
      if strays || reading.strays then throw .misuse
      return .command chosen reading
  | [], _ => if strays then .error .misuse else .ok .nothing
  | _, _ => .error .misuse

/-- What a command line asks for. -/
def ofWords (words : List String) : Except Interruption Request := do
  ofKinds false (← classifyAll programFlags words) words

end Request

/-- How to use the program. -/
def usage : String :=
  "usage: viewcompose [-h] [--version] <command> ...\n\n" ++
  "viewcompose - recursive view tag composition for templates\n\n" ++
  "commands:\n" ++
  "  parse   List the distinct view tags found in a template\n" ++
  "  render  Render a template and expand its view tags from a fragments directory\n\n" ++
  "options of both commands:\n" ++
  "  --tag NAME         View tag name to expand (repeatable, default: block)\n" ++
  "  --log-level LEVEL  Override logging.level\n" ++
  "  --json             Output as JSON\n\n" ++
  "options of render:\n" ++
  "  --context FILE     YAML file of bindings (repeatable; later files take precedence)\n" ++
  "  --fragments DIR    Directory of stored fragments; view tags stay untouched without it\n" ++
  "  --attribute NAME   Attribute selecting the fragment file (default: name)\n" ++
  "  --layout FILE      Layout template; the rendered template is bound as content\n" ++
  "  --max-passes N     Override rendering.max_passes\n" ++
  "  --config FILE      Project configuration file (YAML) merged over the defaults\n"

end TagWeave.Cli
