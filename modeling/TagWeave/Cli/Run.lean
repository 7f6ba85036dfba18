import TagWeave.Cli.Command
import TagWeave.ErrorRecord
import TagWeave.Log.Setup
import TagWeave.Render.Build

/-!
# Running the program

What a command line does, as a function of the files, of the environment, and of the
time stamp that log records bear. The program's own errors, and those about a value, are
told on standard error and end it with code 1; other errors end it as they are.
-/

namespace TagWeave.Cli

/-- How the program ends: a command returns a code, the reading of the command line exits with one,
or an error is left unhandled. -/
inductive Ending where
  | returned (code : Nat)
  | exited (code : Nat)
  | failed (error : Error)
  deriving Repr

/-- What the program leaves: what it prints, given the milliseconds that it took, its errors, the
files and its end. -/
structure Output where
  stdout : Float → String := fun _ => ""
  stderr : String := ""
  files : FileTree
  ending : Ending := .returned 0

/-- Whether an error is told to the user. -/
def isTold (e : Error) : Bool :=
  match e with
  | .fault f => f.isValueFault
  | _ => true

/-- What is left after an error. -/
def Output.ofError (json : Bool) (stderr : String) (files : FileTree) (e : Error) : Output :=
  if isTold e then
    { files, stderr := stderr ++ (ErrorRecord.ofError e).print json none, ending := .returned 1 }
  else { files, stderr, ending := .failed e }

/-- Reads a file that the command line names. -/
def readNamed (files : FileTree) (what path : String) : Outcome String :=
  match files.readText (Path.written path) with
  | .ok text => .ok text
  | .error (.file f at') => .error (.config (.unreadable what path (.file f at')))
  | .error f => .error (.fault f)

/-- Reads a file of bindings. -/
def readBindings (files : FileTree) (path : String) : Outcome Value := do
  let text ← readNamed files "context file" path
  match Yaml.read text with
  | .error (.text f) => throw (.config (.badContextYaml path f))
  | .error (.other f) => throw (.fault f)
  | .ok .null => return .dict []
  | .ok (.dict entries) => return .dict entries
  | .ok _ => throw (.config (.contextNotMapping path))

/-- The tag names that the command line gives. -/
def tagNames (reading : Reading) : List String :=
  match reading.values "--tag" with
  | [] => ["block"]
  | names => names

/-! ### Listing tags -/

/-- What is listed of a tag in a document. -/
def tagDocument (tag : ViewTag) : Value :=
  Value.ofFields
    [("tag", .str tag.name), ("fingerprint", .str tag.fingerprint),
      ("attributes", .list (tag.attributes.map fun a => Value.ofStrings [a.key, a.value])),
      ("content", .str tag.content), ("needles", Value.ofStrings tag.needles)]

/-- What is listed of a tag in a line. -/
def tagLine (tag : ViewTag) : String :=
  String.ofList (tag.fingerprint.toList.take 12) ++ "  x" ++ toString tag.needles.length ++ "  " ++
    tag.exampleNeedle ++ "\n"

/-- The tags of the template that the command line names. -/
def listedTags (reading : Reading) (files : FileTree) : Outcome (List ViewTag) := do
  let template ← readNamed files "template" (reading.operand?.getD "")
  let finder ← Finder.ofNames (tagNames reading)
  finder.find template

/-- Lists the tags of a template. -/
def runParse (reading : Reading) (files : FileTree) : Output :=
  let json := reading.has "--json"
  match listedTags reading files with
  | .error e => .ofError json "" files e
  | .ok tags =>
    let text :=
      if json then
        Json.page (Value.ofFields
          [("status", .str "success"), ("tags", .list (tags.map tagDocument))]) ++ "\n"
      else String.join (tags.map tagLine)
    { files, stdout := fun _ => text }

/-! ### Rendering -/

/-- The world of a rendering: nothing of it is the application's. -/
abbrev RenderWorld := World Float Unit

/-- A path that is given and not empty. -/
def givenPath? (reading : Reading) (name : String) : Option String :=
  (reading.value? name).filter fun (path : String) => !path.isEmpty

/-- The configuration with the limit that the command line gives. -/
def limited (reading : Reading) (config : Entries) : Entries :=
  match (reading.value? "--max-passes").map Number.readInt with
  | some (.ok n) =>
    let part := Config.sectionOf config "rendering"
    config.insert (.str "rendering") (.dict (part.insert (.str "max_passes") (.int n)))
  | _ => config

/-- The retrievers that the command line asks for: all tags are looked for among the fragments. -/
def fragmentRetrievers (reading : Reading) : List (String × Retriever Float Unit) :=
  match givenPath? reading "--fragments" with
  | none => []
  | some directory =>
    let store : FragmentStore :=
      { directory, attributeKey := (reading.value? "--attribute").getD "name" }
    (Text.distinct (tagNames reading)).map fun name => (name, .stored store)

/-- Renders the template that the command line names. The report is left out with a layout. -/
def renderNamed (reading : Reading) (config : Entries) :
    ExceptT Error (StateM RenderWorld) (String × Option Report) := do
  let onWorld {α : Type} (run : RenderWorld → Outcome α × RenderWorld) :
      ExceptT Error (StateM RenderWorld) α := ExceptT.mk fun world => run world
  let config := limited reading config
  let renderer ← onWorld (Renderer.build { own := "render" } config (fragmentRetrievers reading))
  let files := (← get).scene.files
  let template ← liftExcept (readNamed files "template" (reading.operand?.getD ""))
  let bindings ← liftExcept ((reading.values "--context").mapM (readBindings files))
  let token? ← liftExcept (CancelToken.ofSettings config (← get).scene.systemTime)
  modify fun world => { world with scene := { world.scene with token? } }
  let guarded := token?.isSome
  match givenPath? reading "--layout" with
  | some path =>
    let layout ← liftExcept (readNamed files "layout" path)
    return (← onWorld (renderer.renderInLayout template layout bindings guarded), none)
  | none =>
    let (content, report) ← onWorld (renderer.compose template bindings guarded)
    return (content, some report)
where
  /-- An outcome that the world has no part in. -/
  liftExcept {α : Type} : Outcome α → ExceptT Error (StateM RenderWorld) α
    | .ok a => return a
    | .error e => throw e

/-- What is printed of a rendered text. -/
def renderedText (json : Bool) (content : String) (report? : Option Report) (elapsed : Float) :
    String :=
  if json then
    let report := match report? with
      | some report => Value.ofFields (report.toFields elapsed)
      | none => .null
    Json.page (Value.ofFields
      [("status", .str "success"), ("content", .str content), ("report", report)]) ++ "\n"
  else content

/-- Sets the log up as the configuration and the command line say. -/
def setUpLog (reading : Reading) (config : Entries) (files : FileTree) :
    Outcome Log.Setup × FileTree :=
  match Config.logPath config with
  | .error f => (.error (.fault f), files)
  | .ok path? =>
    let level := (givenPath? reading "--log-level").getD (Config.logLevel config)
    match ({} : Log.Setup).configure files level path? with
    | (.ok (), setup, files) => (.ok setup, files)
    | (.error f, _, files) => (.error (.fault f), files)

/-- Renders a template. -/
def runRender (reading : Reading) (environment : Config.Environment) (stamp : String)
    (files : FileTree) : Output :=
  let json := reading.has "--json"
  let manager := Config.Manager.ofPath ((reading.value? "--config").getD "")
  match manager.load files environment with
  | (.error e, _, _) => .ofError json "" files e
  | (.ok config, _, _) =>
    match setUpLog reading config files with
    | (.error e, files) => .ofError json "" files e
    | (.ok setup, files) =>
      let world : RenderWorld :=
        { scene := { sessionTime := 0, systemTime := 0, files, state := () } }
      let (outcome, world) := (renderNamed reading config).run.run world
      let (stderr, files) := setup.emitAll stamp world.log world.scene.files
      match outcome with
      | .error e => .ofError json stderr files e
      | .ok (content, report?) => { files, stderr, stdout := renderedText json content report? }

/-- Runs the program. -/
def run (words : List String) (environment : Config.Environment) (stamp : String)
    (files : FileTree) : Output :=
  match Request.ofWords words with
  | .error .misuse => { files, stderr := usage, ending := .exited 2 }
  | .error .help => { files, stdout := fun _ => usage, ending := .exited 0 }
  | .error .version => { files, stdout := fun _ => "viewcompose 1.0.0\n", ending := .exited 0 }
  | .ok .nothing => { files, stdout := fun _ => usage }
  | .ok (.command .parse reading) => runParse reading files
  | .ok (.command .render reading) => runRender reading environment stamp files

end TagWeave.Cli
